import PacketDiversion.Gate.Error
import PacketDiversion.Logging.Level
import PacketDiversion.Packet.Address
import PacketDiversion.Relay.Basic
import PacketDiversion.Request.Code
import PacketDiversion.Request.Overlapped
import PacketDiversion.Selection.Filter
import PacketDiversion.Selection.Flags
import PacketDiversion.Text.Quoted

/-!
# Notices

What the library reports while it works. A notice says what happened; `Notice.line` gives it its
level and its words.
-/

namespace PacketDiversion

open Logging

/-- Something that happened and is worth a log line. -/
inductive Notice
  /-- A request was finished at once. -/
  | finished (code bytes : UInt32)
  /-- A request was taken; its event will tell. -/
  | pending (code : UInt32) (event : Handle)
  /-- A pending request was finished. -/
  | finishedLater (code bytes : UInt32)
  /-- A context's event could not be released when the context went away. -/
  | eventKept (error : HostError)
  /-- The event of a single request could not be released. -/
  | requestEventKept (error : HostError)
  /-- An event of a session could not be released. -/
  | sessionEventKept (session : Handle) (error : HostError)
  /-- The handle of a session that was never finished could not be released. -/
  | handleKept (session : Handle) (error : HostError)
  | opened (session : Handle) (layer : Layer) (priority : Int) (flags : Flags) (filter : Filter)
  | closed (session : Handle)
  /-- A session that went away unclosed could not be closed. -/
  | closeFailed (error : SessionError)
  | shutDown (session : Handle) (how : Direction)
  | parameterRead (session : Handle) (parameter : Parameter) (value : UInt64)
  | parameterSet (session : Handle) (parameter : Parameter) (value : UInt64)
  | probed (version : Version)
  | accepted (version : Version)
  | rejected (reason : Rejection)
  | relayStarted (session : Handle) (options : Relay.Options)
  /-- A relay met the end of a shut-down session's queue. -/
  | relayDrained (stats : Relay.Stats)
  | packet (address : Address)
  | reinjected (count bytes : Nat)

namespace Notice

def level : Notice → Level
  | finished .. | pending .. | finishedLater .. | packet .. => .trace
  | opened .. | parameterRead .. | parameterSet .. | probed .. | reinjected .. => .debug
  | closed .. | shutDown .. | accepted .. | relayStarted .. | relayDrained .. => .info
  | eventKept .. | requestEventKept .. | sessionEventKept .. | handleKept .. | closeFailed .. =>
    .warn
  | rejected .. => .error

def message : Notice → String
  | finished code bytes =>
    s!"ioctl {Text.hex code.toNat} completed inline, bytes={bytes.toNat}"
  | pending code event => s!"ioctl {Text.hex code.toNat} pending, waiting on event {event}"
  | finishedLater code bytes =>
    s!"ioctl {Text.hex code.toNat} completed, bytes={bytes.toNat}"
  | eventKept e => s!"Failed to release completion event: {e.text}"
  | requestEventKept e => s!"Failed to release throwaway completion event: {e.text}"
  | sessionEventKept session e =>
    s!"Failed to release completion event of session {session}: {e.text}"
  | handleKept session e =>
    s!"Failed to release handle {session} after event creation failed: {e.text}"
  | opened session layer priority flags filter =>
    s!"Session {session} opened: layer={layer.name} priority={priority} "
      ++ s!"flags={flags.text} filter={Text.quoteFilter filter.text}"
  | closed session => s!"Session {session} closed"
  | closeFailed e => s!"Error closing session on drop: {e.message}"
  | shutDown session how => s!"Session {session} shut down ({how.name})"
  | parameterRead session p value => s!"Session {session} {p.name} = {value.toNat}"
  | parameterSet session p value => s!"Session {session} {p.name} set to {value.toNat}"
  | probed version => s!"Probed driver version {version.text}"
  | accepted version => s!"Driver version {version.text} accepted"
  | rejected reason => s!"Packet diversion is unusable in this process: {reason.message}"
  | relayStarted session o =>
    s!"Relay started on session {session}: batch={o.batch} buffer={o.bufferSize} "
      ++ s!"reinject={o.reinject}"
  | relayDrained stats => s!"Relay drained: {stats.description}"
  | packet a =>
    let direction := if a.outbound then "outbound" else "inbound"
    s!"{direction} packet if={a.interfaceIndex.toNat}/{a.subInterfaceIndex.toNat} "
      ++ s!"ts={a.timestamp.toInt} loopback={a.loopback} ipv6={a.ipv6}"
  | reinjected count bytes => s!"Re-injected {count} packets ({bytes} bytes)"

def line (n : Notice) : Line := ⟨n.level, n.message⟩

end Notice

end PacketDiversion
