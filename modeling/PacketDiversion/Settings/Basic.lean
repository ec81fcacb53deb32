import PacketDiversion.Parameter
import PacketDiversion.Relay.Basic
import PacketDiversion.Selection.Flags
import PacketDiversion.Selection.Layer
import PacketDiversion.Selection.Priority

/-!
# Settings

What an operator decides: which session is opened, how the driver's queue is tuned, how the relay
works, and what is logged. Everything but the session's filter has a default.
-/

namespace PacketDiversion

/-- The session to open. -/
structure SessionSettings where
  filter : String
  layer : Layer := default
  priority : Int := Priority.default
  /-- The names of the session's flags. -/
  flagNames : List String := []
  deriving DecidableEq, Repr

/-- Tuning of the driver's queue. What is not set stays as the driver has it. -/
structure QueueSettings where
  /-- Most packets in the queue. -/
  length : Option UInt64 := none
  /-- Most milliseconds that a packet stays in the queue. -/
  time : Option UInt64 := none
  /-- Most bytes in the queue. -/
  size : Option UInt64 := none
  deriving DecidableEq, Repr

/-- Bytes that hold a packet of any size. -/
def packetRoom : Nat := 40 + 0xFFFF

/-- How the relay works. -/
structure RelaySettings where
  /-- Most packets of one receive. -/
  batch : Nat := 16
  /-- Bytes of the packet buffer. -/
  bufferSize : Nat := packetRoom
  reinject : Bool := true
  deriving DecidableEq, Repr

/-- What is logged. -/
structure LoggingSettings where
  spec : String := "divert=info"
  directory : String := "logs"
  deriving DecidableEq, Repr

structure Settings where
  session : SessionSettings
  queue : QueueSettings := {}
  relay : RelaySettings := {}
  logging : LoggingSettings := {}
  deriving DecidableEq, Repr

/-- The parameters to set, in the order in which they are set. -/
def QueueSettings.entries (q : QueueSettings) : List (Parameter × UInt64) :=
  [(Parameter.queueLength, q.length), (.queueTime, q.time), (.queueSize, q.size)].filterMap
    fun entry => entry.2.map fun value => (entry.1, value)

/-- The options of a relay on a session with these flags. A session that never injects has a relay
that never does. -/
def RelaySettings.options (r : RelaySettings) (flags : Flags) : Relay.Options where
  batch := r.batch
  bufferSize := r.bufferSize
  reinject := r.reinject && !flags.intersects Flags.passive

end PacketDiversion
