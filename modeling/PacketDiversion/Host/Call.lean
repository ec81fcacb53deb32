import PacketDiversion.Gate.Error
import PacketDiversion.Packet.Address
import PacketDiversion.Request.Block
import PacketDiversion.Request.Overlapped
import PacketDiversion.Selection.Filter
import PacketDiversion.Selection.Flags

/-!
# Calls to the operating system

The library needs seven things from the operating system. `Call` lists them with what the caller
hands over, `Call.Reply` says what may come back. Nothing here says which reply a call gets: any
system is a choice of replies.
-/

namespace PacketDiversion

/-- The driver's open routine, found when its library is loaded. -/
structure Entry where
  routine : UInt64
  deriving DecidableEq, Repr

/-! ### Requests -/

/-- What a request gives the driver to read. -/
inductive Payload
  /-- Room for address records, in bytes, as announced in the length cell. -/
  | recv (capacity : UInt32)
  /-- Packets back to back, with their records and the length of the records in bytes. -/
  | send (data : Bytes) (recordBytes : UInt64) (records : List Address)
  /-- The 16 bytes of any other request. -/
  | block (block : Block)
  deriving DecidableEq

structure Request where
  code : UInt32
  payload : Payload
  /-- Announced length of the output buffer, if there is one. -/
  outputLength : Option UInt32
  deriving DecidableEq

/-- What a request, or the wait for it, wrote into the caller's memory: a front part of the output
buffer, a front part of the address records, the length cell and the words of the overlapped
block. -/
structure Written where
  /-- Front of the output buffer. -/
  output : Bytes := []
  /-- Front of the address records. -/
  records : List Address := []
  recordBytes : Option UInt32 := none
  words : Option StatusWords := none
  deriving DecidableEq

inductive Verdict
  /-- It moved this many bytes. -/
  | finished (bytes : UInt32)
  | failed (error : HostError)
  /-- It never returned to its caller: the call panicked. -/
  | panicked
  deriving DecidableEq, Repr

/-- The end of a request, or of the wait for it. -/
structure Completion where
  verdict : Verdict
  written : Written
  deriving DecidableEq

/-! ### Calls -/

inductive Call
  | queryEmulation
  | loadEntry
  | openSession (entry : Entry) (filter : Filter) (layer : Layer) (priority : Int) (flags : Flags)
  | createEvent
  | closeHandle (handle : Handle)
  | control (handle : Handle) (request : Request) (block : Overlapped)
  /-- Ask for the result of a request that will signal `event`, waiting for it if `wait` is set. -/
  | result (handle : Handle) (event : Handle) (wait : Bool)
  deriving DecidableEq

@[reducible] def Call.Reply : Call → Type
  | queryEmulation => Except HostError Bool
  | loadEntry => Except Rejection Entry
  | openSession .. | createEvent => Except HostError Handle
  | closeHandle _ => Except HostError Unit
  | control .. | result .. => Completion

structure Event where
  call : Call
  reply : call.Reply

end PacketDiversion
