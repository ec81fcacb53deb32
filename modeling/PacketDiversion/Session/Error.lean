import PacketDiversion.Host.Error
import PacketDiversion.Parameter
import PacketDiversion.Selection.Priority

/-!
# Errors of session operations

An operation either refuses its arguments, before anything reaches the operating system, or passes
on the operating system's error together with the operation that met it. `SessionError.message` is
the one place that words them.
-/

namespace PacketDiversion

/-- The operation that met an error of the operating system. -/
inductive Operation
  | openSession
  | createEvent
  | recv
  | send
  | shutdown
  | getParameter
  | setParameter
  | close
  deriving DecidableEq, Repr

namespace Operation

def all : List Operation :=
  [openSession, createEvent, recv, send, shutdown, getParameter, setParameter, close]

def name : Operation → String
  | openSession => "open"
  | createEvent => "create_event"
  | recv => "recv"
  | send => "send"
  | shutdown => "shutdown"
  | getParameter => "get_param"
  | setParameter => "set_param"
  | close => "close"

def ofName? (s : String) : Option Operation := all.find? fun o => o.name == s

end Operation

/-- An argument that an operation cannot work with. -/
inductive BadArgument
  /-- A batch receive without room for an address. -/
  | noAddressSlot
  /-- A batch send without an address. -/
  | noAddress
  /-- A relay without address slots or without a buffer. -/
  | emptyRelay
  deriving DecidableEq, Repr

def BadArgument.text : BadArgument → String
  | noAddressSlot => "recv_ex needs at least one address slot"
  | noAddress => "send_ex needs at least one address"
  | emptyRelay => "relay batch and buffer size must be non-zero"

/-- Why a session operation failed. -/
inductive SessionError
  | priority (value lowest highest : Int)
  | parameterRange (parameter : Parameter) (value : UInt64) (bounds : Bounds)
  | readOnly (parameter : Parameter)
  /-- A filter with a NUL at this byte. -/
  | filter (nulAt : Nat)
  | argument (what : BadArgument)
  /-- The operating system or the driver failed the operation. -/
  | host (operation : Operation) (source : HostError)
  deriving DecidableEq, Repr

namespace SessionError

def message : SessionError → String
  | priority value lowest highest =>
    s!"priority {value} is out of range [{lowest}, {highest}]"
  | parameterRange p value bounds =>
    s!"{p.name} value {value.toNat} is out of range [{bounds.min.toNat}, {bounds.max.toNat}]"
  | readOnly p => s!"parameter `{p.name}` cannot be set"
  | filter nulAt =>
    s!"filter is not a valid C string: nul byte found in provided data at position: {nulAt}"
  | argument what => s!"invalid argument: {what.text}"
  | host operation source => s!"{operation.name} failed: {source.text}"

def code? : SessionError → Option Int
  | host _ source => source.code?
  | _ => none

/-- What the driver usually means by the code. -/
def diagnosis? (e : SessionError) : Option Diagnosis := e.code?.bind Diagnosis.ofCode?

/-- Whether the error only says that a shut-down session has nothing left to deliver. -/
def isDrained (e : SessionError) : Bool := e.diagnosis? == some .noData

end SessionError

/-! ### Local checks -/

/-- Refuses a priority that the driver would not take. -/
def Priority.check (p : Int) : Except SessionError Unit :=
  if Valid p then .ok () else .error (.priority p lowest highest)

/-- Refuses a value that a parameter cannot be set to. -/
def Parameter.check (p : Parameter) (value : UInt64) : Except SessionError Unit :=
  match p.bounds with
  | none => .error (.readOnly p)
  | some bounds =>
    if bounds.Contains value then .ok () else .error (.parameterRange p value bounds)

end PacketDiversion
