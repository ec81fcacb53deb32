import PacketDiversion.Gate.Error

/-!
# Outcomes

An operation ends in one of three ways: with a value, with an error for its caller, or by unwinding
through its caller after a panic.
-/

namespace PacketDiversion

inductive Panic
  | rejected (reason : Rejection)
  /-- A call to the operating system panicked. -/
  | host
  /-- The driver reported more than the buffers it was given can hold. -/
  | overrun
  deriving DecidableEq, Repr

inductive Outcome (ε α : Type)
  | ok (value : α)
  | error (e : ε)
  | unwound (why : Panic)
  deriving DecidableEq, Repr

namespace Outcome

variable {ε δ α β : Type}

def map (f : α → β) : Outcome ε α → Outcome ε β
  | ok value => ok (f value)
  | error e => error e
  | unwound why => unwound why

def mapError (f : ε → δ) : Outcome ε α → Outcome δ α
  | ok value => ok value
  | error e => error (f e)
  | unwound why => unwound why

/-- The outcome of a computation that cannot unwind. -/
def ofExcept : Except ε α → Outcome ε α
  | .ok value => ok value
  | .error e => error e

end Outcome

end PacketDiversion
