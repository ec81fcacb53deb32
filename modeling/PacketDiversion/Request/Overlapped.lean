/-!
# Overlapped blocks

The operating system reports on a request through an overlapped block: four words of its own, which
are zero when a request is issued, and the handle of the event that it signals on completion.
-/

namespace PacketDiversion

/-- Handle of a session or an event, as the operating system numbers them. -/
abbrev Handle := Int

/-- What a failed open returns in place of a handle. -/
def Handle.invalid : Handle := -1

/-- Stands for an event that is not there. -/
def Handle.null : Handle := 0

/-- The words of an overlapped block that belong to the operating system. -/
structure StatusWords where
  internal : UInt64
  /-- Bytes moved. -/
  internalHigh : UInt64
  offset : UInt32
  offsetHigh : UInt32
  deriving DecidableEq, Repr

/-- The words before a request is issued. -/
def StatusWords.clear : StatusWords := ⟨0, 0, 0, 0⟩

structure Overlapped where
  words : StatusWords
  /-- The event signalled on completion. -/
  event : Handle
  deriving DecidableEq, Repr

namespace Overlapped

/-- A fresh block for an event. -/
def withEvent (event : Handle) : Overlapped := ⟨.clear, event⟩

/-- A fresh block without an event. -/
def empty : Overlapped := withEvent Handle.null

/-- The block made ready for the next request: its event stays. -/
def reset (o : Overlapped) : Overlapped := { o with words := .clear }

end Overlapped

end PacketDiversion
