/-!
# Room for automata

How much memory the states of an automaton take. A state has a fixed size; those that look at the
next byte and those that choose where to go on take more for each way that leads out of them. The
states of a pattern are laid out one after the other, and only what they take is kept.
-/

namespace PacketDiversion.Pattern

/-- Which way an automaton reads a text. -/
inductive Direction
  | forward
  | backward
  deriving DecidableEq, Repr

/-- The states that are laid out so far. -/
structure Layout where
  /-- How many they are. -/
  states : Nat
  /-- The bytes that they take beyond their own size. -/
  extra : Nat
  /-- Whether the last part ends in a choice, which takes one more way to go on. -/
  endsInChoice : Bool
  deriving DecidableEq, Repr

namespace Layout

def none : Layout := ⟨0, 0, false⟩

def size (l : Layout) : Nat := 32 * l.states + l.extra

/-- The bytes that the states of an automaton may take. -/
def greatestSize : Nat := 10485760

def tooLarge (l : Layout) : Bool := greatestSize < l.size

/-- Lays out further states, of which the last one is no choice. -/
def add (count : Nat) (l : Layout) : Layout := ⟨l.states + count, l.extra, false⟩

/-- Ways for bytes to lead from a state to another. -/
def addEdges (count : Nat) (l : Layout) : Layout := { l with extra := l.extra + 8 * count }

/-- Ways that a choice may take. -/
def addWays (count : Nat) (l : Layout) : Layout := { l with extra := l.extra + 4 * count }

/-- Leads from the end of the last part to a further state. -/
def join (l : Layout) : Layout :=
  { l.addWays (if l.endsInChoice then 1 else 0) with endsInChoice := false }

/-- Closes a loop with a choice that goes back or on, which is where the loop ends. -/
def closeLoop (l : Layout) : Layout := { l.join.addWays 1 with endsInChoice := true }

/-- Takes a step so many times. Once there is too much there is no need to go on, because states are
only ever added. -/
def steps (step : Layout → Layout) : (count : Nat) → Layout → Layout
  | 0, l => l
  | count + 1, l => if l.tooLarge then l else steps step count (step l)

/-- Lays out a part so many times, each behind the one before, or a state that does nothing instead
of none. -/
def copies (part : Layout → Layout) : (count : Nat) → Layout → Layout
  | 0, l => l.add 1
  | count + 1, l => steps (fun l => part l.join) count (part l)

/-- Lays out a part so many times, each behind the one before and with a choice in front of it that
leads past all that follow. -/
def optionals (part : Layout → Layout) (count : Nat) (l : Layout) : Layout :=
  (steps (fun l => (part (l.join.add 1)).addWays 2) count { l with states := l.states + 1 }).join

end Layout

end PacketDiversion.Pattern
