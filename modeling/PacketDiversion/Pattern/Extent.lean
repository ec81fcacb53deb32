import PacketDiversion.Pattern.Basic

/-!
# Extent of patterns

What can be told of the pieces that a pattern fits from its form alone: how long they are at least,
whether all of them are empty, whether they stand at an end of the text, and which words they are.
-/

namespace PacketDiversion.Pattern

/-- The number of characters that every piece has. A pattern of which a part fits nothing has none,
although that part may be passed over. -/
def leastLength? : Pattern → Option Nat
  | empty => some 0
  | word text => some text.length
  | one set => if set.runs.isEmpty then none else some 1
  | anchored _ => some 0
  | group _ p => p.leastLength?
  | seq p q => do return (← p.leastLength?) + (← q.leastLength?)
  | either p q => do return min (← p.leastLength?) (← q.leastLength?)
  | times p least _ _ => p.leastLength?.map (· * least)

/-- Whether every piece is empty. -/
def fitsEmptyOnly : Pattern → Bool
  | empty => true
  | word text => text.isEmpty
  | one _ => false
  | anchored _ => true
  | group _ p => p.fitsEmptyOnly
  | seq p q => p.fitsEmptyOnly && q.fitsEmptyOnly
  | either p q => p.fitsEmptyOnly && q.fitsEmptyOnly
  | times p _ most _ => most.isSome && p.fitsEmptyOnly

/-- The words that a choice is among, if all of them are words. -/
def words? : Pattern → Option (List (List Char))
  | word text => some [text]
  | either p q => do return (← p.words?) ++ (← q.words?)
  | _ => none

/-- Whether every piece begins at the start of the text. -/
def beginsAtStart : Pattern → Bool
  | anchored .textStart => true
  | group _ p => p.beginsAtStart
  | seq p q => p.beginsAtStart || (p.fitsEmptyOnly && q.beginsAtStart)
  | either p q => p.beginsAtStart && q.beginsAtStart
  | times p least _ _ => 0 < least && p.beginsAtStart
  | _ => false

/-- Whether every piece ends at the end of the text. -/
def endsAtEnd : Pattern → Bool
  | anchored .textEnd => true
  | group _ p => p.endsAtEnd
  | seq p q => q.endsAtEnd || (q.fitsEmptyOnly && p.endsAtEnd)
  | either p q => p.endsAtEnd && q.endsAtEnd
  | times p least _ _ => 0 < least && p.endsAtEnd
  | _ => false

end PacketDiversion.Pattern
