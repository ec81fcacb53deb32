import PacketDiversion.Pattern.Basic

/-!
# Searching a text for a pattern

The gaps of a text that can be reached from marked gaps over pieces that a pattern fits are found
for all marks at once. A pattern occurs in a text if some gap is reached when every gap is marked. A
text of `n` characters has `n + 1` gaps, so no more than `n + 1` rounds of a repetition bring
anything new.
-/

namespace PacketDiversion.Pattern

/-- A mark or none for each gap of a text. -/
abbrev Marks := List Bool

namespace Marks

/-- What is marked in one or the other. -/
def union (a b : Marks) : Marks := List.zipWith or a b

/-- Takes a step as often as said, or until it changes nothing. -/
def exactly (step : Marks → Marks) : (rounds : Nat) → Marks → Marks
  | 0, marks => marks
  | rounds + 1, marks =>
    let next := step marks
    if next = marks then marks else exactly step rounds next

/-- Takes a step up to as often as said and keeps all marks, or until it brings nothing new. -/
def atMost (step : Marks → Marks) : (rounds : Nat) → Marks → Marks
  | 0, marks => marks
  | rounds + 1, marks =>
    let next := marks.union (step marks)
    if next = marks then marks else atMost step rounds next

end Marks

/-- The gaps of a text that follows a character or nothing. -/
def gaps (before : Option Char) : List Char → List Gap
  | [] => [⟨before, none⟩]
  | c :: rest => ⟨before, some c⟩ :: gaps (some c) rest

/-- The gaps that are reached from marked ones over one character that passes a test. -/
def reachOver (text : List Char) (test : Char → Bool) (marks : Marks) : Marks :=
  false :: List.zipWith (fun mark c => mark && test c) marks text

/-- The gaps of a text that a pattern reaches from marked ones. -/
def reach (text : List Char) : Pattern → Marks → Marks
  | empty, marks => marks
  | word letters, marks =>
    letters.foldl (fun marks letter => reachOver text (· == letter) marks) marks
  | one set, marks => reachOver text (fun c => set.contains c.toNat) marks
  | anchored anchor, marks =>
    List.zipWith (fun mark gap => mark && anchor.holds gap) marks (gaps none text)
  | group _ p, marks => reach text p marks
  | seq p q, marks => reach text q (reach text p marks)
  | either p q, marks => (reach text p marks).union (reach text q marks)
  | times p least most _, marks =>
    let rounds := text.length + 1
    let more := match most with
      | none => rounds
      | some most => min (most - least) rounds
    let step (marks : Marks) : Marks := reach text p marks
    Marks.atMost step more (Marks.exactly step (min least rounds) marks)

/-- Whether some piece of a text fits a pattern. -/
def occursIn (p : Pattern) (text : String) : Bool :=
  let text := text.toList
  (reach text p (List.replicate (text.length + 1) true)).any id

end PacketDiversion.Pattern
