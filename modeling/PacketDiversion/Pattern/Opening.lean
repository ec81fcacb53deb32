import PacketDiversion.Pattern.Extent
import PacketDiversion.Text.Utf8

/-!
# Openings

A pattern is searched for by the texts that its pieces open with, if there are few enough of them. If
these texts are whole pieces, no automaton is needed at all. A piece is looked for at each place of
the text in the order of choices, so a text that opens with an earlier one adds nothing.
-/

namespace PacketDiversion.Pattern

/-- A text that pieces open with. -/
structure Opening where
  text : List Nat
  /-- Whether it is a whole piece. -/
  whole : Bool
  deriving DecidableEq, Repr

/-- The texts that pieces open with, the preferred ones first, unless there are too many. -/
abbrev Openings := Option (List Opening)

namespace Opening

def piece (text : List Nat) : Opening := ⟨text, true⟩

/-- The opening of no more than so many bytes. -/
def cut (size : Nat) (o : Opening) : Opening :=
  if o.text.length ≤ size then o else ⟨o.text.take size, false⟩

/-- The opening as one that goes on. -/
def goingOn (o : Opening) : Opening := { o with whole := false }

/-- The opening with another one behind it. -/
def before (o next : Opening) : Opening :=
  if o.whole then ⟨o.text ++ next.text, next.whole⟩ else o

/-- Openings without those that say the same as the one before them. A text is a whole piece only if
each of them says so. -/
def distinct : List Opening → List Opening
  | [] => []
  | o :: rest =>
    match distinct rest with
    | next :: others =>
      if o.text = next.text then ⟨o.text, o.whole && next.whole⟩ :: others else o :: next :: others
    | [] => [o]

/-- Openings without those whose text begins with an earlier one. -/
def withoutLater : (kept : List Opening) → List Opening → List Opening
  | kept, [] => kept.reverse
  | kept, o :: rest =>
    if kept.any fun earlier => earlier.text.isPrefixOf o.text then withoutLater kept rest
    else withoutLater (o :: kept) rest

end Opening

namespace Openings

open Opening (distinct withoutLater)

/-- The most openings. -/
def mostOpenings : Nat := 250

/-- The most bytes of an opening. -/
def mostBytes : Nat := 100

/-- The most characters of a set that are told apart. -/
def mostCharacters : Nat := 10

/-- The most times that a repeated part is told apart. -/
def mostTimes : Nat := 10

def empty : Openings := some [.piece []]

/-- Openings that all go on. -/
def goingOn (s : Openings) : Openings := s.map fun list => list.map Opening.goingOn

/-- Whether nothing behind the openings can be told, since all go on. -/
def allGoOn (s : Openings) : Bool := s.all fun list => list.all fun o => !o.whole

/-- The openings of one pattern or another. If there are too many it is tried with the first four
bytes of each. -/
def union : Openings → Openings → Openings
  | some s, some t =>
    if s.length + t.length ≤ mostOpenings then some (distinct (s ++ t))
    else
      let s := distinct (s.map (Opening.cut 4))
      let t := distinct (t.map (Opening.cut 4))
      if s.length + t.length ≤ mostOpenings then some (distinct (s ++ t)) else none
  | _, _ => none

/-- The openings of one pattern behind another. -/
def before : Openings → Openings → Openings
  | none, _ => none
  | some s, t =>
    match t.filter fun t => s.length * t.length ≤ mostOpenings with
    | some t =>
      let both := s.flatMap fun o => if o.whole then t.map o.before else [o]
      some ((distinct both).map (Opening.cut mostBytes))
    | none => if s.any fun o => o.text.isEmpty then none else goingOn (some s)

/-- The openings of several patterns in a row. -/
def row (parts : List Openings) : Openings :=
  parts.foldl (fun s t => if s.allGoOn then s else s.before t) empty

/-- The openings of a choice. -/
def choice (parts : List Openings) : Openings := parts.foldl union (some [])

/-- The openings of a set of characters. -/
def ofSet (s : CharSet) : Openings :=
  let size := s.runs.foldl (fun size run => size + (run.2 + 1 - run.1)) 0
  if mostCharacters < size then none
  else some (s.runs.flatMap fun run =>
    (List.range (run.2 + 1 - run.1)).map fun i => .piece (Text.utf8 (run.1 + i)))

/-- The openings of a repetition. -/
def repeated (s : Openings) (least : Nat) (most : Option Nat) (lazy : Bool) : Openings :=
  if least = 0 then
    let s := if most = some 1 then s else s.goingOn
    if lazy then union empty s else union s empty
  else
    let first := row (List.replicate (min least mostTimes) s)
    if most = some least ∧ least ≤ mostTimes then first else first.goingOn

end Openings

/-- What a pattern opens with, or what its parts do if they stand in a row or are choices. -/
inductive Beginning
  | whole (s : Openings)
  | row (parts : List Openings)
  | choice (parts : List Openings)

namespace Beginning

def openings : Beginning → Openings
  | whole s => s
  | row parts => Openings.row parts
  | choice parts => Openings.choice parts

/-- The openings of the parts in a row. -/
def items : Beginning → List Openings
  | row parts => parts
  | b => [b.openings]

/-- The openings of the choices. -/
def branches : Beginning → List Openings
  | choice parts => parts
  | b => [b.openings]

end Beginning

/-- What a pattern opens with. -/
def beginning : Pattern → Beginning
  | empty => .whole .empty
  | word text =>
    .whole (some [(Opening.piece (Text.utf8Text text)).cut Openings.mostBytes])
  | one set => .whole (.ofSet set)
  | anchored _ => .whole .empty
  | group _ p => p.beginning
  | seq p q => .row (p.beginning.items ++ q.beginning.items)
  | either p q => .choice (p.beginning.branches ++ q.beginning.branches)
  | times p least most lazy => .whole (p.beginning.openings.repeated least most lazy)

/-! ### Searching for openings -/

/-- Bytes that are taken to be rare in texts. -/
def rareBytes : List (Nat × Nat) :=
  [(0x00, 0x09), (0x0B, 0x0C), (0x0E, 0x1F), (0x21, 0x27), (0x2A, 0x2B), (0x33, 0x38),
    (0x3B, 0x5E), (0x60, 0x60), (0x6A, 0x6B), (0x71, 0x71), (0x77, 0x77), (0x7A, 0x7B),
    (0x7D, 0x7F), (0x85, 0x8F), (0x91, 0xB0), (0xB2, 0xB4), (0xB8, 0xB8), (0xBE, 0xBE)]

/-- What two texts begin with. -/
def commonText : List Nat → List Nat → List Nat
  | a :: as, b :: bs => if a = b then a :: commonText as bs else []
  | _, _ => []

/-- Openings that are too many to search for quickly, cut shorter step by step until they are few. -/
def shortened : List (Nat × Nat) → List Opening → List Opening
  | [], list => list
  | (size, few) :: rest, list =>
    if list.length ≤ few then list
    else shortened rest (Opening.withoutLater [] (list.map (Opening.cut size)))

/-- Openings as they are searched for. A rare byte that all begin with is enough; so is a longer
text. Many openings are cut shorter, unless they are whole pieces and the short ones would be found
too often or would still be too many. -/
def soughtOpenings (list : List Opening) : List Opening :=
  let kept := Opening.withoutLater [] list
  match kept with
  | [] => []
  | first :: others =>
    let common := others.foldl (fun common o => commonText common o.text) first.text
    let rare := common.head?.any fun byte => CharSet.holds byte rareBytes
    if 1 < list.length ∧ common.length ≤ 3 ∧ rare then
      Opening.distinct (kept.map (Opening.cut 1))
    else
      let quick := kept.all (fun o => o.whole) ∧ kept.length ≤ 16
      let kept :=
        if 4 < common.length ∨ (1 < common.length ∧ ¬quick) then
          Opening.distinct (kept.map (Opening.cut common.length))
        else kept
      let short := shortened [(5, 10), (4, 10), (3, 64), (2, 64), (1, 10)] kept
      if kept.all (fun o => o.whole) ∧
          (short.any (fun o => o.text.length ≤ 2) ∨ 64 < short.length) then kept
      else short

/-- Whether a pattern has neither groups nor conditions, so that it says nothing but which texts it
fits. -/
def isPlain : Pattern → Bool
  | anchored _ => false
  | group _ _ => false
  | seq p q => p.isPlain && q.isPlain
  | either p q => p.isPlain && q.isPlain
  | times p _ _ _ => p.isPlain
  | _ => true

/-- Whether a search for texts finds a pattern without an automaton. -/
def isFewTexts (p : Pattern) : Bool :=
  p.isPlain && p.beginning.openings.any fun list =>
    !list.isEmpty && list.all (fun o => !o.text.isEmpty)
      && (soughtOpenings list).all fun o => o.whole

/-- Whether a pattern is a choice among very many words, which are searched for all at once. -/
def isManyWords (p : Pattern) : Bool := p.words?.any fun words => 3000 ≤ words.length

end PacketDiversion.Pattern
