import PacketDiversion.Text.CaseFold
import PacketDiversion.Text.Category

/-!
# Sets of characters

What one place of a pattern may hold: ranges of code points that ascend and lie apart, so that equal
sets are written alike. Union, intersection, difference, complement and closure under letter case
keep that form; `contains` says what a set means.
-/

namespace PacketDiversion.Pattern

/-- A set of characters. -/
structure CharSet where
  /-- The ranges, both ends included, in ascending order. -/
  runs : List (Nat × Nat)
  deriving DecidableEq, Repr

namespace CharSet

/-- Whether some ranges hold a code point. They ascend, so none that begins behind it is looked
at. -/
def holds (code : Nat) : List (Nat × Nat) → Bool
  | [] => false
  | run :: rest =>
    if code < run.1 then false
    else if code ≤ run.2 then true
    else holds code rest

def contains (s : CharSet) (code : Nat) : Bool := holds code s.runs

/-! ### Union -/

/-- A range and further ones that begin in ascending order, with those made one that overlap or
touch. -/
def joined (run : Nat × Nat) : List (Nat × Nat) → List (Nat × Nat)
  | [] => [run]
  | next :: rest =>
    if next.1 ≤ run.2 + 1 then joined (run.1, max run.2 next.2) rest else run :: joined next rest

/-- The set of the code points in some ranges. -/
def ofRanges (ranges : List (Nat × Nat)) : CharSet :=
  match ranges.mergeSort fun a b => a.1 ≤ b.1 with
  | [] => ⟨[]⟩
  | run :: rest => ⟨joined run rest⟩

def ofCodes (codes : List Nat) : CharSet := ofRanges (codes.map fun code => (code, code))

def empty : CharSet := ⟨[]⟩

def single (c : Char) : CharSet := ⟨[(c.toNat, c.toNat)]⟩

def between (first last : Char) : CharSet := ⟨[(first.toNat, last.toNat)]⟩

/-- What is in some of the sets. -/
def unions (sets : List CharSet) : CharSet := ofRanges (sets.flatMap CharSet.runs)

def union (s t : CharSet) : CharSet := unions [s, t]

/-! ### Intersection -/

/-- The overlaps of two lists of ascending ranges. -/
def overlaps : List (Nat × Nat) → List (Nat × Nat) → List (Nat × Nat)
  | [], _ => []
  | _, [] => []
  | a :: as, b :: bs =>
    let first := max a.1 b.1
    let last := min a.2 b.2
    let rest := if a.2 < b.2 then overlaps as (b :: bs) else overlaps (a :: as) bs
    if first ≤ last then (first, last) :: rest else rest
  termination_by as bs => as.length + bs.length

def inter (s t : CharSet) : CharSet := ⟨overlaps s.runs t.runs⟩

/-! ### Complement

No character has a code point from 0xD800 to 0xDFFF, so 0xE000 comes next after 0xD7FF. -/

def greatest : Nat := 0x10FFFF

def after (code : Nat) : Nat := if code = 0xD7FF then 0xE000 else code + 1

def before (code : Nat) : Nat := if code = 0xE000 then 0xD7FF else code - 1

/-- The first and the last code point of each gap behind a code point and between ranges. Of a gap
without characters the first is greater than the last. -/
def gapsBehind (code : Nat) : List (Nat × Nat) → List (Nat × Nat)
  | [] => if code < greatest then [(after code, greatest)] else []
  | run :: rest => (after code, before run.1) :: gapsBehind run.2 rest

/-- The first and the last code point of each gap before, between and behind ranges. -/
def gaps : List (Nat × Nat) → List (Nat × Nat)
  | [] => [(0, greatest)]
  | run :: rest =>
    if 0 < run.1 then (0, before run.1) :: gapsBehind run.2 rest else gapsBehind run.2 rest

/-- What is not in a set: a range for each gap. Two ranges of which one ends at 0xD7FF and the other
begins at 0xE000 lie apart with no character between; that gap counts with its two neighbours. -/
def compl (s : CharSet) : CharSet :=
  ⟨(gaps s.runs).map fun gap => (min gap.1 gap.2, max gap.1 gap.2)⟩

def diff (s t : CharSet) : CharSet :=
  ⟨overlaps s.runs ((gaps t.runs).filter fun gap => gap.1 ≤ gap.2)⟩

def symmDiff (s t : CharSet) : CharSet := diff (union s t) (inter s t)

/-! ### Letter case -/

/-- The set with all that is the same as something in it but for case, by pairs of a code point and
what it folds to: first the folded forms come in, then all that folds to one of them. -/
def closeUnder (pairs : List (Nat × Nat)) (s : CharSet) : CharSet :=
  let forms := (pairs.filter fun pair => s.contains pair.1).map Prod.snd
  let folded := s.union (ofCodes forms)
  folded.union (ofCodes ((pairs.filter fun pair => folded.contains pair.2).map Prod.fst))

/-- The set with all that is the same as something in it but for case. With `wide` every letter has
a case, otherwise only those of ASCII. -/
def anyCase (wide : Bool) (s : CharSet) : CharSet :=
  s.closeUnder (if wide then Text.foldPairs else Text.asciiFoldPairs)

def categories (cs : List Text.Category) : CharSet := ofRanges (Text.categoryRanges cs)

end CharSet

end PacketDiversion.Pattern
