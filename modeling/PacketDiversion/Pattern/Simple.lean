import PacketDiversion.Pattern.Extent

/-!
# Simple forms

Patterns are built in a simple form: words that follow each other are one word, a sequence holds no
empty parts and no sequences, a choice holds no choices, a choice among characters is a set, and
parts that all choices begin with stand before the choice.
-/

namespace PacketDiversion.Pattern

/-! ### Sets -/

/-- The pattern of a set of characters. A set of one character is a word. -/
def ofSet (s : CharSet) : Pattern :=
  match s.runs with
  | [(first, last)] => if first = last then word [Char.ofNat first] else one s
  | _ => one s

/-! ### Sequences -/

/-- The parts of a sequence. -/
def items : Pattern → List Pattern
  | empty => []
  | seq p q => p.items ++ q.items
  | p => [p]

/-- Parts of a sequence with neighbouring words made one. -/
def joinWords : List Pattern → List Pattern
  | [] => []
  | word text :: rest =>
    match joinWords rest with
    | word more :: others => word (text ++ more) :: others
    | others => word text :: others
  | p :: rest => p :: joinWords rest

/-- Some parts as a sequence. -/
def chain : List Pattern → Pattern
  | [] => empty
  | [p] => p
  | p :: rest => seq p (chain rest)

/-- One pattern after the other. -/
def seqs (patterns : List Pattern) : Pattern := chain (joinWords (patterns.flatMap items))

/-! ### Choices -/

/-- What a choice is among. -/
def branches : Pattern → List Pattern
  | either p q => p.branches ++ q.branches
  | p => [p]

/-- Some patterns as a choice. -/
def fork : List Pattern → Pattern
  | [] => one .empty
  | [p] => p
  | p :: rest => either p (fork rest)

/-- The character of a word of one character. -/
def letter? : Pattern → Option Char
  | word [c] => some c
  | _ => none

/-- The set of a pattern for a set. -/
def set? : Pattern → Option CharSet
  | one s => some s
  | _ => none

/-- A choice among characters, or among sets of them, as a set. -/
def setOf? (patterns : List Pattern) : Option Pattern :=
  match patterns.mapM letter? with
  | some letters => some (ofSet (.ofCodes (letters.map Char.toNat)))
  | none => (patterns.mapM set?).map fun sets => ofSet (.unions sets)

/-- A choice among patterns that begin differently. -/
def forks (patterns : List Pattern) : Pattern :=
  match patterns.flatMap branches with
  | [p] => p
  | patterns => (setOf? patterns).getD (fork patterns)

/-- What two lists begin with. -/
def commonStart : List Pattern → List Pattern → List Pattern
  | p :: ps, q :: qs => if p = q then p :: commonStart ps qs else []
  | _, _ => []

def sequence? (p : Pattern) : Option (List Pattern) :=
  match p with
  | seq _ _ => some p.items
  | _ => none

/-- The parts that all of some sequences begin with, and what follows them in each. -/
def sharedStart? (patterns : List Pattern) : Option (List Pattern × List (List Pattern)) := do
  match ← patterns.mapM sequence? with
  | [] => none
  | first :: others =>
    let start := others.foldl commonStart first
    if start.isEmpty then none
    else return (start, (first :: others).map fun parts => parts.drop start.length)

/-- A choice among patterns. Parts that all of them begin with are taken out; what is left begins
differently, so there is nothing to take out of it again. -/
def choices (patterns : List Pattern) : Pattern :=
  match patterns.flatMap branches with
  | [p] => p
  | patterns =>
    match setOf? patterns with
    | some p => p
    | none =>
      match sharedStart? patterns with
      | some (start, rests) => seqs (start ++ [forks (rests.map seqs)])
      | none => fork patterns

/-! ### Repetition -/

/-- A pattern some times in a row. One that fits empty pieces only is not needed twice. -/
def repeated (p : Pattern) (least : Nat) (most : Option Nat) (lazy : Bool) : Pattern :=
  let (least, most) :=
    if p.fitsEmptyOnly then (min least 1, some (min (most.getD 1) 1)) else (least, most)
  if most = some 0 then empty
  else if least = 1 ∧ most = some 1 then p
  else times p least most lazy

end PacketDiversion.Pattern
