import PacketDiversion.Pattern.Escape
import PacketDiversion.Pattern.Nested

/-!
# Bracketed sets

A set of characters written between brackets: characters, ranges, escapes, classes such as
`[:alpha:]` and further bracketed sets one after the other, a `^` in front for the complement, and
`&&`, `--` and `~~` for what is in both sides, in the left one only, or in one of them only.
-/

namespace PacketDiversion.Pattern

/-- What joins the two sides of a bracketed set. -/
inductive SetOperation
  | intersection
  | difference
  | symmetricDifference
  deriving DecidableEq, Repr

namespace SetOperation

def apply : SetOperation → CharSet → CharSet → CharSet
  | intersection => .inter
  | difference => .diff
  | symmetricDifference => .symmDiff

def ofChar? : Char → Option SetOperation
  | '&' => some intersection
  | '-' => some difference
  | '~' => some symmetricDifference
  | _ => none

end SetOperation

/-- The named classes of ASCII characters. -/
def asciiClasses : List (String × List (Nat × Nat)) :=
  [("alnum", [(0x30, 0x39), (0x41, 0x5A), (0x61, 0x7A)]),
    ("alpha", [(0x41, 0x5A), (0x61, 0x7A)]),
    ("ascii", [(0x00, 0x7F)]),
    ("blank", [(0x09, 0x09), (0x20, 0x20)]),
    ("cntrl", [(0x00, 0x1F), (0x7F, 0x7F)]),
    ("digit", [(0x30, 0x39)]),
    ("graph", [(0x21, 0x7E)]),
    ("lower", [(0x61, 0x7A)]),
    ("print", [(0x20, 0x7E)]),
    ("punct", [(0x21, 0x2F), (0x3A, 0x40), (0x5B, 0x60), (0x7B, 0x7E)]),
    ("space", [(0x09, 0x0D), (0x20, 0x20)]),
    ("upper", [(0x41, 0x5A)]),
    ("word", [(0x30, 0x39), (0x41, 0x5A), (0x5F, 0x5F), (0x61, 0x7A)]),
    ("xdigit", [(0x30, 0x39), (0x41, 0x46), (0x61, 0x66)])]

/-- Closes a set under letter case if the flags say so. -/
def foldSet (flags : Flags) (s : CharSet) : CharSet :=
  if flags.contains .anyCase then .anyCase (flags.contains .wide) s else s

/-- A set or its complement, closed under letter case first. Without wide classes there is no
complement. -/
def foldAndNegate? (flags : Flags) (negated : Bool) (s : CharSet) : Option CharSet :=
  if !negated then some (foldSet flags s)
  else if flags.contains .wide then some (.compl (foldSet flags s))
  else none

/-- A bracketed set that is being read. -/
structure Bracket where
  /-- Whether the complement is meant. -/
  negated : Bool
  /-- The left side and what joins it to the side that is being read. -/
  left : Option (SetOperation × Nested CharSet)
  items : List (Nested CharSet)
  deriving DecidableEq, Repr

namespace Bracket

def add (b : Bracket) (item : Nested CharSet) : Bracket := { b with items := item :: b.items }

/-- What has been read, both sides. -/
def whole (flags : Flags) (b : Bracket) : Nested CharSet :=
  let right := Nested.gather CharSet.unions b.items.reverse
  match b.left with
  | none => right
  | some (operation, left) =>
    let value := operation.apply (foldSet flags left.value) (foldSet flags right.value)
    ⟨value, max left.depth right.depth + 1⟩

/-- The bracket after a doubled sign: all read so far is the left side. -/
def operate (flags : Flags) (operation : SetOperation) (b : Bracket) : Bracket :=
  { b with left := some (operation, b.whole flags), items := [] }

def close? (flags : Flags) (b : Bracket) : Option (Nested CharSet) :=
  let whole := b.whole flags
  (foldAndNegate? flags b.negated whole.value).map whole.within

/-! ### Reading -/

/-- Reads the hyphens in front, which stand for themselves. Something must follow each. Each round
takes a hyphen. -/
def readHyphens (flags : Flags) (b : Bracket) : (rounds : Nat) → List Char →
    Option (Bracket × List Char)
  | rounds + 1, '-' :: rest =>
    match skip flags rest with
    | [] => none
    | rest => readHyphens flags (b.add (.leaf (.single '-'))) rounds rest
  | _, s => some (b, s)

/-- Reads the signs of an opening that stand for something else further on: `^`, hyphens, and a
closing bracket as the first item. -/
def readOpening (flags : Flags) (s : List Char) : Option (Bracket × List Char) := do
  let (negated, s) := match skip flags s with
    | '^' :: rest => (true, skip flags rest)
    | s => (false, s)
  if s.isEmpty then none
  let (b, s) ← readHyphens flags ⟨negated, none, []⟩ s.length s
  match s with
  | ']' :: rest =>
    if b.items.isEmpty then
      if (skip flags rest).isEmpty then none
      else return (b.add (.leaf (.single ']')), rest)
    else return (b, s)
  | _ => return (b, s)

/-- Reads a named class behind its opening bracket, if one stands there. -/
def readClass? (s : List Char) : Option ((Bool × CharSet) × List Char) := do
  let (negated, s) ← match s with
    | ':' :: '^' :: rest => some (true, rest)
    | ':' :: rest => some (false, rest)
    | _ => none
  match s.dropWhile (· != ':') with
  | ':' :: ']' :: rest =>
    let name := String.ofList (s.takeWhile (· != ':'))
    let entry ← asciiClasses.find? fun entry => entry.1 == name
    return ((negated, .ofRanges entry.2), rest)
  | _ => none

/-- Reads a character or an escape. -/
def readAtom (flags : Flags) : List Char → Option (Atom × List Char)
  | [] => none
  | '\\' :: rest => Atom.readEscape flags rest
  | c :: rest => some (.letter c, rest)

/-- The character of an atom that can end a range. Without wide classes it is one of ASCII. -/
def endpoint? (flags : Flags) : Atom → Option Char
  | .letter c => if flags.contains .wide || c.toNat < 0x80 then some c else none
  | _ => none

def atomSet? (flags : Flags) : Atom → Option CharSet
  | .letter c => (endpoint? flags (.letter c)).map CharSet.single
  | .set s => some s
  | .anchor _ => none

/-- Reads an item: an atom, or a range from one to another. A hyphen before a closing bracket or
another hyphen makes no range. -/
def readItem (flags : Flags) (s : List Char) : Option (CharSet × List Char) := do
  let (first, s) ← readAtom flags s
  match skip flags s with
  | [] => none
  | '-' :: rest =>
    let ahead := signAhead? flags rest
    if ahead = some ']' ∨ ahead = some '-' then return (← atomSet? flags first, '-' :: rest)
    else
      let (last, s) ← readAtom flags (skip flags rest)
      let first ← endpoint? flags first
      let last ← endpoint? flags last
      if last < first then none else return (.between first last, s)
  | s => return (← atomSet? flags first, s)

/-- Reads a bracketed set behind its opening, up to its closing bracket. `outer` are the brackets
around the one at hand. Each round takes a sign at least. -/
def readRest (flags : Flags) : (rounds : Nat) → (outer : List Bracket) → Bracket → List Char →
    Option (Nested CharSet × List Char)
  | 0, _, _, _ => none
  | rounds + 1, outer, b, s =>
    match skip flags s with
    | [] => none
    | '[' :: rest =>
      match readClass? rest with
      | some ((negated, named), rest) => do
        let item ← foldAndNegate? flags negated named
        readRest flags rounds outer (b.add (.leaf item)) rest
      | none => do
        let (inner, rest) ← readOpening flags rest
        readRest flags rounds (b :: outer) inner rest
    | ']' :: rest => do
      let closed ← b.close? flags
      match outer with
      | [] => return (closed, rest)
      | parent :: outer => readRest flags rounds outer (parent.add closed) rest
    | c :: rest =>
      match SetOperation.ofChar? c with
      | some operation =>
        if rest.head? = some c then
          readRest flags rounds outer (b.operate flags operation) (rest.drop 1)
        else do
          let (item, rest) ← readItem flags (c :: rest)
          readRest flags rounds outer (b.add (.leaf item)) rest
      | none => do
        let (item, rest) ← readItem flags (c :: rest)
        readRest flags rounds outer (b.add (.leaf item)) rest

/-- Reads a bracketed set behind its opening bracket. -/
def read (flags : Flags) (s : List Char) : Option (Nested CharSet × List Char) := do
  let (b, rest) ← readOpening flags s
  readRest flags (rest.length + 1) [] b rest

end Bracket

end PacketDiversion.Pattern
