import PacketDiversion.Pattern.Bracket
import PacketDiversion.Pattern.Layout
import PacketDiversion.Pattern.Simple

/-!
# Reading patterns

The written form of patterns: signs in a row, `|` between choices, groups in parentheses, which may
have a name or flags, and after any part the marks `?`, `*`, `+` and counts in braces that repeat
it. A pattern that cannot be read, nests too deeply or takes too much room is refused.
-/

namespace PacketDiversion.Pattern

/-- A part of a sequence that is being read. -/
inductive Part
  /-- A pattern, which can be repeated. -/
  | pattern (p : Nested Pattern)
  /-- A change of flags, which cannot. -/
  | change
  deriving DecidableEq, Repr

/-- The pattern of a part; a change of flags fits the empty piece. -/
def Part.nested : Part → Nested Pattern
  | pattern p => p
  | change => .leaf .empty

/-- A group that is being read, or the whole pattern. -/
structure Group where
  /-- Its number, unless it is one without. -/
  number : Option Nat
  /-- The flags in force at this place. -/
  flags : Flags
  /-- The choices that are complete, the last one first. -/
  choices : List (Nested Pattern)
  /-- The parts of the choice that is being read, the last one first. -/
  parts : List Part
  deriving DecidableEq, Repr

namespace Group

/-- A group that begins under some flags. -/
def start (number : Option Nat) (flags : Flags) : Group := ⟨number, flags, [], []⟩

def add (g : Group) (part : Part) : Group := { g with parts := part :: g.parts }

def addPattern (g : Group) (p : Nested Pattern) : Group := g.add (.pattern p)

def choice (g : Group) : Nested Pattern := Nested.gather seqs (g.parts.reverse.map Part.nested)

/-- The group after a sign that begins another choice. -/
def nextChoice (g : Group) : Group := { g with choices := g.choice :: g.choices, parts := [] }

/-- What stands in a group that ends here. -/
def content (g : Group) : Nested Pattern :=
  Nested.gather Pattern.choices (g.choice :: g.choices).reverse

/-- The pattern of a group that ends here. -/
def close (g : Group) : Nested Pattern :=
  let content := g.content
  content.within (match g.number with
    | some number => .group number content.value
    | none => content.value)

/-- The group with its last part repeated, if there is one to repeat. Behind the mark of the
repetition another one may say that it takes as little as it can; a flag turns that about. Gives the
text behind it as well. -/
def repeatLast? (g : Group) (least : Nat) (most : Option Nat) (rest : List Char) :
    Option (Group × List Char) :=
  let (marked, rest) := match rest with
    | '?' :: rest => (true, rest)
    | rest => (false, rest)
  match g.parts with
  | .pattern p :: parts =>
    let whole := p.value.repeated least most (marked != g.flags.contains .lazy)
    some ({ g with parts := .pattern (p.within whole) :: parts }, rest)
  | _ => none

end Group

/-! ### Signs -/

/-- The pattern of an atom. -/
def Atom.pattern (flags : Flags) : Atom → Pattern
  | letter c => ofSet (foldSet flags (.single c))
  | set s => ofSet s
  | anchor a => .anchored a

/-- The set of the sign for any character. Without wide classes there is none. -/
def dotSet? (flags : Flags) : Option CharSet :=
  if !flags.contains .wide then none
  else if flags.contains .dotAll then some (.compl .empty)
  else if flags.contains .crlf then some (.compl ⟨[(0x0A, 0x0A), (0x0D, 0x0D)]⟩)
  else some (.compl (.single '\n'))

/-- The condition of the sign for a start. -/
def startAnchor (flags : Flags) : Anchor :=
  if flags.contains .lines then .lineStart (flags.contains .crlf) else .textStart

/-- The condition of the sign for an end. -/
def endAnchor (flags : Flags) : Anchor :=
  if flags.contains .lines then .lineEnd (flags.contains .crlf) else .textEnd

def readCounts (flags : Flags) (s : List Char) :
    Option ((Nat × Option Nat) × List Char) := do
  let (least, rest) ← count flags (skip flags s)
  let ((least, most), rest) ← match rest with
    | ',' :: rest =>
      match skip flags rest with
      | '\x7d' :: rest => pure ((least, none), '\x7d' :: rest)
      | rest => do
        let (most, rest) ← count flags rest
        pure ((least, some most), rest)
    | rest => pure ((least, some least), rest)
  match rest with
  | '\x7d' :: rest =>
    if most.any fun most => most < least then none
    else return ((least, most), skip flags rest)
  | _ => none

/-! ### Groups -/

/-- Letters of names: those of classes, and those that version 17 of the Unicode standard adds. -/
def nameLetters : CharSet :=
  .union .alphabetic
    ⟨[(0x88F, 0x88F), (0xC5C, 0xC5C), (0xCDC, 0xCDC), (0xA7CE, 0xA7CF), (0xA7D2, 0xA7D2),
      (0xA7D4, 0xA7D4), (0xA7F1, 0xA7F1), (0x10940, 0x10959), (0x10EC5, 0x10EC7),
      (0x10EFA, 0x10EFB), (0x11B60, 0x11B67), (0x11DB0, 0x11DDB), (0x16EA0, 0x16EB8),
      (0x16EBB, 0x16ED3), (0x16FF2, 0x16FF6), (0x187F8, 0x187FF), (0x18D09, 0x18D1E),
      (0x18D80, 0x18DF2), (0x1E6C0, 0x1E6DE), (0x1E6E0, 0x1E6F5), (0x1E6FE, 0x1E6FF),
      (0x2B73A, 0x2B73F), (0x2CEA2, 0x2CEAD), (0x323B0, 0x33479)]⟩

/-- Numbers in names: those of classes, and the digits that version 17 adds. -/
def nameNumbers : CharSet := .union (.categories [.nd, .nl, .no]) ⟨[(0x11DE0, 0x11DE9)]⟩

/-- Whether a name may begin with a character. -/
def beginsName (c : Char) : Bool := c == '_' || nameLetters.contains c.toNat

/-- Whether a name may go on with a character. -/
def continuesName (c : Char) : Bool :=
  beginsName c || ['.', '[', ']'].contains c || nameNumbers.contains c.toNat

/-- Reads the name of a group up to the sign that ends it. -/
def readName (s : List Char) : Option (List Char × List Char) :=
  match s.takeWhile (· != '>'), s.dropWhile (· != '>') with
  | first :: others, _ :: rest =>
    if beginsName first && others.all continuesName then some (first :: others, rest) else none
  | _, _ => none

/-- What an opening parenthesis begins. -/
inductive GroupStart
  /-- A group, perhaps with a name. -/
  | group (name : Option (List Char))
  /-- A group with flags of its own. -/
  | flagged (change : FlagChange)
  /-- A change of flags for the rest of the group around it. -/
  | change (change : FlagChange)
  deriving DecidableEq, Repr

/-- Reads what follows an opening parenthesis. There is no looking around. -/
def readOpening (flags : Flags) (s : List Char) : Option (GroupStart × List Char) := do
  match skip flags s with
  | '?' :: '=' :: _ | '?' :: '!' :: _ | '?' :: '<' :: '=' :: _ | '?' :: '<' :: '!' :: _ => none
  | '?' :: 'P' :: '<' :: rest | '?' :: '<' :: rest =>
    let (name, rest) ← readName rest
    return (.group (some name), rest)
  | '?' :: rest =>
    match ← FlagChange.none.read rest with
    | (change, ':' :: rest) => return (.flagged change, rest)
    | (change, _ :: rest) => if change = .none then none else return (.change change, rest)
    | _ => none
  | rest => return (.group none, rest)

/-! ### Patterns -/

/-- Reads a pattern to the end of the text. `outer` are the groups around the one at hand, `names`
the names of the numbered groups so far, of which some have none. Each round takes a sign at
least. -/
def readRest : (rounds : Nat) → (names : List (Option (List Char))) → (outer : List Group) →
    Group → List Char → Option (Nested Pattern)
  | 0, _, _, _, _ => none
  | rounds + 1, names, outer, g, s =>
    let flags := g.flags
    match skip flags s with
    | [] => if outer.isEmpty then some g.content else none
    | '(' :: rest => do
      let (opening, rest) ← readOpening flags rest
      match opening with
      | .group name =>
        if name.isSome && names.contains name then none
        else
          let inner := .start (some (names.length + 1)) flags
          readRest rounds (name :: names) (g :: outer) inner rest
      | .flagged change =>
        readRest rounds names (g :: outer) (.start none (change.apply flags)) rest
      | .change change =>
        readRest rounds names outer ({ g with flags := change.apply flags }.add .change) rest
    | ')' :: rest =>
      match outer with
      | [] => none
      | parent :: outer => readRest rounds names outer (parent.addPattern g.close) rest
    | '|' :: rest => readRest rounds names outer g.nextChoice rest
    | '[' :: rest => do
      let (set, rest) ← Bracket.read flags rest
      readRest rounds names outer (g.addPattern ⟨ofSet set.value, set.depth⟩) rest
    | '?' :: rest => do
      let (g, rest) ← g.repeatLast? 0 (some 1) rest
      readRest rounds names outer g rest
    | '*' :: rest => do
      let (g, rest) ← g.repeatLast? 0 none rest
      readRest rounds names outer g rest
    | '+' :: rest => do
      let (g, rest) ← g.repeatLast? 1 none rest
      readRest rounds names outer g rest
    | '\x7b' :: rest => do
      let ((least, most), rest) ← readCounts flags rest
      let (g, rest) ← g.repeatLast? least most rest
      readRest rounds names outer g rest
    | '.' :: rest => do
      readRest rounds names outer (g.addPattern (.leaf (ofSet (← dotSet? flags)))) rest
    | '^' :: rest =>
      readRest rounds names outer (g.addPattern (.leaf (.anchored (startAnchor flags)))) rest
    | '$' :: rest =>
      readRest rounds names outer (g.addPattern (.leaf (.anchored (endAnchor flags)))) rest
    | s => do
      let (atom, rest) ← Bracket.readAtom flags s
      readRest rounds names outer (g.addPattern (.leaf (atom.pattern flags))) rest

def ofText? (text : String) : Option Pattern := do
  let s := text.toList
  let p ← readRest (s.length + 1) [] [] (.start none .standard) s
  if greatestDepth < p.depth ∨ !p.value.fitsInMemory then none else return p.value

end PacketDiversion.Pattern
