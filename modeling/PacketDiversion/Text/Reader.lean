/-!
# Readers

A reader takes a value off the front of a text, or refuses the text. Readers run one after the
other, and `a <|> b` reads the same text again with `b` if `a` refuses it. `many` repeats a reader
until it refuses the text.
-/

namespace PacketDiversion.Text

/-- Takes a value off the front of a text, or refuses it. -/
abbrev Reader (α : Type) := StateT (List Char) Option α

namespace Reader

variable {α : Type}

/-- The next character, which stays where it is. -/
def peek : Reader (Option Char) := fun s => some (s.head?, s)

/-- Whether the text goes on with `t`. -/
def sees (t : String) : Reader Bool := fun s => some (t.toList.isPrefixOf s, s)

def satisfy (p : Char → Bool) : Reader Char
  | [] => none
  | c :: rest => if p c then some (c, rest) else none

def char (c : Char) : Reader Unit := discard (satisfy (· == c))

def literal (t : String) : Reader Unit := fun s =>
  if t.toList.isPrefixOf s then some ((), s.drop t.length) else none

/-- The longest run of characters of a class, which may be empty. -/
def run (p : Char → Bool) : Reader (List Char) := fun s => some (s.takeWhile p, s.dropWhile p)

def atEnd : Reader Unit := fun s => if s.isEmpty then some ((), s) else none

/-- As many items as there are, but no more than `limit`. -/
def items (item : Reader α) : (limit : Nat) → List Char → List α × List Char
  | 0, s => ([], s)
  | limit + 1, s =>
    match item s with
    | none => ([], s)
    | some (a, rest) =>
      let more := items item limit rest
      (a :: more.1, more.2)

/-- As many items as there are. Each takes a character at least, so a text holds no more items than
characters. -/
def many (item : Reader α) : Reader (List α) := fun s => some (items item s.length s)

/-- Items with a separator between them, at least one. -/
def separated (separator : Reader Unit) (item : Reader α) : Reader (List α) := do
  let first ← item
  let rest ← many (separator *> item)
  return first :: rest

/-- The characters that a reader takes. -/
def taken (reader : Reader α) : Reader (List Char) := fun s =>
  (reader s).map fun result => (s.take (s.length - result.2.length), result.2)

/-- The value of a reader that takes the whole of a text. -/
def all (reader : Reader α) (text : List Char) : Option α :=
  ((reader <* atEnd) text).map Prod.fst

end Reader

end PacketDiversion.Text
