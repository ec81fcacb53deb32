import PacketDiversion.Toml.Calendar
import PacketDiversion.Toml.Draft
import PacketDiversion.Toml.Number

/-!
# Statements

A document is a list of lines, and a line that is not blank holds one statement: a key with its
value, or the header of a table.
-/

namespace PacketDiversion.Toml

open Text (Reader)
open Text.Reader

/-! ### Blank space -/

/-- A comment, up to the end of its line. -/
def comment : Reader Unit := char '#' *> discard (run isShown)

/-- The end of a line that holds nothing more but a comment. -/
def lineEnd : Reader Unit := blanks *> discard (optional comment) *> (newline <|> atEnd)

/-- Blank space that may run over several lines. -/
def space : Reader Unit :=
  discard (many (discard (satisfy isBlank) <|> newline <|> (comment *> newline)))

/-! ### Values -/

/-- A value without parts. -/
def atom : Reader Value := do
  match ← peek with
  | some 't' => literal "true" *> pure (.boolean true)
  | some 'f' => literal "false" *> pure (.boolean false)
  | some '"' | some '\'' => .string <$> quoted
  | _ => (.datetime <$> dateTime) <|> (.float <$> float) <|> (.integer <$> integer)

/-- An array of values. A comma may follow the last one. -/
def array (item : Reader Value) : Reader Value := do
  char '['
  space
  let items ← optional (separated (char ',' *> space) (item <* space))
  if items.isSome then discard (optional (char ',' *> space))
  char ']'
  return .array (items.getD [])

/-- A key with its value. -/
def pair (item : Reader Value) : Reader (KeyPath × Value) := do
  let path ← keyPath
  char '='
  blanks
  return (path, ← item)

/-- The table of pairs with dotted keys, if they fit together. -/
def insertAll (entries : Draft.Entries) : List (KeyPath × Value) → Option Draft.Entries
  | [] => some entries
  | (path, value) :: rest => do
    let entries ← Draft.insert path value entries
    insertAll entries rest

/-- A table on one line. -/
def inlineTable (item : Reader Value) : Reader Value := do
  char '\x7b'
  blanks
  let pairs ← optional (separated (char ',') (pair item <* blanks))
  char '\x7d'
  let entries ← insertAll [] (pairs.getD [])
  return .table (Draft.values entries)

/-- A value with at most `room` arrays and tables within each other. -/
def value : (room : Nat) → Reader Value
  | 0 => atom
  | room + 1 => do
    match ← peek with
    | some '[' => array (value room)
    | some '\x7b' => inlineTable (value room)
    | _ => atom

/-! ### Lines -/

/-- A statement of a document. -/
inductive Statement
  | pair (path : KeyPath) (value : Value)
  /-- The header of a table. -/
  | header (path : KeyPath)
  /-- The repeated header of one of several tables. -/
  | rowHeader (path : KeyPath)

def header : Reader Statement := do
  if ← sees "[[" then
    literal "[["
    let path ← keyPath
    literal "]]"
    return .rowHeader path
  else
    char '['
    let path ← keyPath
    char ']'
    return .header path

/-- What stands on a line, if it is not blank. -/
def line : Reader (Option Statement) := do
  blanks
  match ← peek with
  | none => failure
  | some '[' => some <$> header <* lineEnd
  | some '#' | some '\n' | some '\r' => lineEnd *> pure none
  | some _ => do
    let (path, value) ← pair (value deepest)
    lineEnd
    return some (.pair path value)

/-- The statements of a document. -/
def statements : Reader (List Statement) := do
  let lines ← many line
  blanks
  return lines.filterMap id

end PacketDiversion.Toml
