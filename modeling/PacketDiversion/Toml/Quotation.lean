import PacketDiversion.Text.Hex
import PacketDiversion.Text.Reader
import PacketDiversion.Toml.Value

/-!
# Quoted texts and keys

A text stands between quotes: between double quotes with escapes, between single quotes without.
Tripled quotes let it run over several lines. A key is a bare word or a text on one line, and a
dotted key is a path of keys.
-/

namespace PacketDiversion.Toml

open Text (Reader hexDigit? scalar?)
open Text.Reader

/-! ### Blanks and line ends -/

/-- A blank within a line. -/
def isBlank (c : Char) : Bool := c == ' ' || c == '\t'

/-- Characters that may stand in a text or comment: everything but the controls other than tab. -/
def isShown (c : Char) : Bool := c == '\t' || (0x20 ≤ c.toNat && c.toNat != 0x7F)

def blanks : Reader Unit := discard (run isBlank)

def newline : Reader Unit := char '\n' <|> literal "\r\n"

/-! ### Escapes -/

/-- A number of a given count of hexadecimal digits, after the digits read so far. -/
def hexNumber : (count : Nat) → (acc : Nat) → Reader Nat
  | 0, acc => return acc
  | count + 1, acc => do
    let d ← hexDigit? (← satisfy fun _ => true)
    hexNumber count (16 * acc + d)

/-- What stands after the backslash of an escape. -/
def escape : Reader Char := do
  match ← satisfy fun _ => true with
  | 'b' => return '\x08'
  | 't' => return '\t'
  | 'n' => return '\n'
  | 'f' => return '\x0c'
  | 'r' => return '\r'
  | '"' => return '"'
  | '\\' => return '\\'
  | 'u' => scalar? (← hexNumber 4 0)
  | 'U' => scalar? (← hexNumber 8 0)
  | _ => failure

/-! ### Texts on one line -/

/-- A text between double quotes. -/
def basicText : Reader String := do
  char '"'
  let plain := satisfy fun c => isShown c && c != '"' && c != '\\'
  let cs ← many (plain <|> (char '\\' *> escape))
  char '"'
  return String.ofList cs

/-- A text between single quotes. -/
def literalText : Reader String := do
  char '\''
  let cs ← run fun c => isShown c && c != '\''
  char '\''
  return String.ofList cs

/-! ### Texts on several lines -/

/-- One or two quotes that do not close the text. -/
def innerQuotes (quote : Char) : Reader (List Char) := do
  let quotes ← run (· == quote)
  if quotes.length = 1 ∨ quotes.length = 2 then return quotes else failure

/-- The three quotes that close a text, after up to two that belong to it. -/
def closingQuotes (quote : Char) : Reader (List Char) := do
  let quotes ← run (· == quote)
  if 3 ≤ quotes.length ∧ quotes.length ≤ 5 then return quotes.drop 3 else failure

/-- A backslash at the end of a line, and all blanks and line ends after it. -/
def joinedLines : Reader (List Char) := do
  char '\\'
  blanks
  newline
  let _ ← many (newline <|> char ' ' <|> char '\t')
  return []

/-- A text between tripled quotes. Line ends count as line feeds, and one right after the opening
quotes does not count. -/
def tripled (quote : Char) (piece : Reader (List Char)) : Reader String := do
  literal (String.ofList [quote, quote, quote])
  let _ ← optional newline
  let pieces ← many (piece <|> (newline *> pure ['\n']) <|> innerQuotes quote)
  let last ← closingQuotes quote
  return String.ofList (pieces.flatten ++ last)

/-- A text between tripled double quotes. -/
def basicLines : Reader String :=
  let plain := satisfy fun c => isShown c && c != '"' && c != '\\'
  tripled '"' <|
    (List.singleton <$> (plain <|> (char '\\' *> escape))) <|> joinedLines

/-- A text between tripled single quotes. -/
def literalLines : Reader String :=
  tripled '\'' <| List.singleton <$> satisfy fun c => isShown c && c != '\''

/-- A text in any of the four kinds of quotes. -/
def quoted : Reader String := do
  if ← sees "\"\"\"" then basicLines
  else if ← sees "'''" then literalLines
  else basicText <|> literalText

/-! ### Keys -/

/-- A character of a bare key. -/
def isBare (c : Char) : Bool := c.isAlphanum || c == '_' || c == '-'

/-- A key without quotes. -/
def bareKey : Reader String := do
  let cs ← run isBare
  if cs.isEmpty then failure else return String.ofList cs

def key : Reader String := bareKey <|> basicText <|> literalText

/-- Most keys in a path, and most arrays and tables within each other. -/
def deepest : Nat := 79

/-- A key, with dots between its parts. -/
def keyPath : Reader KeyPath := do
  let keys ← separated (char '.') (blanks *> key <* blanks)
  match keys.getLast? with
  | some last => if keys.length ≤ deepest then return ⟨keys.dropLast, last⟩ else failure
  | none => failure

end PacketDiversion.Toml
