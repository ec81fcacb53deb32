import PacketDiversion.Decimal.Binary64
import PacketDiversion.Toml.Quotation

/-!
# Numbers

Integers are decimal, or hexadecimal, octal or binary behind `0x`, `0o` or `0b`; they fit 64 bits
with a sign. Numbers with a fraction or an exponent are doubles. Underscores may stand between
digits.
-/

namespace PacketDiversion.Toml

open Text (Reader hexDigit?)
open Text.Reader Decimal

/-- The number that digits stand for. -/
def digitsValue (base : Nat) (digits : List Char) : Nat :=
  digits.foldl (fun acc c => base * acc + (hexDigit? c).getD 0) 0

/-- Digits, at least one, with single underscores between them. -/
def digitRun (isDigit : Char → Bool) : Reader (List Char) := do
  let first ← satisfy isDigit
  let rest ← many (satisfy isDigit <|> (char '_' *> satisfy isDigit))
  return first :: rest

/-- An optional sign; `true` stands for minus. -/
def sign : Reader Bool := (char '-' *> pure true) <|> (char '+' *> pure false) <|> pure false

/-- Decimal digits that do not begin with a superfluous zero. -/
def wholeDigits : Reader (List Char) := (char '0' *> pure ['0']) <|> digitRun Char.isDigit

/-! ### Integers -/

/-- Whether an integer fits 64 bits with a sign. -/
def fitsInteger (n : Int) : Bool := -9223372036854775808 ≤ n && n ≤ 9223372036854775807

/-- Digits of another base, behind the text that announces it. -/
def inBase (announced : String) (base : Nat) : Reader Int := do
  literal announced
  let digits ← digitRun fun c => (hexDigit? c).any (· < base)
  return digitsValue base digits

/-- A decimal integer. -/
def decimalInteger : Reader Int := do
  let negative ← sign
  let n : Int := digitsValue 10 (← wholeDigits)
  return if negative then -n else n

def integer : Reader Int := do
  let n ← inBase "0x" 16 <|> inBase "0o" 8 <|> inBase "0b" 2 <|> decimalInteger
  if fitsInteger n then return n else failure

/-! ### Doubles -/

/-- The digits after the point. -/
def fraction : Reader (List Char) := char '.' *> digitRun Char.isDigit

/-- The exponent. -/
def exponent : Reader Int := do
  let _ ← satisfy fun c => c == 'e' || c == 'E'
  let negative ← sign
  let n : Int := digitsValue 10 (← digitRun Char.isDigit)
  return if negative then -n else n

/-- A double with a fraction, an exponent, or both. -/
def decimalFloat (negative : Bool) : Reader Binary64 := do
  let whole ← wholeDigits
  let fractionDigits ← optional fraction
  let power ← optional exponent
  if fractionDigits.isNone ∧ power.isNone then failure
  let places := fractionDigits.getD []
  return .ofDecimal negative (digitsValue 10 (whole ++ places)) (power.getD 0 - places.length)

/-- A double by name. -/
def namedFloat (negative : Bool) : Reader Binary64 :=
  (literal "inf" *> pure (.infinity negative)) <|> (literal "nan" *> pure .nan)

/-- A double. Digits that stand for more than every double are refused behind a plus sign or none;
behind a minus sign they stand for minus infinity. -/
def float : Reader Binary64 := do
  let negative ← sign
  let named ← optional (namedFloat negative)
  match named with
  | some x => return x
  | none =>
    let x ← decimalFloat negative
    if x = .infinity false then failure else return x

end PacketDiversion.Toml
