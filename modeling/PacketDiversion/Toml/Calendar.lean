import PacketDiversion.Toml.Quotation

/-!
# Dates and times

A date, a time of day, or both, with an offset if both are there. They are checked against the
calendar and kept as they are written.
-/

namespace PacketDiversion.Toml

open Text (Reader)
open Text.Reader

/-- A number of a fixed count of decimal digits, after the digits read so far. -/
def fixedNumber : (count : Nat) → (acc : Nat) → Reader Nat
  | 0, acc => return acc
  | count + 1, acc => do
    let d ← satisfy Char.isDigit
    fixedNumber count (10 * acc + (d.toNat - '0'.toNat))

/-- A number of two digits within bounds. -/
def twoDigits (least greatest : Nat) : Reader Unit := do
  let n ← fixedNumber 2 0
  if least ≤ n ∧ n ≤ greatest then return () else failure

/-- Whether a year has a 29th of February. -/
def isLeapYear (year : Nat) : Bool := year % 4 == 0 && (year % 100 != 0 || year % 400 == 0)

/-- The days of a month. -/
def daysInMonth (year month : Nat) : Nat :=
  if month = 2 then (if isLeapYear year then 29 else 28)
  else if month = 4 ∨ month = 6 ∨ month = 9 ∨ month = 11 then 30
  else 31

def date : Reader Unit := do
  let year ← fixedNumber 4 0
  char '-'
  let month ← fixedNumber 2 0
  char '-'
  let day ← fixedNumber 2 0
  if 1 ≤ month ∧ month ≤ 12 ∧ 1 ≤ day ∧ day ≤ daysInMonth year month then return () else failure

/-- A time of day. A minute may have a 61st second. -/
def timeOfDay : Reader Unit := do
  twoDigits 0 23
  char ':'
  twoDigits 0 59
  char ':'
  twoDigits 0 60
  let _ ← optional (char '.' *> satisfy Char.isDigit *> run Char.isDigit)

/-- The distance from universal time. -/
def offset : Reader Unit :=
  discard (satisfy fun c => c == 'Z' || c == 'z') <|> do
    let _ ← satisfy fun c => c == '+' || c == '-'
    twoDigits 0 23
    char ':'
    twoDigits 0 59

/-- A time of day after a date. -/
def timeAfterDate : Reader Unit := do
  let _ ← satisfy fun c => c == 'T' || c == 't' || c == ' '
  timeOfDay
  discard (optional offset)

/-- A date, a time of day, or both. -/
def dateTime : Reader String :=
  String.ofList <$> taken ((date *> discard (optional timeAfterDate)) <|> timeOfDay)

end PacketDiversion.Toml
