import PacketDiversion.Pattern.Flag
import PacketDiversion.Text.Blank
import PacketDiversion.Text.Hex

/-!
# Signs with room between them

Where the flag for it is set, blanks and comments may stand between the signs of a written pattern,
also between the digits of a number. A comment runs from `#` to the end of its line.
-/

namespace PacketDiversion.Pattern

/-- What follows blanks and comments; the first argument tells whether a comment is going on. -/
def afterComments : Bool → List Char → List Char
  | _, [] => []
  | true, c :: rest => afterComments (c != '\n') rest
  | false, c :: rest =>
    if Text.isBlank c then afterComments false rest
    else if c = '#' then afterComments true rest
    else c :: rest

/-- The text from the next sign on. -/
def skip (flags : Flags) (s : List Char) : List Char :=
  if flags.contains .spaced then afterComments false s else s

/-- The sign after the one at hand. Blanks are passed over where they may stand, but of a comment
only its first character and the blanks behind that. -/
def signAhead? (flags : Flags) (rest : List Char) : Option Char :=
  if flags.contains .spaced then
    let ahead := match rest.dropWhile Text.isBlank with
      | '#' :: comment => comment.dropWhile Text.isBlank
      | ahead => ahead
    ahead.head?.or rest.head?
  else rest.head?

/-- The signs before a closing brace, and the text behind it. Each round takes a sign. -/
def braced (flags : Flags) : (rounds : Nat) → List Char → Option (List Char × List Char)
  | 0, _ => none
  | rounds + 1, s =>
    match skip flags s with
    | [] => none
    | '\x7d' :: rest => some ([], rest)
    | c :: rest => (braced flags rounds rest).map fun more => (c :: more.1, more.2)

/-- The decimal digits in front, and the text behind them. Each round takes a digit. -/
def digitSigns (flags : Flags) : (rounds : Nat) → List Char → List Char × List Char
  | rounds + 1, c :: rest =>
    if c.isDigit then
      let more := digitSigns flags rounds (skip flags rest)
      (c :: more.1, more.2)
    else ([], c :: rest)
  | _, s => ([], s)

/-- The greatest number of repetitions that can be written. -/
def greatestCount : Nat := 4294967295

/-- A count in decimal digits with blanks around it. -/
def count (flags : Flags) (s : List Char) : Option (Nat × List Char) :=
  let (digits, rest) := digitSigns flags s.length (s.dropWhile Text.isBlank)
  let value := digits.foldl (fun acc c => 10 * acc + (c.toNat - '0'.toNat)) 0
  if digits.isEmpty ∨ greatestCount < value then none
  else some (value, rest.dropWhile Text.isBlank)

def hexValue? (digits : List Char) : Option Nat :=
  (digits.mapM Text.hexDigit?).map fun values => values.foldl (fun acc d => 16 * acc + d) 0

/-- A fixed count of signs with the text behind them. -/
def signs (flags : Flags) : (count : Nat) → List Char → Option (List Char × List Char)
  | 0, s => some ([], s)
  | count + 1, s =>
    match skip flags s with
    | [] => none
    | c :: rest => (signs flags count rest).map fun more => (c :: more.1, more.2)

end PacketDiversion.Pattern
