import PacketDiversion.Pattern.Basic
import PacketDiversion.Pattern.Property
import PacketDiversion.Pattern.Spacing

/-!
# Escapes

What a backslash and the signs behind it stand for: a character, a set of characters or a condition
on a gap. A backslash takes the meaning off every ASCII sign that is no letter and no digit.
-/

namespace PacketDiversion.Pattern

/-- What a sign or an escape stands for. -/
inductive Atom
  | letter (c : Char)
  | set (s : CharSet)
  | anchor (a : Anchor)
  deriving DecidableEq, Repr

namespace Atom

/-- A set or what is not in it. Without wide classes a complement cannot be told from parts of
characters, so there is none. -/
def ofClass? (flags : Flags) (negated : Bool) (s : CharSet) : Option Atom :=
  if !negated then some (set s)
  else if flags.contains .wide then some (set (.compl s))
  else none

/-- A character by number. Without wide classes a number of two digits is the number of a byte, and
bytes beyond ASCII are only parts of characters. -/
def ofDigits? (flags : Flags) (isByte : Bool) (digits : List Char) : Option Atom := do
  let code ← hexValue? digits
  if isByte && !flags.contains .wide && 0x7F < code then none
  else (Text.scalar? code).map letter

/-- Reads a character by number: so many digits, or any number of them in braces. -/
def readNumber (flags : Flags) (size : Nat) (s : List Char) : Option (Atom × List Char) := do
  match skip flags s with
  | '\x7b' :: inner =>
    let (digits, rest) ← braced flags s.length inner
    if digits.isEmpty then none
    else return (← ofDigits? flags false digits, rest)
  | s =>
    let (digits, rest) ← signs flags size s
    return (← ofDigits? flags (size == 2) digits, rest)

/-- Reads the name of a set: a letter, or more in braces. -/
def readNamed (flags : Flags) (negated : Bool) (s : List Char) : Option (Atom × List Char) := do
  let ((named, inverted), rest) ← match skip flags s with
    | '\x7b' :: inner => do
      let (name, rest) ← braced flags s.length inner
      pure (← bracedSet? name, rest)
    | c :: rest => do
      let named ← namedSet? [c]
      pure ((named, false), rest)
    | [] => none
  if !flags.contains .wide then none
  else
    let whole := if flags.contains .anyCase then CharSet.anyCase true named else named
    return (set (if negated != inverted then .compl whole else whole), rest)

def edge? (name : List Char) : Option WordEdge :=
  match String.ofList name with
  | "start" => some .start
  | "end" => some .finish
  | "start-half" => some .startHalf
  | "end-half" => some .finishHalf
  | _ => none

/-- Reads what follows the sign for the edge of a word: perhaps a name in braces that says which
edge. Braces that begin with neither a letter nor a hyphen are left in place. -/
def readEdge (flags : Flags) (s : List Char) : Option (Atom × List Char) :=
  let wide := flags.contains .wide
  let plain := some (anchor (.word .boundary wide), s)
  match s with
  | '\x7b' :: inner =>
    match skip flags inner with
    | [] => none
    | c :: _ =>
      if c.isAlpha || c = '-' then do
        let (name, rest) ← braced flags s.length inner
        return (anchor (.word (← edge? name) wide), rest)
      else plain
  | _ => plain

def readEscape (flags : Flags) : List Char → Option (Atom × List Char)
  | [] => none
  | c :: rest =>
    let wide := flags.contains .wide
    let among (negated : Bool) (s : CharSet) := (ofClass? flags negated s).map fun atom =>
      (atom, rest)
    match c with
    | 'x' => readNumber flags 2 rest
    | 'u' => readNumber flags 4 rest
    | 'U' => readNumber flags 8 rest
    | 'p' => readNamed flags false rest
    | 'P' => readNamed flags true rest
    | 'd' => among false (.digit wide)
    | 'D' => among true (.digit wide)
    | 's' => among false (.blank wide)
    | 'S' => among true (.blank wide)
    | 'w' => among false (.word wide)
    | 'W' => among true (.word wide)
    | 'a' => some (letter '\x07', rest)
    | 'f' => some (letter '\x0c', rest)
    | 't' => some (letter '\t', rest)
    | 'n' => some (letter '\n', rest)
    | 'r' => some (letter '\r', rest)
    | 'v' => some (letter '\x0b', rest)
    | 'A' => some (anchor .textStart, rest)
    | 'z' => some (anchor .textEnd, rest)
    | 'b' => readEdge flags rest
    | 'B' => some (anchor (.word .interior wide), rest)
    | '<' => some (anchor (.word .start wide), rest)
    | '>' => some (anchor (.word .finish wide), rest)
    | _ => if c.toNat < 0x80 && !c.isAlphanum then some (letter c, rest) else none

end Atom

end PacketDiversion.Pattern
