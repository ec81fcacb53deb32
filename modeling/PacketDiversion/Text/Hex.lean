/-!
# Hexadecimal text

Numbers in messages are written in lower-case hexadecimal behind `0x`, without leading zeros. Read
digits may be of either case, and a number may stand for a character.
-/

namespace PacketDiversion.Text

/-- `n` in hexadecimal behind `0x`; zero is `0x0`. -/
def hex (n : Nat) : String := "0x" ++ String.ofList (Nat.toDigits 16 n)

/-- The value of a hexadecimal digit. -/
def hexDigit? (c : Char) : Option Nat :=
  if '0' ≤ c ∧ c ≤ '9' then some (c.toNat - '0'.toNat)
  else if 'a' ≤ c ∧ c ≤ 'f' then some (c.toNat - 'a'.toNat + 10)
  else if 'A' ≤ c ∧ c ≤ 'F' then some (c.toNat - 'A'.toNat + 10)
  else none

/-- The character with a number, unless the number is none of a character. -/
def scalar? (n : Nat) : Option Char :=
  if h : n.isValidChar then some (Char.ofNatAux n h) else none

end PacketDiversion.Text
