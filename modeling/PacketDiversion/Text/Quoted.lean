import PacketDiversion.Text.Hex
import PacketDiversion.Text.Hidden

/-!
# Quoted text

Two ways to show a text between double quotes. `quote` is for texts of a document: it escapes what
would end the text and writes characters that do not show by number, as `\u{301}`. `quoteFilter`
is for filters: it also escapes the apostrophe and writes the ASCII controls as `\x1b`.
-/

namespace PacketDiversion.Text

/-- The digits of a number in hexadecimal. -/
def hexDigits (n : Nat) : List Char := Nat.toDigits 16 n

/-- A character written by number. -/
def byNumber (c : Char) : List Char := ['\\', 'u', '\x7b'] ++ hexDigits c.toNat ++ ['\x7d']

/-- A character of a document's text, escaped. -/
def escape (c : Char) : List Char :=
  if c = '\x00' then ['\\', '0']
  else if c = '\t' then ['\\', 't']
  else if c = '\r' then ['\\', 'r']
  else if c = '\n' then ['\\', 'n']
  else if c = '"' ∨ c = '\\' then ['\\', c]
  else if isHidden c then byNumber c
  else [c]

/-- A document's text in quotes. -/
def quote (s : String) : String := String.ofList ('"' :: s.toList.flatMap escape ++ ['"'])

/-- A character of a filter, escaped. -/
def escapeFilter (c : Char) : List Char :=
  if c = '\'' then ['\\', c]
  else if c ≠ '\x00' ∧ c ≠ '\t' ∧ c ≠ '\r' ∧ c ≠ '\n' ∧ (c.toNat < 0x20 ∨ c.toNat = 0x7F) then
    ['\\', 'x'] ++ (if c.toNat < 0x10 then ['0'] else []) ++ hexDigits c.toNat
  else escape c

def quoteFilter (s : String) : String :=
  String.ofList ('"' :: s.toList.flatMap escapeFilter ++ ['"'])

end PacketDiversion.Text
