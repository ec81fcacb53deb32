/-!
# UTF-8 forms of ranges

The bytes of the characters in a range of code points, as products of byte ranges: a product holds
every sequence with one byte from each of its ranges. The products of a range ascend, and together
they hold the encodings of its characters and no other sequence.
-/

namespace PacketDiversion.Text

/-- The bytes of the character with a code point. -/
def utf8 (code : Nat) : List Nat := (String.utf8EncodeChar (Char.ofNat code)).map UInt8.toNat

/-- The bytes of a text. -/
def utf8Text (text : List Char) : List Nat := text.flatMap fun c => utf8 c.toNat

/-- Cuts a range of code points into pieces in which each byte varies on its own. The encodings have
one length, with `tail` bytes behind the first, which have 64 values each. Where an earlier byte
varies the later ones must take all their values, so a block of code points that share the earlier
bytes is cut off and divided further if the range holds only a part of it. -/
def cutAligned : (tail : Nat) → (first last : Nat) → List (Nat × Nat)
  | 0, first, last => [(first, last)]
  | tail + 1, first, last =>
    let block := Nat.pow 64 (tail + 1)
    if first / block = last / block then cutAligned tail first last
    else
      let inner := (first + block - 1) / block * block
      let outer := (last + 1) / block * block
      let head := if first < inner then cutAligned tail first (inner - 1) else []
      let middle := if inner < outer then [(inner, outer - 1)] else []
      let rest := if outer ≤ last then cutAligned tail outer last else []
      head ++ middle ++ rest

/-- The ranges of code points whose encodings have one length, and the count of bytes behind the
first one. No character has a code point from 0xD800 to 0xDFFF. -/
def lengthBlocks : List (Nat × Nat × Nat) :=
  [(0, 0x7F, 0), (0x80, 0x7FF, 1), (0x800, 0xD7FF, 2), (0xE000, 0xFFFF, 2), (0x10000, 0x10FFFF, 3)]

/-- The products of byte ranges for the characters in a range of code points. -/
def utf8Products (run : Nat × Nat) : List (List (Nat × Nat)) :=
  lengthBlocks.flatMap fun block =>
    let first := max run.1 block.1
    let last := min run.2 block.2.1
    if first ≤ last then
      (cutAligned block.2.2 first last).map fun piece => (utf8 piece.1).zip (utf8 piece.2)
    else []

end PacketDiversion.Text
