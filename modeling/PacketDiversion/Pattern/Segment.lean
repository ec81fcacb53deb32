import PacketDiversion.Pattern.CharClass
import PacketDiversion.Text.Script

/-!
# Text segmentation

The parts that characters play where a text is cut into signs, words and sentences, by the rules of
the Unicode standard: whether a cut may stand before or behind a character depends on the parts that
its neighbours play. Each part is a set of characters under the names of the standard.
-/

namespace PacketDiversion.Pattern.Segment

open CharSet (ofTrait categories unions union inter diff)
open Text (Script)

/-- The characters of some scripts. -/
def scripts (list : List Script) : CharSet :=
  CharSet.ofRanges (list.flatMap fun script => script.runs.toList)

/-- Spacing marks and what extends or colours the character before it. -/
def extending : CharSet :=
  unions [CharSet.graphemeExtend, categories [.mc], ofTrait .emojiModifier]

/-- The joiner without width. -/
def joiner : CharSet := ⟨[(0x200D, 0x200D)]⟩

def carriageReturn : CharSet := ⟨[(0x0D, 0x0D)]⟩

def lineFeed : CharSet := ⟨[(0x0A, 0x0A)]⟩

/-! ### Signs -/

/-- What extends the sign before it. -/
def signExtend : CharSet := union CharSet.graphemeExtend (ofTrait .emojiModifier)

/-- Spacing marks that a sign may be cut off before. -/
def looseMarks : CharSet :=
  ⟨[(0x102B, 0x102C), (0x1038, 0x1038), (0x1062, 0x1064), (0x1067, 0x106D), (0x1083, 0x1083),
    (0x1087, 0x108C), (0x108F, 0x108F), (0x109A, 0x109C), (0x1A61, 0x1A61), (0x1A63, 0x1A64),
    (0xAA7B, 0xAA7B), (0xAA7D, 0xAA7D), (0x11720, 0x11721)]⟩

/-- Hangul syllables without a final consonant: every 28th, since there are 27 such consonants. -/
def openSyllables : CharSet :=
  CharSet.ofCodes ((List.range 399).map fun i => 0xAC00 + 28 * i)

/-- The characters that play a part where signs are cut. -/
def sign? (name : String) : Option CharSet :=
  match name with
  | "control" | "cn" =>
    some (diff
      (union (categories [.cc, .cf, .zl, .zp]) (inter CharSet.unassigned CharSet.defaultIgnorable))
      (unions [carriageReturn, lineFeed, joiner, CharSet.graphemeExtend,
        ofTrait .prependedConcatenationMark]))
  | "cr" => some carriageReturn
  | "lf" => some lineFeed
  | "extend" | "ex" => some signExtend
  | "prepend" | "pp" =>
    some (union (ofTrait .prependedConcatenationMark)
      ⟨[(0xD4E, 0xD4E), (0x111C2, 0x111C3), (0x113D1, 0x113D1), (0x1193F, 0x1193F),
        (0x11941, 0x11941), (0x11A3A, 0x11A3A), (0x11A84, 0x11A89), (0x11D46, 0x11D46),
        (0x11F02, 0x11F02)]⟩)
  | "spacingmark" | "sm" =>
    some (diff (union (categories [.mc]) ⟨[(0xE33, 0xE33), (0xEB3, 0xEB3)]⟩)
      (union signExtend looseMarks))
  | "l" => some ⟨[(0x1100, 0x115F), (0xA960, 0xA97C)]⟩
  | "v" => some ⟨[(0x1160, 0x11A7), (0xD7B0, 0xD7C6), (0x16D63, 0x16D63), (0x16D67, 0x16D6A)]⟩
  | "t" => some ⟨[(0x11A8, 0x11FF), (0xD7CB, 0xD7FB)]⟩
  | "lv" => some openSyllables
  | "lvt" => some (diff ⟨[(0xAC00, 0xD7A3)]⟩ openSyllables)
  | "regionalindicator" | "ri" => some (ofTrait .regionalIndicator)
  | "zwj" => some joiner
  | _ => none

/-! ### Words -/

/-- What extends the word before it. -/
def wordExtend : CharSet := diff extending joiner

/-- What Katakana words are made of. -/
def katakana : CharSet :=
  union (scripts [.katakana])
    ⟨[(0x3031, 0x3035), (0x309B, 0x309C), (0x30A0, 0x30A0), (0x30FC, 0x30FC), (0xFF70, 0xFF70)]⟩

def hebrewLetter : CharSet := inter (scripts [.hebrew]) (categories [.lo])

/-- Letters of scripts that put blanks between words, and signs that stand among them. -/
def wordLetter : CharSet :=
  union
    (diff CharSet.alphabetic
      (unions [ofTrait .ideographic, katakana, hebrewLetter, wordExtend,
        scripts [.thai, .lao, .myanmar, .khmer, .taiLe, .newTaiLue, .taiTham, .taiViet, .ahom,
          .hiragana]]))
    ⟨[(0x2C2, 0x2C5), (0x2D2, 0x2D7), (0x2DE, 0x2DF), (0x2E5, 0x2EB), (0x2ED, 0x2ED),
      (0x2EF, 0x2FF), (0x55A, 0x55C), (0x55E, 0x55E), (0x58A, 0x58A), (0x5F3, 0x5F3),
      (0x70F, 0x70F), (0xA708, 0xA716), (0xA720, 0xA721), (0xA789, 0xA78A), (0xAB5B, 0xAB5B)]⟩

/-- Digits and the signs of numbers. -/
def numeric : CharSet :=
  unions [categories [.nd], ⟨[(0x66B, 0x66B), (0x19DA, 0x19DA)]⟩,
    diff (ofTrait .prependedConcatenationMark) ⟨[(0x70F, 0x70F)]⟩]

/-- Line ends other than carriage return and line feed, in a text of words. -/
def newline : CharSet := ⟨[(0x0B, 0x0C), (0x85, 0x85), (0x2028, 0x2029)]⟩

/-- The characters that play a part where words are cut. -/
def word? (name : String) : Option CharSet :=
  match name with
  | "aletter" | "le" => some wordLetter
  | "cr" => some carriageReturn
  | "lf" => some lineFeed
  | "newline" | "nl" => some newline
  | "doublequote" | "dq" => some (.single '"')
  | "singlequote" | "sq" => some (.single '\'')
  | "extend" => some wordExtend
  | "extendnumlet" | "ex" => some (union (categories [.pc]) ⟨[(0x202F, 0x202F)]⟩)
  | "format" | "fo" =>
    some (diff (categories [.cf])
      (unions [⟨[(0x200B, 0x200D)]⟩, ofTrait .prependedConcatenationMark, wordExtend]))
  | "hebrewletter" | "hl" => some hebrewLetter
  | "katakana" | "ka" => some katakana
  | "midletter" | "ml" => some CharSet.midLetter
  | "midnum" | "mn" =>
    some ⟨[(0x2C, 0x2C), (0x3B, 0x3B), (0x37E, 0x37E), (0x589, 0x589), (0x60C, 0x60D),
      (0x66C, 0x66C), (0x7F8, 0x7F8), (0x2044, 0x2044), (0xFE50, 0xFE50), (0xFE54, 0xFE54),
      (0xFF0C, 0xFF0C), (0xFF1B, 0xFF1B)]⟩
  | "midnumlet" | "mb" => some CharSet.midNumberOrLetter
  | "numeric" | "nu" => some numeric
  | "regionalindicator" | "ri" => some (ofTrait .regionalIndicator)
  | "wsegspace" =>
    some (diff (categories [.zs]) ⟨[(0xA0, 0xA0), (0x2007, 0x2007), (0x202F, 0x202F)]⟩)
  | "zwj" => some joiner
  | _ => none

/-! ### Sentences -/

/-- What extends the sentence before it. -/
def sentenceExtend : CharSet := unions [CharSet.graphemeExtend, categories [.mc], joiner]

/-- Line ends that end a sentence, other than carriage return and line feed. -/
def separator : CharSet := ⟨[(0x85, 0x85), (0x2028, 0x2029)]⟩

/-- Small letters. -/
def lower : CharSet :=
  diff CharSet.lowercase (union CharSet.graphemeExtend CharSet.georgianSmall)

/-- Capital letters; those of Georgian begin no sentence. -/
def upper : CharSet :=
  diff (union CharSet.uppercase (categories [.lt])) ⟨[(0x1C90, 0x1CBA), (0x1CBD, 0x1CBF)]⟩

/-- Full stops, which may also end an abbreviation. -/
def fullStop : CharSet := ⟨[(0x2E, 0x2E), (0x2024, 0x2024), (0xFE52, 0xFE52), (0xFF0E, 0xFF0E)]⟩

/-- The characters that play a part where sentences are cut. -/
def sentence? (name : String) : Option CharSet :=
  match name with
  | "cr" => some carriageReturn
  | "lf" => some lineFeed
  | "sep" | "se" => some separator
  | "extend" | "ex" => some sentenceExtend
  | "format" | "fo" =>
    some (diff (categories [.cf])
      (union sentenceExtend (diff (ofTrait .prependedConcatenationMark) ⟨[(0x70F, 0x70F)]⟩)))
  | "sp" => some (diff (.blank true) (unions [separator, carriageReturn, lineFeed]))
  | "lower" | "lo" => some lower
  | "upper" | "up" => some upper
  | "oletter" | "le" =>
    some (union (diff CharSet.alphabetic (unions [lower, upper, sentenceExtend]))
      ⟨[(0x5F3, 0x5F3)]⟩)
  | "numeric" | "nu" => some (union numeric ⟨[(0x66C, 0x66C)]⟩)
  | "aterm" | "at" => some fullStop
  | "sterm" | "st" => some (diff (ofTrait .sentenceTerminal) fullStop)
  | "close" | "cl" =>
    some (union (categories [.ps, .pe, .pi, .pf])
      ⟨[(0x22, 0x22), (0x27, 0x27), (0x275B, 0x2760), (0x2E00, 0x2E01), (0x2E06, 0x2E08),
        (0x2E0B, 0x2E0B), (0x1F676, 0x1F678)]⟩)
  | "scontinue" | "sc" =>
    some ⟨[(0x2C, 0x2D), (0x3A, 0x3B), (0x37E, 0x37E), (0x55D, 0x55D), (0x60C, 0x60D),
      (0x7F8, 0x7F8), (0x1802, 0x1802), (0x1808, 0x1808), (0x2013, 0x2014), (0x3001, 0x3001),
      (0xFE10, 0xFE11), (0xFE13, 0xFE14), (0xFE31, 0xFE32), (0xFE50, 0xFE51), (0xFE54, 0xFE55),
      (0xFE58, 0xFE58), (0xFE63, 0xFE63), (0xFF0C, 0xFF0D), (0xFF1A, 0xFF1B), (0xFF64, 0xFF64)]⟩
  | _ => none

end PacketDiversion.Pattern.Segment
