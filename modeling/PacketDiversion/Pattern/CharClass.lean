import PacketDiversion.Pattern.CharSet
import PacketDiversion.Text.Blank
import PacketDiversion.Text.Trait

/-!
# Classes of characters

Digits, blanks and what words are made of, and the two-valued properties that follow from general
categories, from further properties and from letter case by the rules of the Unicode standard. Where
a rule rests on composed forms, or on forms in another case that are more than one character, the
characters that it singles out are listed.
-/

namespace PacketDiversion.Pattern

open Text (Trait)

namespace CharSet

def ofTrait (trait : Trait) : CharSet := ofRanges trait.runs.toList

def letter : CharSet := categories [.lu, .ll, .lt, .lm, .lo]

def assigned : CharSet := categories Text.Category.all

def unassigned : CharSet := diff ⟨[(0, greatest)]⟩ assigned

/-! ### Letters and words -/

/-- Letters, letter numbers and what counts as such. -/
def alphabetic : CharSet := unions [letter, categories [.nl], ofTrait .otherAlphabetic]

/-- Small letters and what counts as such. -/
def lowercase : CharSet := union (categories [.ll]) (ofTrait .otherLowercase)

/-- Capital letters and what counts as such. -/
def uppercase : CharSet := union (categories [.lu]) (ofTrait .otherUppercase)

/-- What is a small letter, a capital letter, or one of each in a single character. -/
def cased : CharSet := unions [lowercase, uppercase, categories [.lt]]

/-- Decimal digits; without `wide` those of ASCII. -/
def digit (wide : Bool) : CharSet := if wide then categories [.nd] else between '0' '9'

/-- Blanks; without `wide` those of ASCII. -/
def blank (wide : Bool) : CharSet :=
  ofRanges (if wide then Text.blankRanges else [(0x09, 0x0D), (0x20, 0x20)])

/-- What words are made of: letters, marks, digits, the characters that join words, and joiners
without width. -/
def wideWord : CharSet :=
  unions [alphabetic, categories [.mn, .mc, .me, .nd, .pc], ofTrait .joinControl]

/-- What words are made of; without `wide` letters, digits and the underscore of ASCII. -/
def word (wide : Bool) : CharSet :=
  if wide then wideWord else ⟨[(0x30, 0x39), (0x41, 0x5A), (0x5F, 0x5F), (0x61, 0x7A)]⟩

/-! ### Identifiers -/

/-- What means something in the rules of a language and is no part of a name there. -/
def pattern : CharSet := union (ofTrait .patternSyntax) (ofTrait .patternWhiteSpace)

/-- What an identifier may begin with. -/
def identifierStart : CharSet :=
  diff (unions [letter, categories [.nl], ofTrait .otherIdStart]) pattern

/-- What an identifier may go on with. -/
def identifierPart : CharSet :=
  diff
    (unions [identifierStart, categories [.mn, .mc, .nd, .pc], ofTrait .otherIdContinue])
    pattern

/-- What may not stand in an identifier because its composed form may not. -/
def unstable : CharSet :=
  ⟨[(0x37A, 0x37A), (0x309B, 0x309C), (0xFC5E, 0xFC63), (0xFDFA, 0xFDFB), (0xFE70, 0xFE70),
    (0xFE72, 0xFE72), (0xFE74, 0xFE74), (0xFE76, 0xFE76), (0xFE78, 0xFE78), (0xFE7A, 0xFE7A),
    (0xFE7C, 0xFE7C), (0xFE7E, 0xFE7E)]⟩

/-- What may not begin an identifier because its composed form may not. -/
def unstableStart : CharSet :=
  union unstable ⟨[(0xE33, 0xE33), (0xEB3, 0xEB3), (0xFF9E, 0xFF9F)]⟩

/-! ### Signs made of several characters -/

/-- What extends the character before it. -/
def graphemeExtend : CharSet := union (categories [.mn, .me]) (ofTrait .otherGraphemeExtend)

/-- What stands by itself. -/
def graphemeBase : CharSet :=
  diff assigned (union (categories [.cc, .cf, .co, .zl, .zp]) graphemeExtend)

/-- What is part of formulas. -/
def math : CharSet := union (categories [.sm]) (ofTrait .otherMath)

/-- Format characters for notes between lines and for the layout of signs. -/
def visibleFormat : CharSet :=
  union ⟨[(0xFFF9, 0xFFFB), (0x13430, 0x13440)]⟩ (ofTrait .prependedConcatenationMark)

/-- What shows nothing where it is not supported. -/
def defaultIgnorable : CharSet :=
  diff
    (unions [ofTrait .otherDefaultIgnorableCodePoint, categories [.cf], ofTrait .variationSelector])
    (union (blank true) visibleFormat)

/-! ### Letter case -/

/-- The points and quotes that may stand inside a word. -/
def midLetter : CharSet :=
  ⟨[(0x3A, 0x3A), (0xB7, 0xB7), (0x387, 0x387), (0x55F, 0x55F), (0x5F4, 0x5F4), (0x2027, 0x2027),
    (0xFE13, 0xFE13), (0xFE55, 0xFE55), (0xFF1A, 0xFF1A)]⟩

/-- The points and quotes that may stand inside a word or a number. -/
def midNumberOrLetter : CharSet :=
  ⟨[(0x2E, 0x2E), (0x2018, 0x2019), (0x2024, 0x2024), (0xFE52, 0xFE52), (0xFF07, 0xFF07),
    (0xFF0E, 0xFF0E)]⟩

/-- What is skipped where the case of a word is found. -/
def caseIgnorable : CharSet :=
  unions [categories [.mn, .me, .cf, .lm, .sk], midLetter, midNumberOrLetter, single '\'']

/-- What does not fold to itself. -/
def folding : CharSet := ofCodes (Text.foldPairs.map Prod.fst)

/-- What has a form in another case that is one character. -/
def paired : CharSet := union folding (ofCodes (Text.foldPairs.map Prod.snd))

/-- Small letters whose capital form is several characters, and one whose capital form is a letter
of ASCII. -/
def expanding : CharSet :=
  ⟨[(0x131, 0x131), (0x149, 0x149), (0x1F0, 0x1F0), (0x587, 0x587), (0x1E96, 0x1E9A),
    (0x1F50, 0x1F50), (0x1F52, 0x1F52), (0x1F54, 0x1F54), (0x1F56, 0x1F56), (0x1FB2, 0x1FB2),
    (0x1FB4, 0x1FB4), (0x1FB6, 0x1FB7), (0x1FC2, 0x1FC2), (0x1FC4, 0x1FC4), (0x1FC6, 0x1FC7),
    (0x1FD2, 0x1FD2), (0x1FD6, 0x1FD7), (0x1FE2, 0x1FE2), (0x1FE4, 0x1FE4), (0x1FE6, 0x1FE7),
    (0x1FF2, 0x1FF2), (0x1FF4, 0x1FF4), (0x1FF6, 0x1FF7), (0xFB00, 0xFB04), (0xFB13, 0xFB17)]⟩

/-- Pairs of letters in one character, both of them capital. -/
def capitalPairs : CharSet := ⟨[(0x1C4, 0x1C4), (0x1C7, 0x1C7), (0x1CA, 0x1CA), (0x1F1, 0x1F1)]⟩

/-- Georgian small letters; words in them are not capitalised. -/
def georgianSmall : CharSet := ⟨[(0x10D0, 0x10FA), (0x10FD, 0x10FF)]⟩

/-- What has another form in small letters. -/
def changesWhenLowercased : CharSet :=
  union (inter (union uppercase (categories [.lt])) paired) ⟨[(0x130, 0x130)]⟩

/-- What has another form in capital letters. -/
def changesWhenUppercased : CharSet :=
  union (inter (union lowercase (categories [.lt])) paired) expanding

/-- What has another form at the beginning of a capitalised word. -/
def changesWhenTitlecased : CharSet :=
  unions [diff (inter lowercase paired) georgianSmall, expanding, capitalPairs]

/-- What has another form in some case. -/
def changesWhenCasemapped : CharSet :=
  unions [changesWhenLowercased, changesWhenUppercased, changesWhenTitlecased]

/-- What has another form where letter case is taken off, be it one character or several. Three
letters that fold to one character come from parts that do not fold. -/
def changesWhenCasefolded : CharSet :=
  union
    (diff folding ⟨[(0x1FBE, 0x1FBE), (0x1FD3, 0x1FD3), (0x1FE3, 0x1FE3)]⟩)
    ⟨[(0xDF, 0xDF), (0x130, 0x130), (0x149, 0x149), (0x587, 0x587), (0x1E9A, 0x1E9A),
      (0x1F80, 0x1F87), (0x1F90, 0x1F97), (0x1FA0, 0x1FA7), (0x1FB2, 0x1FB4), (0x1FB7, 0x1FB7),
      (0x1FC2, 0x1FC4), (0x1FC7, 0x1FC7), (0x1FF2, 0x1FF4), (0x1FF7, 0x1FF7), (0xFB00, 0xFB06),
      (0xFB13, 0xFB17)]⟩

end CharSet

end PacketDiversion.Pattern
