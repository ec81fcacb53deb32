import PacketDiversion.Pattern.Segment
import PacketDiversion.Text.Age
import PacketDiversion.Text.SharedScript

/-!
# Sets of characters by name

The sets that a pattern can name between `\p{` and `}`: a general category or a group of them, a
script, or a two-valued property. Names are compared without regard to case, blanks, hyphens,
underscores and an `is` in front. A name with a sign, as in `sc=Greek` or `age:6.0`, says what kind
of name it is; the kinds also reach the scripts a character is used with, the age of characters and
their parts in text segmentation.
-/

namespace PacketDiversion.Pattern

open Text (Category Script Trait Version)

/-! ### Names -/

/-- A name without the `is` in front, if it has one. -/
def withoutIs : List Char → List Char
  | a :: b :: rest => if a.toLower = 'i' ∧ b.toLower = 's' then rest else a :: b :: rest
  | name => name

/-- A name without case, blanks, hyphens, underscores and what is not ASCII. The name `isc` is one
of its own and not `c`. -/
def looseName (name : List Char) : String :=
  let bare := withoutIs name
  let kept := (bare.filter fun c => c.toNat < 0x80 && c != ' ' && c != '_' && c != '-').map
    Char.toLower
  if kept = ['c'] ∧ bare.length < name.length then "isc" else String.ofList kept

/-- The general categories and their groups under each of their names. -/
def categoryNames : List (List String × List Category) :=
  [(["uppercaseletter", "lu"], [.lu]), (["lowercaseletter", "ll"], [.ll]),
    (["titlecaseletter", "lt"], [.lt]), (["casedletter", "lc"], [.lu, .ll, .lt]),
    (["modifierletter", "lm"], [.lm]), (["otherletter", "lo"], [.lo]),
    (["letter", "l"], [.lu, .ll, .lt, .lm, .lo]),
    (["nonspacingmark", "mn"], [.mn]), (["spacingmark", "mc"], [.mc]),
    (["enclosingmark", "me"], [.me]), (["mark", "m", "combiningmark"], [.mn, .mc, .me]),
    (["decimalnumber", "nd", "digit"], [.nd]), (["letternumber", "nl"], [.nl]),
    (["othernumber", "no"], [.no]), (["number", "n"], [.nd, .nl, .no]),
    (["connectorpunctuation", "pc"], [.pc]), (["dashpunctuation", "pd"], [.pd]),
    (["openpunctuation", "ps"], [.ps]), (["closepunctuation", "pe"], [.pe]),
    (["initialpunctuation", "pi"], [.pi]), (["finalpunctuation", "pf"], [.pf]),
    (["otherpunctuation", "po"], [.po]),
    (["punctuation", "p", "punct"], [.pc, .pd, .ps, .pe, .pi, .pf, .po]),
    (["mathsymbol", "sm"], [.sm]), (["currencysymbol", "sc"], [.sc]),
    (["modifiersymbol", "sk"], [.sk]), (["othersymbol", "so"], [.so]),
    (["symbol", "s"], [.sm, .sc, .sk, .so]),
    (["spaceseparator", "zs"], [.zs]), (["lineseparator", "zl"], [.zl]),
    (["paragraphseparator", "zp"], [.zp]), (["separator", "z"], [.zs, .zl, .zp]),
    (["control", "cc", "cntrl"], [.cc]), (["format", "cf"], [.cf]), (["privateuse", "co"], [.co])]

/-! ### Sets -/

/-- The set of a general category or a group of them. -/
def categorySet? (name : String) : Option CharSet :=
  match name with
  | "any" => some ⟨[(0, CharSet.greatest)]⟩
  | "ascii" => some ⟨[(0, 0x7F)]⟩
  | "assigned" => some .assigned
  | "unassigned" | "cn" => some .unassigned
  | "other" | "c" => some (.diff ⟨[(0, CharSet.greatest)]⟩ otherThanOther)
  | _ => (categoryNames.find? fun entry => entry.1.contains name).map fun entry =>
    .categories entry.2
where
  /-- Every category but control, format and private use. -/
  otherThanOther : CharSet :=
    .categories (Category.all.filter fun c => c != .cc && c != .cf && c != .co)

/-- The set of a script. -/
def scriptSet? (name : String) : Option CharSet :=
  (Script.ofName? name).map fun script => .ofRanges script.runs.toList

/-- The set of the characters that are used with a script. -/
def usedWithSet? (name : String) : Option CharSet :=
  (Script.ofName? name).map fun script =>
    .union (.diff (.ofRanges script.runs.toList) (.ofRanges Text.sharedRuns))
      (.ofRanges script.sharedRuns)

/-- The set of the characters that are assigned since a version. -/
def ageSet? (name : String) : Option CharSet :=
  (Version.ofName? name).map fun version => .ofRanges version.runs

/-- The set of a two-valued property. -/
def propertySet? (name : String) : Option CharSet :=
  match name with
  | "alphabetic" | "alpha" => some .alphabetic
  | "lowercase" | "lower" => some .lowercase
  | "uppercase" | "upper" => some .uppercase
  | "cased" => some .cased
  | "caseignorable" | "ci" => some .caseIgnorable
  | "changeswhenlowercased" | "cwl" => some .changesWhenLowercased
  | "changeswhenuppercased" | "cwu" => some .changesWhenUppercased
  | "changeswhentitlecased" | "cwt" => some .changesWhenTitlecased
  | "changeswhencasemapped" | "cwcm" => some .changesWhenCasemapped
  | "changeswhencasefolded" | "cwcf" => some .changesWhenCasefolded
  | "whitespace" | "wspace" | "space" => some (.blank true)
  | "idstart" | "ids" => some .identifierStart
  | "idcontinue" | "idc" => some .identifierPart
  | "xidstart" | "xids" => some (.diff .identifierStart .unstableStart)
  | "xidcontinue" | "xidc" => some (.diff .identifierPart .unstable)
  | "graphemeextend" | "grext" => some .graphemeExtend
  | "graphemebase" | "grbase" => some .graphemeBase
  | "math" => some .math
  | "defaultignorablecodepoint" | "di" => some .defaultIgnorable
  | _ => (Trait.ofName? name).map .ofTrait

/-- The set of a name that stands alone. The short names `cf`, `sc` and `lc` are categories. -/
def namedSet? (name : List Char) : Option CharSet :=
  let name := looseName name
  ((propertySet? name).or (categorySet? name)).or (scriptSet? name)

/-- The set of a name of a certain kind. -/
def kindSet? (kind name : List Char) : Option CharSet :=
  let name := looseName name
  match looseName kind with
  | "generalcategory" | "gc" => categorySet? name
  | "script" | "sc" => scriptSet? name
  | "scriptextensions" | "scx" => usedWithSet? name
  | "age" => ageSet? name
  | "graphemeclusterbreak" | "gcb" => Segment.sign? name
  | "wordbreak" | "wb" => Segment.word? name
  | "sentencebreak" | "sb" => Segment.sentence? name
  | _ => none

/-- The parts of a text before and after the first place where another stands. -/
def cut? (sign : List Char) : List Char → Option (List Char × List Char)
  | [] => none
  | c :: rest =>
    if sign.isPrefixOf (c :: rest) then some ([], (c :: rest).drop sign.length)
    else (cut? sign rest).map fun parts => (c :: parts.1, parts.2)

/-- The set that is named between the braces, and whether its complement is meant. -/
def bracedSet? (text : List Char) : Option (CharSet × Bool) :=
  match cut? ['!', '='] text with
  | some (kind, name) => (kindSet? kind name).map fun set => (set, true)
  | none =>
    let set := match (cut? [':'] text).or (cut? ['='] text) with
      | some (kind, name) => kindSet? kind name
      | none => namedSet? text
    set.map fun set => (set, false)

end PacketDiversion.Pattern
