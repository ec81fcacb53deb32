import PacketDiversion.Logging.Level
import PacketDiversion.Pattern.Reader
import PacketDiversion.Pattern.Search

/-!
# Log specifications

Which records are written. A specification is a list of limits, for all modules or for the modules
whose names begin with a text, and may end with a pattern that must occur in written messages. The
limit with the longest module name that fits a record decides.
-/

namespace PacketDiversion.Logging

open Text (isBlank trim)

/-- The levels that are let through: those up to a level, or none. -/
abbrev Limit := Option Level

/-- Whether a limit lets a level through. -/
def Limit.admits (limit : Limit) (level : Level) : Bool := limit.any fun l => level.rank ≤ l.rank

/-- A limit for some modules. -/
structure Directive where
  /-- What the names of the modules begin with; a limit for all modules has none. -/
  module : Option String
  limit : Limit
  deriving DecidableEq, Repr

namespace Directive

/-- Bytes of the module name. -/
def specificity (d : Directive) : Nat := (d.module.map String.utf8ByteSize).getD 0

/-- Whether the directive is about a target. -/
def covers (d : Directive) (target : String) : Bool :=
  d.module.all fun name => name.toList.isPrefixOf target.toList

end Directive

structure Spec where
  /-- The directives, the most specific first. -/
  directives : List Directive
  /-- What must occur in messages. -/
  pattern : Option Pattern
  deriving DecidableEq, Repr

/-! ### Reading -/

/-- The pieces of a text between separators. -/
def pieces (separator : Char) : List Char → List (List Char)
  | [] => [[]]
  | c :: rest =>
    if c = separator then [] :: pieces separator rest
    else
      match pieces separator rest with
      | first :: others => (c :: first) :: others
      | [] => [[c]]

def Limit.ofName? (s : List Char) : Option Limit :=
  let name := String.ofList (s.map Char.toUpper)
  if name = "OFF" then some none else (Level.ofName? name).map some

/-- Everything is let through. -/
def Limit.all : Limit := some .trace

/-- The name of a module, which holds no blanks. Those around it do not count. -/
def moduleName? (s : List Char) : Option String :=
  if (trim s).any isBlank then none else some (String.ofList (trim s))

/-- One directive: a limit, a module, or a module with its limit. Nothing is as good as the limit
that lets everything through. -/
def Directive.ofText? (s : List Char) : Option Directive :=
  match pieces '=' s with
  | [whole] => (moduleName? whole).map fun name =>
    match Limit.ofName? whole with
    | some limit => ⟨none, limit⟩
    | none => ⟨some name, Limit.all⟩
  | [module, limit] => do
    let name ← moduleName? module
    if (trim limit).isEmpty then return ⟨some name, Limit.all⟩
    else return ⟨some name, ← Limit.ofName? (trim limit)⟩
  | _ => none

/-- The directives of a list with commas; empty places are skipped. -/
def directives? (s : List Char) : Option (List Directive) :=
  (((pieces ',' s).map trim).filter fun piece => !piece.isEmpty).mapM Directive.ofText?

namespace Spec

/-- Directives with the most specific ones first; equally specific ones keep their order. -/
def sorted (directives : List Directive) : List Directive :=
  directives.mergeSort fun a b => b.specificity ≤ a.specificity

/-- The specification that a text stands for. -/
def ofText? (s : String) : Option Spec :=
  match pieces '/' s.toList with
  | [list] => (directives? list).map fun ds => ⟨sorted ds, none⟩
  | [list, pattern] => do
    let ds ← directives? list
    let p ← Pattern.ofText? (String.ofList pattern)
    return ⟨sorted ds, some p⟩
  | _ => none

/-- The specification to use: the one of the environment, if it has one that can be read, and else
the configured one. -/
def choose (environment : Option String) (configured : String) : Option Spec :=
  (environment.bind ofText?).or (ofText? configured)

/-! ### Decisions -/

/-- The limit for a target. -/
def limitFor (spec : Spec) (target : String) : Limit :=
  ((spec.directives.find? fun d => d.covers target).map Directive.limit).getD none

def reaches (spec : Spec) (level : Level) : Bool :=
  spec.directives.any fun d => d.limit.admits level

def admits (spec : Spec) (level : Level) (target message : String) : Bool :=
  (spec.limitFor target).admits level
    && spec.pattern.all fun p => p.occursIn message

end Spec

end PacketDiversion.Logging
