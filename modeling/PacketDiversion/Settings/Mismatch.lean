import PacketDiversion.Selection.Layer
import PacketDiversion.Toml.Value

/-!
# Mismatches

Why a document, although it is a valid one, does not describe settings.
-/

namespace PacketDiversion

/-- What a field takes. -/
inductive Expected
  | text
  | path
  | int16
  | word64
  | size
  | boolean
  | list
  /-- A section of the settings. -/
  | group (title : String)
  deriving DecidableEq, Repr

def Expected.description : Expected → String
  | text => "a string"
  | path => "path string"
  | int16 => "i16"
  | word64 => "u64"
  | size => "usize"
  | boolean => "a boolean"
  | list => "a sequence"
  | group title => "struct " ++ title

/-- Why a document does not describe settings. -/
inductive Mismatch
  /-- A field without a default is missing. -/
  | missing (field : String)
  /-- A value is of another kind than the field takes. -/
  | kind (found : Toml.Value) (expected : Expected)
  /-- An integer is too small or too great for the field. -/
  | range (n : Int) (expected : Expected)
  /-- A section is given as a list that is too short. -/
  | length (given : Nat) (title : String) (fields : Nat)
  /-- A layer is neither a text nor a table. -/
  | layerKind
  /-- A layer is a table without keys. -/
  | layerWithoutKey
  /-- A layer is a table with several keys. -/
  | layerWithKeys
  | layerContent (found : Toml.Value)
  /-- No layer has this name. -/
  | layerName (name : String)

namespace Mismatch

/-- A word as messages show it. -/
def quoted (s : String) : String := "\x60" ++ s ++ "\x60"

/-- What the key of a layer should have held. -/
def emptyDescription : Toml.Value → String
  | .array _ | .table _ => "expected empty table"
  | .tables _ => "expected empty array"
  | other => "expected table, found " ++ other.kind

def message : Mismatch → String
  | missing field => "missing field " ++ quoted field
  | kind found expected => s!"invalid type: {found.found}, expected {expected.description}"
  | range n expected =>
    s!"invalid value: {(Toml.Value.integer n).found}, expected {expected.description}"
  | length given title fields =>
    s!"invalid length {given}, expected struct {title} with {fields} elements"
  | layerKind => "wanted string or table"
  | layerWithoutKey => "wanted exactly 1 element, found 0 elements"
  | layerWithKeys => "wanted exactly 1 element, more than 1 element"
  | layerContent found => emptyDescription found
  | layerName name =>
    "unknown variant " ++ quoted name ++ ", expected one of "
      ++ String.intercalate ", " (Layer.all.map fun l => quoted l.name)

end Mismatch

end PacketDiversion
