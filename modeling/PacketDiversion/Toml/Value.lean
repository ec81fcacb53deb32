import PacketDiversion.Decimal.Shortest
import PacketDiversion.Text.Quoted

/-!
# TOML values

The values of a TOML document. A table keeps its keys in the order of the document, and a valid
document gives no key twice.
-/

namespace PacketDiversion.Toml

inductive Value
  | string (text : String)
  | integer (n : Int)
  | float (x : Decimal.Binary64)
  | boolean (b : Bool)
  /-- A date, a time of day, or both, as it is written. -/
  | datetime (text : String)
  | array (items : List Value)
  | table (entries : List (String × Value))
  /-- The tables of repeated `[[key]]` headers. -/
  | tables (rows : List (List (String × Value)))

/-- The keys of a table with their values, in the order of the document. -/
abbrev Table := List (String × Value)

/-- A dotted key: the tables that it leads through, and its last key. -/
structure KeyPath where
  /-- The tables on the way. -/
  parents : List String
  /-- The key in the last of them. -/
  key : String
  deriving DecidableEq, Repr

/-- Every key of a path. -/
def KeyPath.toList (path : KeyPath) : List String := path.parents ++ [path.key]

namespace Value

def kind : Value → String
  | string _ => "string"
  | integer _ => "integer"
  | float _ => "float"
  | boolean _ => "boolean"
  | datetime _ => "datetime"
  | array _ | tables _ => "array"
  | table _ => "table"

/-- A value in a message that says what was found: scalars are shown, the others only named. -/
def found : Value → String
  | string text => "string " ++ Text.quote text
  | integer n => "integer \x60" ++ toString n ++ "\x60"
  | float x => "floating point \x60" ++ x.text ++ "\x60"
  | boolean b => "boolean \x60" ++ toString b ++ "\x60"
  | datetime _ | table _ => "map"
  | array _ | tables _ => "sequence"

end Value

/-! ### Equality -/

mutual

/-- Whether two values are the same: the lists that they hold are compared item by item. -/
def Value.same : Value → Value → Bool
  | .string a, .string b => a == b
  | .integer a, .integer b => a == b
  | .float a, .float b => decide (a = b)
  | .boolean a, .boolean b => a == b
  | .datetime a, .datetime b => a == b
  | .array a, .array b => sameItems a b
  | .table a, .table b => sameEntries a b
  | .tables a, .tables b => sameRows a b
  | _, _ => false

def sameItems : List Value → List Value → Bool
  | [], [] => true
  | a :: as, b :: bs => a.same b && sameItems as bs
  | _, _ => false

def sameEntries : List (String × Value) → List (String × Value) → Bool
  | [], [] => true
  | (key, a) :: as, (other, b) :: bs => key == other && a.same b && sameEntries as bs
  | _, _ => false

def sameRows : List (List (String × Value)) → List (List (String × Value)) → Bool
  | [], [] => true
  | a :: as, b :: bs => sameEntries a b && sameRows as bs
  | _, _ => false

end

mutual

theorem Value.same_iff : ∀ a b : Value, a.same b = true ↔ a = b
  | .string _, b => by cases b <;> simp [Value.same]
  | .integer _, b => by cases b <;> simp [Value.same]
  | .float _, b => by cases b <;> simp [Value.same]
  | .boolean _, b => by cases b <;> simp [Value.same]
  | .datetime _, b => by cases b <;> simp [Value.same]
  | .array items, b => by cases b <;> simp [Value.same, sameItems_iff items]
  | .table entries, b => by cases b <;> simp [Value.same, sameEntries_iff entries]
  | .tables rows, b => by cases b <;> simp [Value.same, sameRows_iff rows]

theorem sameItems_iff : ∀ as bs : List Value, sameItems as bs = true ↔ as = bs
  | [], bs => by cases bs <;> simp [sameItems]
  | a :: as, bs => by cases bs <;> simp [sameItems, a.same_iff, sameItems_iff as]

theorem sameEntries_iff : ∀ as bs : List (String × Value), sameEntries as bs = true ↔ as = bs
  | [], bs => by cases bs <;> simp [sameEntries]
  | (key, a) :: as, [] => by simp [sameEntries]
  | (key, a) :: as, (other, b) :: bs => by
    simp [sameEntries, a.same_iff, sameEntries_iff as]

theorem sameRows_iff : ∀ as bs : List (List (String × Value)), sameRows as bs = true ↔ as = bs
  | [], bs => by cases bs <;> simp [sameRows]
  | a :: as, bs => by cases bs <;> simp [sameRows, sameEntries_iff a, sameRows_iff as]

end

instance : DecidableEq Value := fun a b => decidable_of_iff (a.same b = true) (a.same_iff b)

end PacketDiversion.Toml
