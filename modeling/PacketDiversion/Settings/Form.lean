import PacketDiversion.Settings.Mismatch

/-!
# Forms of sections

How the value of one field is read, and how a section is taken apart: as a table of its fields, or
as a list that gives them in the order of their declaration. Every entry of a section is checked in
the order of the document before any is used, so the first one that does not fit is reported.
-/

namespace PacketDiversion

open Toml

/-- The form of a section. -/
structure Form where
  title : String
  /-- Its fields, each with a check of its value. -/
  fields : List (String × (Value → Except Mismatch Unit))
  /-- How many of the first fields a list must give. -/
  required : Nat

namespace Form

/-! ### Values -/

def text : Value → Except Mismatch String
  | .string s => .ok s
  | other => .error (.kind other .text)

def path : Value → Except Mismatch String
  | .string s => .ok s
  | other => .error (.kind other .path)

def boolean : Value → Except Mismatch Bool
  | .boolean b => .ok b
  | other => .error (.kind other .boolean)

/-- An integer within bounds. -/
def bounded (least greatest : Int) (expected : Expected) : Value → Except Mismatch Int
  | .integer n => if least ≤ n ∧ n ≤ greatest then .ok n else .error (.range n expected)
  | other => .error (.kind other expected)

def int16 : Value → Except Mismatch Int := bounded (-32768) 32767 .int16

/-- The greatest integer of 64 bits without a sign. -/
def greatestWord : Int := 18446744073709551615

/-- An integer of 64 bits without a sign. -/
def word64 (v : Value) : Except Mismatch UInt64 :=
  (bounded 0 greatestWord .word64 v).map fun n => UInt64.ofNat n.toNat

/-- A count of bytes or slots. -/
def size (v : Value) : Except Mismatch Nat := (bounded 0 greatestWord .size v).map Int.toNat

def texts : Value → Except Mismatch (List String)
  | .array items => items.mapM text
  | .tables rows => (rows.map Value.table).mapM text
  | other => .error (.kind other .list)

/-! ### Layers -/

/-- Whether a value holds nothing. -/
def isEmpty : Value → Bool
  | .array [] | .table [] | .tables [] => true
  | _ => false

def layerNamed (name : String) : Except Mismatch Layer :=
  match Layer.ofName? name with
  | some l => .ok l
  | none => .error (.layerName name)

/-- A layer: its name, or a table whose only key is the name and whose value holds nothing. -/
def layer : Value → Except Mismatch Layer
  | .string name => layerNamed name
  | .table [] => .error .layerWithoutKey
  | .table [(name, content)] => do
    let l ← layerNamed name
    if isEmpty content then .ok l else .error (.layerContent content)
  | .table _ => .error .layerWithKeys
  | _ => .error .layerKind

/-! ### Sections -/

/-- Whether a value fits a field, and if not, why. -/
def fits {α : Type} (read : Value → Except Mismatch α) (v : Value) : Except Mismatch Unit :=
  (read v).map fun _ => ()

/-- Checks the entries that the form knows; others are ignored. -/
def check (form : Form) : Table → Except Mismatch Unit
  | [] => .ok ()
  | (key, value) :: rest => do
    match form.fields.lookup key with
    | some fits => fits value
    | none => .ok ()
    form.check rest

/-- The entries of a section that is given as a list. -/
def ofList (form : Form) (values : List Value) : Except Mismatch Table := do
  let entries := (form.fields.map Prod.fst).zip values
  form.check entries
  if values.length < form.required then
    .error (.length values.length form.title form.fields.length)
  else .ok entries

/-- The entries of a section. A date has none of the fields of a section. -/
def entries (form : Form) : Value → Except Mismatch Table
  | .table entries => do
    form.check entries
    return entries
  | .datetime _ => .ok []
  | .array values => form.ofList values
  | .tables rows => form.ofList (rows.map Value.table)
  | other => .error (.kind other (.group form.title))

/-! ### Fields -/

/-- The value of a field, if the section gives one. -/
def get? {α : Type} (read : Value → Except Mismatch α) (key : String) (entries : Table) :
    Except Mismatch (Option α) :=
  match entries.lookup key with
  | some v => (read v).map some
  | none => .ok none

/-- The value of a field that has no default. -/
def get {α : Type} (read : Value → Except Mismatch α) (key : String) (entries : Table) :
    Except Mismatch α :=
  match entries.lookup key with
  | some v => read v
  | none => .error (.missing key)

/-- The value of a field, or its default. -/
def getD {α : Type} (read : Value → Except Mismatch α) (key : String) (entries : Table)
    (default : α) : Except Mismatch α :=
  (get? read key entries).map (Option.getD · default)

end Form

end PacketDiversion
