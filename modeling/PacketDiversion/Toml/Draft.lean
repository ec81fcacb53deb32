import PacketDiversion.Toml.Value

/-!
# Tables under construction

A document names its tables piece by piece: a header `[a.b]` opens a table and implies the one
around it, a dotted key `a.b = 1` reaches into one. Which pieces may be added later depends on how a
table came to be, so a `Draft` remembers it until the document is complete.
-/

namespace PacketDiversion.Toml

/-- How a table came to be. -/
inductive Origin
  /-- A header names it. -/
  | header
  /-- A header names a table within it. -/
  | implied
  /-- A dotted key reaches through it. -/
  | dotted
  deriving DecidableEq, Repr

/-- A value that may still grow. -/
inductive Draft
  | leaf (value : Value)
  | table (origin : Origin) (entries : List (String × Draft))
  /-- The tables of repeated headers; the last one may still grow. -/
  | rows (tables : List (List (String × Draft)))

namespace Draft

/-- The keys of a table under construction. -/
abbrev Entries := List (String × Draft)

/-! ### Completion -/

mutual

/-- The complete value. -/
def value : Draft → Value
  | leaf value => value
  | table _ entries => .table (values entries)
  | rows tables => .tables (rowValues tables)

/-- The complete entries of a table. -/
def values : List (String × Draft) → Table
  | [] => []
  | (key, draft) :: rest => (key, draft.value) :: values rest

/-- The complete tables of repeated headers. -/
def rowValues : List (List (String × Draft)) → List Table
  | [] => []
  | entries :: rest => values entries :: rowValues rest

end

/-! ### Edits -/

/-- The entries with another value for a key. -/
def replace (key : String) (draft : Draft) (entries : Entries) : Entries :=
  entries.map fun entry => if entry.1 == key then (key, draft) else entry

/-- Edits the table at the end of a path, and creates the tables on the way that are missing.
Complete values cannot be entered, and a dotted key cannot enter a table that has a header. -/
def edit (dotted : Bool) (change : Origin → Entries → Option Entries) :
    List String → Origin → Entries → Option Entries
  | [], origin, entries => change origin entries
  | key :: path, _, entries =>
    match entries.lookup key with
    | none => do
      let origin := if dotted then Origin.dotted else Origin.implied
      let inner ← edit dotted change path origin []
      return entries ++ [(key, table origin inner)]
    | some (leaf _) => none
    | some (rows tables) => do
      let last ← tables.getLast?
      let inner ← edit dotted change path .header last
      return replace key (rows (tables.dropLast ++ [inner])) entries
    | some (table origin inner) =>
      if dotted ∧ origin = .header then none
      else do
        let inner ← edit dotted change path origin inner
        return replace key (table origin inner) entries

/-- Adds a value under a dotted key. All dots must lead into tables that dotted keys have made. -/
def insert (path : KeyPath) (value : Value) (entries : Entries) : Option Entries :=
  edit true (fun origin entries =>
    if (origin = .dotted) = (path.parents = []) ∨ (entries.lookup path.key).isSome then none
    else some (entries ++ [(path.key, leaf value)])) path.parents .header entries

/-- Opens the table of a header. One that was only implied moves to the end and keeps its
entries; any other value must not be there yet. -/
def openTable (path : KeyPath) (entries : Entries) : Option Entries :=
  edit false (fun _ entries =>
    match entries.lookup path.key with
    | none => some (entries ++ [(path.key, table .header [])])
    | some (table .implied inner) =>
      some (entries.filter (fun entry => entry.1 != path.key) ++ [(path.key, table .header inner)])
    | some _ => none) path.parents .header entries

/-- Opens another table of a repeated header. -/
def openRow (path : KeyPath) (entries : Entries) : Option Entries :=
  edit false (fun _ entries =>
    match entries.lookup path.key with
    | none => some (entries ++ [(path.key, rows [[]])])
    | some (rows tables) => some (replace path.key (rows (tables ++ [[]])) entries)
    | some _ => none) path.parents .header entries

end Draft

end PacketDiversion.Toml
