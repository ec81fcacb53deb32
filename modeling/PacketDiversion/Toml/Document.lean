import PacketDiversion.Toml.Statement

/-!
# Documents

`Document.read` reads the text of a document as the table of its top-level keys. A text whose
statements do not fit together, because one names again what another has completed, is refused like
one that is not written as a document at all.
-/

namespace PacketDiversion.Toml.Document

/-- A document that was read in part. -/
structure State where
  /-- The top-level table. -/
  entries : Draft.Entries := []
  /-- The table that keys go into. -/
  current : List String := []

/-- The document after another statement. -/
def State.add (s : State) : Statement → Option State
  | .pair path value => do
    let entries ← Draft.edit false (fun _ entries => Draft.insert path value entries)
      s.current .header s.entries
    return { s with entries := entries }
  | .header path => do
    return ⟨← Draft.openTable path s.entries, path.toList⟩
  | .rowHeader path => do
    return ⟨← Draft.openRow path s.entries, path.toList⟩

/-- The document after more statements. -/
def State.addAll (s : State) : List Statement → Option State
  | [] => some s
  | statement :: rest => do (← s.add statement).addAll rest

/-- A text without the mark that some editors put in front of it. -/
def withoutMark : List Char → List Char
  | '\uFEFF' :: rest => rest
  | text => text

/-- The top-level table of a document, if the text is one. -/
def read (text : String) : Option Table := do
  let statements ← statements.all (withoutMark text.toList)
  let s ← State.addAll {} statements
  return Draft.values s.entries

end PacketDiversion.Toml.Document
