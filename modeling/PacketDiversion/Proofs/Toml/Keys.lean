import Mathlib.Data.List.Nodup
import PacketDiversion.Proofs.Text.Reader
import PacketDiversion.Toml.Document

/-!
# Distinct keys

No table of a document gives a key twice, at any depth (`keyed_of_read`). Tables grow by one key at
a time: `Draft.insert`, `Draft.openTable` and `Draft.openRow` only add a key that the table does not
have yet, and `Draft.edit` reaches the table at the end of a path without touching the keys on the
way.
-/

namespace PacketDiversion.Toml

/-! ### Entries -/

section Entries

variable {β : Type} {entries : List (String × β)} {key : String} {v : β}

def Distinct (entries : List (String × β)) : Prop := (entries.map Prod.fst).Nodup

theorem lookup_eq_none_iff_notMem : entries.lookup key = none ↔ key ∉ entries.map Prod.fst := by
  rw [List.lookup_eq_none_iff, List.mem_map]
  constructor
  · rintro absent ⟨e, he, rfl⟩
    exact absurd (absent e he) (by simp)
  · intro absent e he
    rw [bne_iff_ne]
    rintro rfl
    exact absent ⟨e, he, rfl⟩

theorem mem_of_lookup (h : entries.lookup key = some v) : (key, v) ∈ entries := by
  obtain ⟨before, after, rfl, -⟩ := List.lookup_eq_some_iff.mp h
  simp

/-- Where keys are distinct, a key's value is the one that stands with it. -/
theorem Distinct.lookup_eq_some_iff (distinct : Distinct entries) :
    entries.lookup key = some v ↔ (key, v) ∈ entries := by
  refine ⟨mem_of_lookup, fun mem => ?_⟩
  cases hlookup : entries.lookup key with
  | none => exact absurd (List.mem_map_of_mem mem) (lookup_eq_none_iff_notMem.mp hlookup)
  | some w =>
    have hpair := List.inj_on_of_nodup_map distinct (mem_of_lookup hlookup) mem rfl
    cases hpair
    rfl

theorem Distinct.append (distinct : Distinct entries) (absent : key ∉ entries.map Prod.fst) :
    Distinct (entries ++ [(key, v)]) := by
  rw [Distinct, List.map_append, List.map_singleton, ← List.concat_eq_append]
  exact List.Nodup.concat absent distinct

end Entries

/-! ### Values -/

/-- No table in the value gives a key twice. -/
inductive Value.Keyed : Value → Prop
  | string (text : String) : Keyed (.string text)
  | integer (n : Int) : Keyed (.integer n)
  | float (x : Decimal.Binary64) : Keyed (.float x)
  | boolean (b : Bool) : Keyed (.boolean b)
  | datetime (text : String) : Keyed (.datetime text)
  | array {items : List Value} (keyed : ∀ v ∈ items, Keyed v) : Keyed (.array items)
  | table {entries : Table} (distinct : Distinct entries) (keyed : ∀ e ∈ entries, Keyed e.2) :
    Keyed (.table entries)
  | tables {rows : List Table} (distinct : ∀ row ∈ rows, Distinct row)
    (keyed : ∀ row ∈ rows, ∀ e ∈ row, Keyed e.2) : Keyed (.tables rows)

namespace Draft

/-- No table in the draft gives a key twice. -/
inductive Keyed : Draft → Prop
  | leaf {v : Value} (keyed : v.Keyed) : Keyed (.leaf v)
  | table (origin : Origin) {entries : Entries} (distinct : Distinct entries)
    (keyed : ∀ e ∈ entries, Keyed e.2) : Keyed (.table origin entries)
  | rows {tables : List Entries} (distinct : ∀ entries ∈ tables, Distinct entries)
    (keyed : ∀ entries ∈ tables, ∀ e ∈ entries, Keyed e.2) : Keyed (.rows tables)

structure AllKeyed (entries : Entries) : Prop where
  distinct : Distinct entries
  keyed : ∀ e ∈ entries, e.2.Keyed

/-! ### Completion -/

theorem values_eq_map (entries : Entries) :
    values entries = entries.map fun e => (e.1, e.2.value) := by
  induction entries with
  | nil => rfl
  | cons first rest ih =>
    rw [values, ih]
    rfl

theorem rowValues_eq_map (tables : List Entries) : rowValues tables = tables.map values := by
  induction tables with
  | nil => rfl
  | cons first rest ih =>
    rw [rowValues, ih]
    rfl

theorem distinct_values {entries : Entries} (distinct : Distinct entries) :
    Distinct (values entries) := by
  rw [Distinct, values_eq_map, List.map_map]
  exact distinct

theorem Keyed.value {d : Draft} (keyed : d.Keyed) : d.value.Keyed := by
  induction keyed with
  | leaf keyed => rwa [Draft.value]
  | table origin distinct _ ih =>
    rw [Draft.value]
    refine .table (distinct_values distinct) fun e he => ?_
    rw [values_eq_map] at he
    obtain ⟨entry, hentry, rfl⟩ := List.mem_map.mp he
    exact ih entry hentry
  | rows distinct _ ih =>
    rw [Draft.value, rowValues_eq_map]
    refine .tables ?_ ?_
    · intro row hrow
      obtain ⟨entries, hentries, rfl⟩ := List.mem_map.mp hrow
      exact distinct_values (distinct entries hentries)
    · intro row hrow e he
      obtain ⟨entries, hentries, rfl⟩ := List.mem_map.mp hrow
      rw [values_eq_map] at he
      obtain ⟨entry, hentry, rfl⟩ := List.mem_map.mp he
      exact ih entries hentries entry hentry

/-! ### Edits -/

section Edits

variable {key : String} {d : Draft} {entries out : Entries}

theorem allKeyed_nil : AllKeyed [] := ⟨List.nodup_nil, by simp⟩

theorem AllKeyed.of_lookup_table {origin : Origin} {inner : Entries} (all : AllKeyed entries)
    (found : entries.lookup key = some (.table origin inner)) : AllKeyed inner := by
  have keyed := all.keyed _ (mem_of_lookup found)
  cases keyed with
  | table _ distinct keyed => exact ⟨distinct, keyed⟩

theorem AllKeyed.of_lookup_rows {tables : List Entries} {last : Entries} (all : AllKeyed entries)
    (found : entries.lookup key = some (.rows tables)) (mem : last ∈ tables) : AllKeyed last := by
  have keyed := all.keyed _ (mem_of_lookup found)
  cases keyed with
  | rows distinct keyed => exact ⟨distinct last mem, keyed last mem⟩

theorem keyed_table (origin : Origin) (all : AllKeyed entries) :
    (Draft.table origin entries).Keyed :=
  .table origin all.distinct all.keyed

theorem keyed_rows {tables : List Entries} (all : ∀ t ∈ tables, AllKeyed t) :
    (Draft.rows tables).Keyed :=
  .rows (fun t ht => (all t ht).distinct) fun t ht => (all t ht).keyed

theorem AllKeyed.append (all : AllKeyed entries) (absent : entries.lookup key = none)
    (keyed : d.Keyed) : AllKeyed (entries ++ [(key, d)]) := by
  refine ⟨all.distinct.append (lookup_eq_none_iff_notMem.mp absent), fun e he => ?_⟩
  rcases List.mem_append.mp he with he | he
  · exact all.keyed e he
  · rw [List.mem_singleton.mp he]
    exact keyed

theorem AllKeyed.replace (all : AllKeyed entries) (keyed : d.Keyed) :
    AllKeyed (replace key d entries) := by
  have hkeys : (Draft.replace key d entries).map Prod.fst = entries.map Prod.fst := by
    rw [Draft.replace, List.map_map]
    refine List.map_congr_left fun e _ => ?_
    by_cases hkey : e.1 = key
    · simp [hkey]
    · simp [hkey]
  refine ⟨by rw [Distinct, hkeys]; exact all.distinct, fun e he => ?_⟩
  obtain ⟨old, hold, rfl⟩ := List.mem_map.mp he
  by_cases hkey : old.1 = key
  · simpa [hkey] using keyed
  · simpa [hkey] using all.keyed old hold

/-- An edit keeps the keys distinct if the change at the end of its path does. -/
theorem AllKeyed.edit {dotted : Bool} {change : Origin → Entries → Option Entries}
    (keeps : ∀ origin before after, AllKeyed before → change origin before = some after →
      AllKeyed after)
    {path : List String} {origin : Origin} (all : AllKeyed entries)
    (edited : edit dotted change path origin entries = some out) : AllKeyed out := by
  -- on the way, a table is replaced under its own key or added under a key that was free
  induction path generalizing origin entries out with
  | nil => exact keeps origin entries out all edited
  | cons key path ih =>
    rw [Draft.edit] at edited
    cases found : entries.lookup key with
    | none =>
      simp only [found] at edited
      obtain ⟨inner, hinner, hout⟩ := Option.bind_eq_some_iff.mp edited
      cases hout
      exact all.append found (keyed_table _ (ih allKeyed_nil hinner))
    | some draft =>
      simp only [found] at edited
      cases draft with
      | leaf v => cases edited
      | rows tables =>
        -- the path goes on in the last of the tables
        obtain ⟨last, hlast, hrest⟩ := Option.bind_eq_some_iff.mp edited
        obtain ⟨inner, hinner, hout⟩ := Option.bind_eq_some_iff.mp hrest
        cases hout
        have hmem := List.mem_of_getLast? hlast
        refine all.replace (keyed_rows fun t ht => ?_)
        rcases List.mem_append.mp ht with ht | ht
        · exact all.of_lookup_rows found (List.dropLast_subset _ ht)
        · rw [List.mem_singleton.mp ht]
          exact ih (all.of_lookup_rows found hmem) hinner
      | table origin inner =>
        by_cases closed : dotted ∧ origin = .header
        · simp only [if_pos closed] at edited
          cases edited
        · simp only [if_neg closed] at edited
          obtain ⟨inner', hinner, hout⟩ := Option.bind_eq_some_iff.mp edited
          cases hout
          exact all.replace (keyed_table _ (ih (all.of_lookup_table found) hinner))

theorem AllKeyed.filter (all : AllKeyed entries) (p : String × Draft → Bool) :
    AllKeyed (entries.filter p) :=
  ⟨all.distinct.sublist (List.filter_sublist.map Prod.fst),
    fun e he => all.keyed e (List.mem_of_mem_filter he)⟩

theorem AllKeyed.insert {path : KeyPath} {v : Value} (all : AllKeyed entries) (keyed : v.Keyed)
    (inserted : insert path v entries = some out) : AllKeyed out := by
  refine all.edit (fun origin before after all changed => ?_) inserted
  split at changed
  · cases changed
  · rename_i free
    cases changed
    have absent : before.lookup path.key = none := by
      rw [← Option.not_isSome_iff_eq_none]
      exact fun given => free (.inr given)
    exact all.append absent (.leaf keyed)

theorem AllKeyed.openTable {path : KeyPath} (all : AllKeyed entries)
    (opened : openTable path entries = some out) : AllKeyed out := by
  refine all.edit (fun origin before after all changed => ?_) opened
  split at changed
  · rename_i absent
    cases changed
    exact all.append absent (keyed_table .header allKeyed_nil)
  · rename_i inner found
    cases changed
    have absent : (before.filter fun e => e.1 != path.key).lookup path.key = none := by
      rw [lookup_eq_none_iff_notMem, List.mem_map]
      rintro ⟨e, he, hkey⟩
      simp [hkey] at he
    exact (all.filter _).append absent (keyed_table .header (all.of_lookup_table found))
  · cases changed

theorem AllKeyed.openRow {path : KeyPath} (all : AllKeyed entries)
    (opened : openRow path entries = some out) : AllKeyed out := by
  refine all.edit (fun origin before after all changed => ?_) opened
  split at changed
  · rename_i absent
    cases changed
    exact all.append absent (keyed_rows (by simp [allKeyed_nil]))
  · rename_i tables found
    cases changed
    refine all.replace (keyed_rows fun t ht => ?_)
    rcases List.mem_append.mp ht with ht | ht
    · exact all.of_lookup_rows found ht
    · rw [List.mem_singleton.mp ht]
      exact allKeyed_nil
  · cases changed

end Edits

end Draft

/-! ### Reading values -/

open Text.Reader

theorem keyed_of_insertAll {pairs : List (KeyPath × Value)} {entries out : Draft.Entries}
    (all : Draft.AllKeyed entries) (keyed : ∀ pair ∈ pairs, pair.2.Keyed)
    (inserted : insertAll entries pairs = some out) : Draft.AllKeyed out := by
  induction pairs generalizing entries with
  | nil =>
    cases inserted
    exact all
  | cons first rest ih =>
    obtain ⟨path, v⟩ := first
    obtain ⟨hfirst, hrest⟩ := List.forall_mem_cons.mp keyed
    obtain ⟨more, hmore, hout⟩ := Option.bind_eq_some_iff.mp inserted
    exact ih (all.insert hfirst hmore) hrest hout

theorem gives_atom : Gives Value.Keyed atom := by
  unfold atom
  refine gives_bind fun next => ?_
  split
  · exact (gives_pure (.boolean true)).seqRight _
  · exact (gives_pure (.boolean false)).seqRight _
  · exact gives_map .string
  · exact gives_map .string
  · exact (gives_map .datetime).orElse ((gives_map .float).orElse (gives_map .integer))

theorem forall_mem_getD {α : Type} {P : α → Prop} {found : Option (List α)}
    (h : ∀ values ∈ found, ∀ a ∈ values, P a) : ∀ a ∈ found.getD [], P a := by
  cases found with
  | none => simp
  | some values => exact h values rfl

theorem gives_array {item : Text.Reader Value} (h : Gives Value.Keyed item) :
    Gives Value.Keyed (array item) := by
  unfold array
  refine gives_bind fun _ => gives_bind fun _ => ?_
  refine ((h.seqLeft space).separated (char ',' *> space)).optional.bind fun items hitems => ?_
  have closed : Gives Value.Keyed (char ']' *> pure (.array (items.getD []))) :=
    (gives_pure (.array (forall_mem_getD hitems))).seqRight _
  -- a comma may stand behind the last item
  split
  · exact gives_bind fun _ => closed
  · exact closed

theorem gives_pair {item : Text.Reader Value} (h : Gives Value.Keyed item) :
    Gives (fun p => p.2.Keyed) (pair item) :=
  gives_bind fun _ => gives_bind fun _ => gives_bind fun _ =>
    h.bind fun _ hv => gives_pure hv

theorem gives_inlineTable {item : Text.Reader Value} (h : Gives Value.Keyed item) :
    Gives Value.Keyed (inlineTable item) := by
  unfold inlineTable
  refine gives_bind fun _ => gives_bind fun _ => ?_
  refine (((gives_pair h).seqLeft blanks).separated (char ',')).optional.bind fun pairs hpairs => ?_
  refine gives_bind fun _ => ?_
  have all : ∀ entries, insertAll [] (pairs.getD []) = some entries → Draft.AllKeyed entries :=
    fun _ => keyed_of_insertAll Draft.allKeyed_nil (forall_mem_getD hpairs)
  refine (gives_lift all).bind fun entries all => gives_pure ?_
  have keyed := (Draft.keyed_table .dotted all).value
  rwa [Draft.value] at keyed

theorem gives_value (room : Nat) : Gives Value.Keyed (value room) := by
  induction room with
  | zero => exact gives_atom
  | succ room ih =>
    unfold value
    refine gives_bind fun next => ?_
    split
    · exact gives_array ih
    · exact gives_inlineTable ih
    · exact gives_atom

/-! ### Reading documents -/

/-- The value that a statement gives, if it gives one, is keyed. -/
def Statement.Keyed : Statement → Prop
  | .pair _ v => v.Keyed
  | .header _ | .rowHeader _ => True

theorem gives_header : Gives Statement.Keyed header := by
  unfold header
  refine gives_bind fun rows => ?_
  split
  · exact gives_bind fun _ => gives_bind fun _ => gives_bind fun _ => gives_pure trivial
  · exact gives_bind fun _ => gives_bind fun _ => gives_bind fun _ => gives_pure trivial

theorem gives_line : Gives (fun found => ∀ st ∈ found, Statement.Keyed st) line := by
  unfold line
  refine gives_bind fun _ => gives_bind fun next => ?_
  have blank : Gives (fun found => ∀ st ∈ found, Statement.Keyed st)
      (pure none : Text.Reader (Option Statement)) := gives_pure (by simp)
  split
  · exact gives_failure
  · exact (gives_header.map fun st hst => by simpa using hst).seqLeft lineEnd
  · exact blank.seqRight _
  · exact blank.seqRight _
  · exact blank.seqRight _
  · refine (gives_pair (gives_value deepest)).bind fun found hv => ?_
    exact gives_bind fun _ => gives_pure (by simpa [Statement.Keyed] using hv)

theorem gives_statements : Gives (fun all => ∀ st ∈ all, Statement.Keyed st) statements := by
  refine gives_line.many.bind fun lines hlines => gives_bind fun _ => gives_pure ?_
  intro st hst
  obtain ⟨found, hfound, hsome⟩ := List.mem_filterMap.mp hst
  exact hlines found hfound st hsome

namespace Document

theorem State.allKeyed_add {s t : State} {statement : Statement} (keyed : statement.Keyed)
    (all : Draft.AllKeyed s.entries) (added : s.add statement = some t) :
    Draft.AllKeyed t.entries := by
  cases statement with
  | pair path v =>
    obtain ⟨entries, hentries, hstate⟩ := Option.bind_eq_some_iff.mp added
    cases hstate
    exact all.edit (fun _ _ _ before inserted => before.insert keyed inserted) hentries
  | header path =>
    obtain ⟨entries, hentries, hstate⟩ := Option.bind_eq_some_iff.mp added
    cases hstate
    exact all.openTable hentries
  | rowHeader path =>
    obtain ⟨entries, hentries, hstate⟩ := Option.bind_eq_some_iff.mp added
    cases hstate
    exact all.openRow hentries

theorem State.allKeyed_addAll {s t : State} {statements : List Statement}
    (keyed : ∀ st ∈ statements, st.Keyed) (all : Draft.AllKeyed s.entries)
    (added : s.addAll statements = some t) : Draft.AllKeyed t.entries := by
  induction statements generalizing s with
  | nil =>
    cases added
    exact all
  | cons first rest ih =>
    obtain ⟨hfirst, hrest⟩ := List.forall_mem_cons.mp keyed
    obtain ⟨next, hnext, hlater⟩ := Option.bind_eq_some_iff.mp added
    exact ih hrest (State.allKeyed_add hfirst all hnext) hlater

/-- A document gives no key twice, in none of its tables. -/
theorem keyed_of_read {text : String} {t : Table} (h : read text = some t) :
    (Value.table t).Keyed := by
  obtain ⟨statements, hstatements, hrest⟩ := Option.bind_eq_some_iff.mp h
  obtain ⟨s, hs, ht⟩ := Option.bind_eq_some_iff.mp hrest
  cases ht
  have all := State.allKeyed_addAll (gives_statements.of_all hstatements) Draft.allKeyed_nil hs
  have keyed := (Draft.keyed_table .header all).value
  rwa [Draft.value] at keyed

end Document

end PacketDiversion.Toml
