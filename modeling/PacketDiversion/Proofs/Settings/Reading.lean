import PacketDiversion.Proofs.Settings.Acceptance
import PacketDiversion.Proofs.Toml.Keys

/-!
# What sections give

A section that is a table is read field by field, and its entries are all checked before, in the
order of the document. With distinct keys that check adds nothing: a section is read exactly if each
of its fields gives a value, its own or its default, wherever in the table the field stands
(`ofValue_eq_ok_iff` for each section, `Settings.ofTable_eq_ok_iff` for the whole).
-/

namespace PacketDiversion

open Toml

namespace Form

variable {α : Type} {read : Value → Except Mismatch α} {default a : α} {key : String}
  {entries : Table}

/-- What a table gives for a field: what its value reads as, or the default if it has none. -/
def given (read : Value → Except Mismatch α) (default : Option α) (key : String)
    (entries : Table) : Option α :=
  match entries.lookup key with
  | some v => (read v).toOption
  | none => default

theorem get_eq_ok_iff : get read key entries = .ok a ↔ given read none key entries = some a := by
  unfold get given
  cases entries.lookup key with
  | none => simp
  | some v => exact toOption_eq_some_iff.symm

theorem get?_eq_ok_iff {found : Option α} :
    get? read key entries = .ok found
      ↔ given (fun v => (read v).map some) (some none) key entries = some found := by
  unfold get? given
  cases entries.lookup key with
  | none => simp
  | some v => exact toOption_eq_some_iff.symm

theorem getD_eq_ok_iff :
    getD read key entries default = .ok a ↔ given read (some default) key entries = some a := by
  unfold getD get? given
  cases entries.lookup key with
  | none => simp [Except.map]
  | some v =>
    cases hread : read v with
    | error e => simp [hread, Except.map, Except.toOption]
    | ok b => simp [hread, Except.map, Except.toOption]

/-- A value that reads for a field fits it. -/
theorem fits_of_given {d : Option α} {v : Value} (h : given read d key entries = some a)
    (found : entries.lookup key = some v) : fits read v = .ok () := by
  unfold given at h
  rw [found] at h
  have hread := toOption_eq_some_iff.mp h
  rw [fits, hread]
  rfl

theorem fits_map {β : Type} (f : α → β) (v : Value) :
    fits (fun v => (read v).map f) v = fits read v := by
  change ((read v).map f).map _ = (read v).map _
  cases read v with
  | error e => rfl
  | ok b => rfl

theorem check_eq_ok_of_forall {form : Form}
    (fitting : ∀ e ∈ entries, ∀ fits, form.fields.lookup e.1 = some fits → fits e.2 = .ok ()) :
    form.check entries = .ok () := by
  induction entries with
  | nil => rfl
  | cons first rest ih =>
    obtain ⟨key, v⟩ := first
    obtain ⟨hfirst, hrest⟩ := List.forall_mem_cons.mp fitting
    rw [check]
    cases found : form.fields.lookup key with
    | none => exact ih hrest
    | some fits =>
      simp only [hfirst fits found]
      exact ih hrest

/-- With distinct keys, a table passes the check if each field that it has passes its own. -/
theorem check_of_fields {form : Form} (distinct : Distinct entries)
    (fitting : ∀ field ∈ form.fields, ∀ v, entries.lookup field.1 = some v → field.2 v = .ok ()) :
    form.check entries = .ok () := by
  refine check_eq_ok_of_forall fun e he fits found => ?_
  exact fitting (e.1, fits) (mem_of_lookup found) e.2 (distinct.lookup_eq_some_iff.mpr he)

theorem entries_table_eq_ok_iff {form : Form} {found : Table} :
    form.entries (.table entries) = .ok found ↔ form.check entries = .ok () ∧ found = entries := by
  rw [Form.entries, bind_eq_ok_iff]
  simp only [Unique.exists_iff, PUnit.default_eq_unit]
  refine and_congr_right fun _ => ?_
  constructor
  · intro h
    cases h
    rfl
  · rintro rfl
    rfl

end Form

open Form

variable {entries : Table}

/-! ### Sections -/

theorem SessionSettings.ofValue_eq_ok_iff (distinct : Distinct entries) {s : SessionSettings} :
    ofValue (.table entries) = .ok s
      ↔ given text none "filter" entries = some s.filter
        ∧ given Form.layer (some default) "layer" entries = some s.layer
        ∧ given int16 (some Priority.default) "priority" entries = some s.priority
        ∧ given texts (some []) "flags" entries = some s.flagNames := by
  simp only [ofValue, bind_eq_ok_iff, entries_table_eq_ok_iff, get_eq_ok_iff, getD_eq_ok_iff]
  constructor
  · rintro ⟨found, ⟨-, rfl⟩, filter, hfilter, layer, hlayer, priority, hpriority, names, hnames,
      hs⟩
    cases hs
    exact ⟨hfilter, hlayer, hpriority, hnames⟩
  · rintro ⟨hfilter, hlayer, hpriority, hnames⟩
    refine ⟨entries, ⟨check_of_fields distinct ?_, rfl⟩, _, hfilter, _, hlayer, _, hpriority, _,
      hnames, rfl⟩
    simp only [form, List.forall_mem_cons]
    exact ⟨fun _ => fits_of_given hfilter, fun _ => fits_of_given hlayer,
      fun _ => fits_of_given hpriority, fun _ => fits_of_given hnames, by simp⟩

theorem QueueSettings.ofValue_eq_ok_iff (distinct : Distinct entries) {q : QueueSettings} :
    ofValue (.table entries) = .ok q
      ↔ given (fun v => (word64 v).map some) (some none) "length" entries = some q.length
        ∧ given (fun v => (word64 v).map some) (some none) "time" entries = some q.time
        ∧ given (fun v => (word64 v).map some) (some none) "size" entries = some q.size := by
  have fitting : ∀ {key : String} {found : Option UInt64} {v : Value},
      given (fun v => (word64 v).map some) (some none) key entries = some found →
      entries.lookup key = some v → fits word64 v = .ok () := by
    intro key found v h hlookup
    rw [← fits_map some v]
    exact fits_of_given h hlookup
  simp only [ofValue, bind_eq_ok_iff, entries_table_eq_ok_iff, get?_eq_ok_iff]
  constructor
  · rintro ⟨found, ⟨-, rfl⟩, length, hlength, time, htime, size, hsize, hq⟩
    cases hq
    exact ⟨hlength, htime, hsize⟩
  · rintro ⟨hlength, htime, hsize⟩
    refine ⟨entries, ⟨check_of_fields distinct ?_, rfl⟩, _, hlength, _, htime, _, hsize, rfl⟩
    simp only [form, List.forall_mem_cons]
    exact ⟨fun _ => fitting hlength, fun _ => fitting htime, fun _ => fitting hsize, by simp⟩

theorem RelaySettings.ofValue_eq_ok_iff (distinct : Distinct entries) {r : RelaySettings} :
    ofValue (.table entries) = .ok r
      ↔ given Form.size (some 16) "batch" entries = some r.batch
        ∧ given Form.size (some packetRoom) "buffer_size" entries = some r.bufferSize
        ∧ given boolean (some true) "reinject" entries = some r.reinject := by
  simp only [ofValue, bind_eq_ok_iff, entries_table_eq_ok_iff, getD_eq_ok_iff]
  constructor
  · rintro ⟨found, ⟨-, rfl⟩, batch, hbatch, size, hsize, reinject, hreinject, hr⟩
    cases hr
    exact ⟨hbatch, hsize, hreinject⟩
  · rintro ⟨hbatch, hsize, hreinject⟩
    refine ⟨entries, ⟨check_of_fields distinct ?_, rfl⟩, _, hbatch, _, hsize, _, hreinject, rfl⟩
    simp only [form, List.forall_mem_cons]
    exact ⟨fun _ => fits_of_given hbatch, fun _ => fits_of_given hsize,
      fun _ => fits_of_given hreinject, by simp⟩

theorem LoggingSettings.ofValue_eq_ok_iff (distinct : Distinct entries) {l : LoggingSettings} :
    ofValue (.table entries) = .ok l
      ↔ given text (some "divert=info") "spec" entries = some l.spec
        ∧ given path (some "logs") "directory" entries = some l.directory := by
  simp only [ofValue, bind_eq_ok_iff, entries_table_eq_ok_iff, getD_eq_ok_iff]
  constructor
  · rintro ⟨found, ⟨-, rfl⟩, spec, hspec, directory, hdirectory, hl⟩
    cases hl
    exact ⟨hspec, hdirectory⟩
  · rintro ⟨hspec, hdirectory⟩
    refine ⟨entries, ⟨check_of_fields distinct ?_, rfl⟩, _, hspec, _, hdirectory, rfl⟩
    simp only [form, List.forall_mem_cons]
    exact ⟨fun _ => fits_of_given hspec, fun _ => fits_of_given hdirectory, by simp⟩

/-! ### The document -/

theorem Settings.ofTable_eq_ok_iff (distinct : Distinct entries) {s : Settings} :
    ofTable entries = .ok s
      ↔ given SessionSettings.ofValue none "session" entries = some s.session
        ∧ given QueueSettings.ofValue (some {}) "queue" entries = some s.queue
        ∧ given RelaySettings.ofValue (some {}) "relay" entries = some s.relay
        ∧ given LoggingSettings.ofValue (some {}) "logging" entries = some s.logging := by
  simp only [ofTable, bind_eq_ok_iff, entries_table_eq_ok_iff, get_eq_ok_iff, getD_eq_ok_iff]
  constructor
  · rintro ⟨found, ⟨-, rfl⟩, session, hsession, queue, hqueue, relay, hrelay, logging, hlogging,
      hs⟩
    cases hs
    exact ⟨hsession, hqueue, hrelay, hlogging⟩
  · rintro ⟨hsession, hqueue, hrelay, hlogging⟩
    refine ⟨entries, ⟨check_of_fields distinct ?_, rfl⟩, _, hsession, _, hqueue, _, hrelay, _,
      hlogging, rfl⟩
    simp only [form, List.forall_mem_cons]
    exact ⟨fun _ => fits_of_given hsession, fun _ => fits_of_given hqueue,
      fun _ => fits_of_given hrelay, fun _ => fits_of_given hlogging, by simp⟩

end PacketDiversion
