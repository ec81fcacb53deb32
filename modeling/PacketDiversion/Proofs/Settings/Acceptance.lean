import Mathlib.Logic.Unique
import PacketDiversion.Settings.Load

/-!
# Accepted settings

Settings that are read from a text have passed every check, and the checks are passed exactly by
settings whose values are all within bounds (`Checked`). A text that describes settings is either
accepted with these settings or refused for one of their values (`parse_of_described`).
-/

namespace PacketDiversion

section Results

variable {ε δ α β : Type}

theorem bind_eq_ok_iff {x : Except ε α} {f : α → Except ε β} {b : β} :
    x >>= f = .ok b ↔ ∃ a, x = .ok a ∧ f a = .ok b := by
  cases x with
  | error e => simp [bind, Except.bind]
  | ok a => simp [bind, Except.bind]

theorem mapError_eq_ok_iff {x : Except ε α} {f : ε → δ} {a : α} :
    x.mapError f = .ok a ↔ x = .ok a := by
  cases x with
  | error e =>
    change Except.error (f e) = .ok a ↔ Except.error e = .ok a
    simp only [reduceCtorEq]
  | ok b =>
    change Except.ok b = .ok a ↔ Except.ok b = .ok a
    simp only [Except.ok.injEq]

theorem mapError_bind (g : ε → δ) (x : Except ε α) (f : α → Except ε β) :
    (x >>= f).mapError g = x.mapError g >>= fun a => (f a).mapError g := by
  cases x with
  | error e => rfl
  | ok a => rfl

theorem toOption_eq_some_iff {x : Except ε α} {a : α} : x.toOption = some a ↔ x = .ok a := by
  cases x with
  | error e => simp [Except.toOption]
  | ok b => simp [Except.toOption]

theorem toOption_congr {x y : Except ε α} (h : ∀ a, x = .ok a ↔ y = .ok a) :
    x.toOption = y.toOption := by
  ext a
  rw [toOption_eq_some_iff, toOption_eq_some_iff, h]

end Results

/-! ### Single values -/

theorem Parameter.checkAll_eq_ok_iff {entries : List (Parameter × UInt64)} :
    checkAll entries = .ok () ↔ ∀ e ∈ entries, e.1.check e.2 = .ok () := by
  induction entries with
  | nil => simp [checkAll]
  | cons first rest ih =>
    obtain ⟨p, v⟩ := first
    simp only [checkAll, bind_eq_ok_iff, ih, List.forall_mem_cons, Unique.exists_iff,
      PUnit.default_eq_unit]

theorem Priority.check_eq_ok_iff {p : Int} : Priority.check p = .ok () ↔ Priority.Valid p := by
  unfold Priority.check
  by_cases hvalid : Priority.Valid p
  · simp [hvalid]
  · simp [hvalid]

namespace Settings

/-! ### All values -/

/-- Every value of the settings is within its bounds; the filter has none. -/
structure Checked (s : Settings) : Prop where
  priority : Priority.Valid s.session.priority
  flags : ∃ flags, s.session.flags = .ok flags
  queue : ∀ e ∈ s.queue.entries, e.1.check e.2 = .ok ()
  batch : s.relay.batch ≠ 0
  bufferSize : s.relay.bufferSize ≠ 0

theorem check_eq_ok_iff {s : Settings} : s.check = .ok () ↔ s.Checked := by
  unfold check
  simp only [bind_eq_ok_iff, mapError_eq_ok_iff, Unique.exists_iff, PUnit.default_eq_unit,
    Priority.check_eq_ok_iff, Parameter.checkAll_eq_ok_iff]
  constructor
  · intro h
    obtain ⟨hpriority, flags, hflags, hqueue, hsizes⟩ := h
    split at hsizes
    · cases hsizes
    · rename_i hbatch
      split at hsizes
      · cases hsizes
      · rename_i hsize
        exact ⟨hpriority, ⟨flags, hflags⟩, hqueue, hbatch, hsize⟩
  · intro h
    obtain ⟨flags, hflags⟩ := h.flags
    rw [if_neg h.batch, if_neg h.bufferSize]
    exact ⟨h.priority, flags, hflags, h.queue, rfl⟩

/-! ### Texts and files -/

theorem ofDocument_eq_ok_iff {t : Toml.Table} {s : Settings} :
    ofDocument t = .ok s ↔ ofTable t = .ok s ∧ s.check = .ok () := by
  simp only [ofDocument, bind_eq_ok_iff, mapError_eq_ok_iff, Unique.exists_iff,
    PUnit.default_eq_unit]
  constructor
  · rintro ⟨found, htable, hcheck, hs⟩
    cases hs
    exact ⟨htable, hcheck⟩
  · rintro ⟨htable, hcheck⟩
    exact ⟨s, htable, hcheck, rfl⟩

theorem parse_of_read {text : String} {t : Toml.Table} (read : Toml.Document.read text = some t) :
    parse text = ofDocument t := by
  rw [parse, read]

/-- The text is a document that describes the settings. -/
def Describes (text : String) (s : Settings) : Prop :=
  ∃ t, Toml.Document.read text = some t ∧ ofTable t = .ok s

theorem parse_of_described {text : String} {s : Settings} (described : Describes text s) :
    parse text = s.check.mapError .invalid >>= fun _ => .ok s := by
  obtain ⟨t, hread, htable⟩ := described
  rw [parse_of_read hread, ofDocument, htable]
  rfl

theorem parse_eq_ok_iff {text : String} {s : Settings} :
    parse text = .ok s ↔ Describes text s ∧ s.check = .ok () := by
  constructor
  · intro accepted
    cases hread : Toml.Document.read text with
    | none => simp [parse, hread] at accepted
    | some t =>
      rw [parse_of_read hread] at accepted
      obtain ⟨htable, hcheck⟩ := ofDocument_eq_ok_iff.mp accepted
      exact ⟨⟨t, hread, htable⟩, hcheck⟩
  · intro h
    obtain ⟨described, hcheck⟩ := h
    rw [parse_of_described described, hcheck]
    rfl

theorem check_of_load {path : String} {file : FileState} {s : Settings}
    (loaded : load path file = .ok s) : s.check = .ok () := by
  obtain ⟨text, -, hparse⟩ := bind_eq_ok_iff.mp loaded
  exact (parse_eq_ok_iff.mp hparse).2

end Settings

end PacketDiversion
