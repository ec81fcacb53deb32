import PacketDiversion.Proofs.Settings.Conditions

/-!
# Names of flags

The flags of a session are listed by name. The list is read as a set: every name stands for one bit
of its own, and neither the order of the names nor a name that is listed again makes a difference
(`names_resolve_as_set`). A list with a name that is not declared has no flags, and the first such
name is the one that is refused.
-/

namespace PacketDiversion

namespace Flags

variable {name bad : String} {names first second : List String} {f g flag flags : Flags}

/-- The declared names. A name stands for the bit whose number is its place in this list. -/
def declared : List String :=
  ["SNIFF", "DROP", "RECV_ONLY", "SEND_ONLY", "NO_INSTALL", "FRAGMENTS"]

/-- Exactly the bits that the names stand for are set. -/
def Marks (flags : Flags) (names : List String) : Prop :=
  ∀ i, flags.bits.toNat.testBit i = true ↔ ∃ name ∈ names, declared[i]? = some name

/-! ### One name -/

theorem isSome_ofName?_iff : (ofName? name).isSome = true ↔ name ∈ declared := by
  rw [isSome_ofName?_eq]
  exact decide_eq_true_iff

theorem exists_ofName? (h : name ∈ declared) : ∃ flag, ofName? name = some flag :=
  Option.isSome_iff_exists.mp (isSome_ofName?_iff.mpr h)

theorem ofName?_eq_none (h : name ∉ declared) : ofName? name = Option.none := by
  rw [← isSome_ofName?_iff] at h
  exact Option.not_isSome_iff_eq_none.mp h

theorem marks_of_ofName? (h : ofName? name = some flag) : Marks flag [name] := by
  -- the table holds the names in the order of their bits, and no name twice
  have hnamed : ∀ entry ∈ named, ∃ place < declared.length,
      declared[place]? = some entry.1 ∧ entry.2.bits.toNat = 2 ^ place := by decide
  have hdistinct : declared.Nodup := by decide
  obtain ⟨entry, hfind, rfl⟩ := Option.map_eq_some_iff.mp h
  have hname : entry.1 = name := by simpa using List.find?_some hfind
  obtain ⟨place, hplace, hat, hbits⟩ := hnamed entry (List.mem_of_find?_eq_some hfind)
  rw [hname] at hat
  intro i
  simp only [List.mem_singleton, exists_eq_left, hbits, Nat.testBit_two_pow, decide_eq_true_eq,
    ← hat]
  rw [← List.getElem?_inj hplace hdistinct]
  exact eq_comm

/-! ### Sets of bits -/

theorem marks_none : Marks none [] := by
  intro i
  have hzero : none.bits.toNat.testBit i = false := Nat.zero_testBit i
  simp [hzero]

theorem Marks.union (hf : Marks f first) (hg : Marks g second) :
    Marks (f.union g) (first ++ second) := by
  intro i
  have hbits : (f.union g).bits = f.bits ||| g.bits := rfl
  rw [hbits, UInt64.toNat_or, Nat.testBit_or, Bool.or_eq_true, hf i, hg i]
  simp only [List.mem_append, or_and_right, exists_or]

/-- Only which names there are decides the bits. -/
theorem Marks.unique (hf : Marks f first) (hg : Marks g second)
    (same : ∀ name, name ∈ first ↔ name ∈ second) : f = g := by
  have hbits : f.bits = g.bits := by
    apply UInt64.toNat_inj.mp
    apply Nat.eq_of_testBit_eq
    intro i
    rw [Bool.eq_iff_iff, hf i, hg i]
    simp only [same]
  cases f
  cases g
  exact congrArg mk hbits

/-! ### Lists of names -/

theorem ofNames_of_declared (h : ∀ name ∈ names, name ∈ declared) :
    ∃ flags, ofNames names = .ok flags ∧ Marks flags names := by
  induction names with
  | nil => exact ⟨none, rfl, marks_none⟩
  | cons name rest ih =>
    obtain ⟨hname, hrest⟩ := List.forall_mem_cons.mp h
    obtain ⟨flag, hflag⟩ := exists_ofName? hname
    obtain ⟨others, hothers, marks⟩ := ih hrest
    refine ⟨flag.union others, ?_, (marks_of_ofName? hflag).union marks⟩
    simp only [ofNames, hflag, hothers]
    rfl

theorem ofNames_of_undeclared {before : List String} (after : List String)
    (hbefore : ∀ name ∈ before, name ∈ declared) (hbad : bad ∉ declared) :
    ofNames (before ++ bad :: after) = .error bad := by
  induction before with
  | nil => simp only [List.nil_append, ofNames, ofName?_eq_none hbad]
  | cons name rest ih =>
    obtain ⟨hname, hrest⟩ := List.forall_mem_cons.mp hbefore
    obtain ⟨flag, hflag⟩ := exists_ofName? hname
    simp only [List.cons_append, ofNames, hflag, ih hrest]
    rfl

/-- All names of a list are declared, or there is a first one that is not. -/
theorem declared_or_first_undeclared (names : List String) :
    (∀ name ∈ names, name ∈ declared) ∨ ∃ before bad after, names = before ++ bad :: after
      ∧ (∀ name ∈ before, name ∈ declared) ∧ bad ∉ declared := by
  cases hfind : names.find? fun name => name ∉ declared with
  | none => exact .inl (by simpa using hfind)
  | some bad =>
    obtain ⟨hbad, before, after, hsplit, hbefore⟩ := List.find?_eq_some_iff_append.mp hfind
    exact .inr ⟨before, bad, after, hsplit, by simpa using hbefore, by simpa using hbad⟩

theorem ofNames_eq_ok_iff :
    ofNames names = .ok flags ↔ (∀ name ∈ names, name ∈ declared) ∧ Marks flags names := by
  rcases declared_or_first_undeclared names with all | ⟨before, bad, after, rfl, hbefore, hbad⟩
  · obtain ⟨resolved, hresolved, marks⟩ := ofNames_of_declared all
    rw [hresolved]
    constructor
    · rintro ⟨⟩
      exact ⟨all, marks⟩
    · rintro ⟨-, marksToo⟩
      rw [marks.unique marksToo fun name => Iff.rfl]
  · rw [ofNames_of_undeclared after hbefore hbad]
    constructor
    · rintro ⟨⟩
    · rintro ⟨all, -⟩
      exact absurd (all bad (by simp)) hbad

theorem ofNames_eq_error_iff :
    ofNames names = .error bad ↔ ∃ before after, names = before ++ bad :: after
      ∧ (∀ name ∈ before, name ∈ declared) ∧ bad ∉ declared := by
  constructor
  · intro refused
    rcases declared_or_first_undeclared names with all | ⟨before, other, after, rfl, hbefore, hother⟩
    · obtain ⟨resolved, hresolved, -⟩ := ofNames_of_declared all
      rw [hresolved] at refused
      cases refused
    · rw [ofNames_of_undeclared after hbefore hother] at refused
      cases refused
      exact ⟨before, after, rfl, hbefore, hother⟩
  · rintro ⟨before, after, rfl, hbefore, hbad⟩
    exact ofNames_of_undeclared after hbefore hbad

theorem ofNames_append_eq_ok_iff :
    ofNames (first ++ second) = .ok flags
      ↔ ∃ f g, ofNames first = .ok f ∧ ofNames second = .ok g ∧ flags = f.union g := by
  simp only [ofNames_eq_ok_iff]
  constructor
  · rintro ⟨all, marks⟩
    obtain ⟨hfirst, hsecond⟩ := List.forall_mem_append.mp all
    obtain ⟨f, -, marksFirst⟩ := ofNames_of_declared hfirst
    obtain ⟨g, -, marksSecond⟩ := ofNames_of_declared hsecond
    have heq := marks.unique (marksFirst.union marksSecond) fun name => Iff.rfl
    exact ⟨f, g, ⟨hfirst, marksFirst⟩, ⟨hsecond, marksSecond⟩, heq⟩
  · rintro ⟨f, g, ⟨hfirst, marksFirst⟩, ⟨hsecond, marksSecond⟩, rfl⟩
    exact ⟨List.forall_mem_append.mpr ⟨hfirst, hsecond⟩, marksFirst.union marksSecond⟩

end Flags

namespace SessionSettings

theorem flags_eq_ok_iff {s : SessionSettings} {flags : Flags} :
    s.flags = .ok flags ↔ Flags.ofNames s.flagNames = .ok flags := mapError_eq_ok_iff

theorem flags_eq_error_iff {s : SessionSettings} {why : Invalid} :
    s.flags = .error why ↔ ∃ bad, Flags.ofNames s.flagNames = .error bad ∧ why = .flag bad := by
  unfold SessionSettings.flags
  cases Flags.ofNames s.flagNames with
  | ok flags =>
    change Except.ok flags = .error why ↔ ∃ bad, Except.ok flags = .error bad ∧ why = .flag bad
    simp only [reduceCtorEq, false_and, exists_false]
  | error first =>
    change Except.error (.flag first) = Except.error why
      ↔ ∃ bad, Except.error first = Except.error bad ∧ why = .flag bad
    simp only [Except.error.injEq, exists_eq_left', eq_comm]

theorem message_undeclared (name : String) : (SettingsError.invalid (.flag name)).message
    = "Validation error: unknown session flag \x60" ++ name ++ "\x60" := by
  change "Validation error: " ++ ("unknown session flag \x60" ++ name ++ "\x60") = _
  rw [← String.append_assoc, ← String.append_assoc]
  rfl

/-- The flag names of a session resolve exactly if all of them are declared, to the set of the bits
that they stand for. So a list of the same names resolves to the same flags, and a list that is put
together to the union of what its parts resolve to. Otherwise the first name that is not declared is
refused by name. -/
theorem names_resolve_as_set (s : SessionSettings) :
    ((∃ flags, s.flags = .ok flags) ↔ ∀ name ∈ s.flagNames, name ∈ Flags.declared)
      ∧ (∀ flags, s.flags = .ok flags → flags.Marks s.flagNames)
      ∧ (∀ t : SessionSettings, (∀ name, name ∈ t.flagNames ↔ name ∈ s.flagNames) →
        ∀ flags, t.flags = .ok flags ↔ s.flags = .ok flags)
      ∧ (∀ first second : SessionSettings, s.flagNames = first.flagNames ++ second.flagNames →
        ∀ flags, s.flags = .ok flags
          ↔ ∃ f g, first.flags = .ok f ∧ second.flags = .ok g ∧ flags = f.union g)
      ∧ ∀ why, s.flags = .error why ↔ ∃ before bad after, s.flagNames = before ++ bad :: after
        ∧ (∀ name ∈ before, name ∈ Flags.declared) ∧ bad ∉ Flags.declared ∧ why = .flag bad
        ∧ (SettingsError.invalid why).message
          = "Validation error: unknown session flag \x60" ++ bad ++ "\x60" := by
  refine ⟨?_, ?_, ?_, ?_, ?_⟩
  · simp only [flags_eq_ok_iff]
    constructor
    · rintro ⟨flags, hflags⟩
      exact (Flags.ofNames_eq_ok_iff.mp hflags).1
    · intro all
      obtain ⟨flags, hflags, -⟩ := Flags.ofNames_of_declared all
      exact ⟨flags, hflags⟩
  · intro flags hflags
    exact (Flags.ofNames_eq_ok_iff.mp (flags_eq_ok_iff.mp hflags)).2
  · intro t same flags
    simp only [flags_eq_ok_iff, Flags.ofNames_eq_ok_iff, Flags.Marks, same]
  · intro first second parts flags
    simp only [flags_eq_ok_iff, parts, Flags.ofNames_append_eq_ok_iff]
  · intro why
    simp only [flags_eq_error_iff, Flags.ofNames_eq_error_iff]
    constructor
    · rintro ⟨bad, ⟨before, after, hsplit, hbefore, hbad⟩, rfl⟩
      exact ⟨before, bad, after, hsplit, hbefore, hbad, rfl, message_undeclared bad⟩
    · rintro ⟨before, bad, after, hsplit, hbefore, hbad, hwhy, -⟩
      exact ⟨bad, ⟨before, after, hsplit, hbefore, hbad⟩, hwhy⟩

/-- Two names in another order and one of them twice, and a name in small letters before a wrong
one. -/
theorem repeated_names_resolve :
    (∀ name, name ∈ ["DROP", "SNIFF", "DROP"] ↔ name ∈ ["SNIFF", "DROP"])
      ∧ flags { filter := "true", flagNames := ["DROP", "SNIFF", "DROP"] } = .ok ⟨3⟩
      ∧ flags { filter := "true", flagNames := ["SNIFF", "drop", "TURBO"] }
        = .error (.flag "drop") := by
  have same : ∀ name, name ∈ ["DROP", "SNIFF", "DROP"] ↔ name ∈ ["SNIFF", "DROP"] := by
    intro name
    simp only [List.mem_cons, List.not_mem_nil, or_false]
    grind
  have resolved : flags { filter := "true", flagNames := ["SNIFF", "DROP"] } = .ok ⟨3⟩ :=
    toOption_eq_some_iff.mp (by decide)
  obtain ⟨-, -, sameFlags, -⟩ :=
    names_resolve_as_set { filter := "true", flagNames := ["SNIFF", "DROP"] }
  obtain ⟨-, -, -, -, refuses⟩ :=
    names_resolve_as_set { filter := "true", flagNames := ["SNIFF", "drop", "TURBO"] }
  refine ⟨same, (sameFlags _ same _).mpr resolved, (refuses _).mpr ?_⟩
  exact ⟨["SNIFF"], "drop", ["TURBO"], rfl, by decide, by decide, rfl, message_undeclared _⟩

end SessionSettings

end PacketDiversion
