import PacketDiversion.Proofs.Settings.Acceptance

/-!
# Conditions on settings

What settings must fulfil, as a list of conditions in the order in which they are looked at. A text
that describes settings is accepted with them exactly if they fulfil every condition, and refused in
the words of the first one that they break otherwise (`first_broken_refuses`). The list says nothing
of how the checks are made; `Judges` ties it to them, one check after the other.
-/

namespace PacketDiversion

/-- A condition on settings, with what is said of settings that break it. -/
structure Condition where
  holds : Bool
  objection : String

namespace Condition

def firstBroken (conditions : List Condition) : Option Condition :=
  conditions.find? fun c => !c.holds

def ofPriority (p : Int) : Condition where
  holds := -30000 ≤ p ∧ p ≤ 30000
  objection := "priority " ++ toString p ++ " is out of range [-30000, 30000]"

def ofFlag (name : String) : Condition where
  holds := name ∈ ["SNIFF", "DROP", "RECV_ONLY", "SEND_ONLY", "NO_INSTALL", "FRAGMENTS"]
  objection := "unknown session flag \x60" ++ name ++ "\x60"

def ofQueue (name : String) (least greatest : Nat) (value : UInt64) : Condition where
  holds := least ≤ value.toNat ∧ value.toNat ≤ greatest
  objection :=
    "queue: " ++ s!"{name} value {value.toNat} is out of range [{least}, {greatest}]"

def ofSize (name : String) (size : Nat) : Condition where
  holds := 1 ≤ size
  objection := s!"relay.{name} must be > 0"

/-! ### Checks that judge by conditions -/

section Judging

variable {α β : Type} {cs ds : List Condition}

/-- A check passes if all conditions hold, and otherwise objects to the first one that does not. -/
def Judges (cs : List Condition) (verdict : Except Invalid α) : Prop :=
  match firstBroken cs with
  | none => ∃ a, verdict = .ok a
  | some c => ∃ why, verdict = .error why ∧ why.text = c.objection

theorem judges_nil (a : α) : Judges [] (.ok a) := ⟨a, rfl⟩

theorem judges_of_holds {c : Condition} {verdict : Except Invalid α} (holds : c.holds = true)
    (passes : ∃ a, verdict = .ok a) : Judges [c] verdict := by
  have hfirst : firstBroken [c] = none := by simp [firstBroken, holds]
  unfold Judges
  rw [hfirst]
  exact passes

theorem judges_of_broken {c : Condition} {why : Invalid} (broken : c.holds = false)
    (text : why.text = c.objection) : Judges [c] (.error why : Except Invalid α) := by
  have hfirst : firstBroken [c] = some c := by simp [firstBroken, broken]
  unfold Judges
  rw [hfirst]
  exact ⟨why, rfl, text⟩

/-- Two checks, the second of which is only made if the first one passes. -/
theorem Judges.bind {x : Except Invalid α} {f : α → Except Invalid β} (first : Judges cs x)
    (second : ∀ a, Judges ds (f a)) : Judges (cs ++ ds) (x >>= f) := by
  have happend : firstBroken (cs ++ ds) = (firstBroken cs).or (firstBroken ds) :=
    List.find?_append
  unfold Judges at first
  unfold Judges
  cases hfirst : firstBroken cs with
  | none =>
    rw [hfirst] at first
    obtain ⟨a, rfl⟩ := first
    rw [happend, hfirst, Option.none_or]
    exact second a
  | some c =>
    rw [hfirst] at first
    obtain ⟨why, rfl, text⟩ := first
    rw [happend, hfirst, Option.some_or]
    exact ⟨why, rfl, text⟩

theorem Judges.map {x : Except Invalid α} (f : α → β) (judges : Judges cs x) :
    Judges cs (x.map f) := by
  unfold Judges at judges ⊢
  cases hfirst : firstBroken cs with
  | none =>
    rw [hfirst] at judges
    obtain ⟨a, rfl⟩ := judges
    exact ⟨f a, rfl⟩
  | some c =>
    rw [hfirst] at judges
    obtain ⟨why, rfl, text⟩ := judges
    exact ⟨why, rfl, text⟩

end Judging

end Condition

open Condition

/-! ### The checks -/

theorem Priority.text_error (p : Int) :
    (Invalid.priority (.priority p lowest highest)).text = (ofPriority p).objection := by
  have hrange : " is out of range [" ++ (toString lowest ++ (", " ++ (toString highest ++ "]")))
      = " is out of range [-30000, 30000]" := by decide +kernel
  calc "priority " ++ toString p ++ " is out of range [" ++ toString lowest ++ ", "
        ++ toString highest ++ "]"
      = "priority " ++ toString p
        ++ (" is out of range [" ++ (toString lowest ++ (", " ++ (toString highest ++ "]")))) := by
        simp only [String.append_assoc]
    _ = "priority " ++ toString p ++ " is out of range [-30000, 30000]" := by rw [hrange]

theorem judges_priority (p : Int) :
    Judges [ofPriority p] ((Priority.check p).mapError .priority) := by
  by_cases valid : Priority.Valid p
  · have hholds : (ofPriority p).holds = true := decide_eq_true valid
    have hcheck : Priority.check p = .ok () := if_pos valid
    exact judges_of_holds hholds ⟨(), by rw [hcheck]; rfl⟩
  · have hbroken : (ofPriority p).holds = false := decide_eq_false valid
    have hcheck : Priority.check p = .error (.priority p Priority.lowest Priority.highest) :=
      if_neg valid
    rw [hcheck]
    exact judges_of_broken hbroken (Priority.text_error p)

theorem Flags.isSome_ofName?_eq (name : String) : (ofName? name).isSome = (ofFlag name).holds := by
  rw [Bool.eq_iff_iff, ofName?, Option.isSome_map, List.find?_isSome]
  have hnames : named.map Prod.fst
      = ["SNIFF", "DROP", "RECV_ONLY", "SEND_ONLY", "NO_INSTALL", "FRAGMENTS"] := rfl
  simp only [ofFlag, decide_eq_true_eq, ← hnames, List.mem_map, beq_iff_eq]

theorem Flags.mapError_ofNames_cons (name : String) (rest : List String) :
    (ofNames (name :: rest)).mapError Invalid.flag
      = (match ofName? name with
          | some flag => .ok flag
          | Option.none => .error (.flag name))
        >>= fun flag => ((ofNames rest).mapError Invalid.flag).map flag.union := by
  rw [ofNames]
  cases ofName? name with
  | none => rfl
  | some flag =>
    cases ofNames rest with
    | error other => rfl
    | ok others => rfl

theorem judges_flags (names : List String) :
    Judges (names.map ofFlag) ((Flags.ofNames names).mapError .flag) := by
  induction names with
  | nil => exact judges_nil _
  | cons name rest ih =>
    have hsome := Flags.isSome_ofName?_eq name
    rw [Flags.mapError_ofNames_cons, List.map_cons, ← List.singleton_append]
    -- a name is resolved before the names behind it, so the first unknown one is objected to
    refine Judges.bind ?_ fun flag => ih.map flag.union
    cases hname : Flags.ofName? name with
    | none =>
      have hbroken : (ofFlag name).holds = false := by rw [← hsome, hname]; rfl
      exact judges_of_broken hbroken rfl
    | some flag =>
      have hholds : (ofFlag name).holds = true := by rw [← hsome, hname]; rfl
      exact judges_of_holds hholds ⟨flag, rfl⟩

theorem judges_entry {p : Parameter} {bounds : Bounds} (hbounds : p.bounds = some bounds)
    (value : Option UInt64) :
    Judges (value.map (ofQueue p.name bounds.min.toNat bounds.max.toNat)).toList
      ((Parameter.checkAll (value.map (p, ·)).toList).mapError .queue) := by
  cases value with
  | none => exact judges_nil _
  | some v =>
    have hcheck : Parameter.checkAll [(p, v)] = p.check v := by
      simp only [Parameter.checkAll]
      cases p.check v with
      | error e => rfl
      | ok a => rfl
    change Judges [ofQueue p.name bounds.min.toNat bounds.max.toNat v]
      ((Parameter.checkAll [(p, v)]).mapError .queue)
    rw [hcheck, Parameter.check, hbounds]
    by_cases within : bounds.Contains v
    · have hholds : (ofQueue p.name bounds.min.toNat bounds.max.toNat v).holds = true :=
        decide_eq_true within
      exact judges_of_holds hholds ⟨(), by simp only [if_pos within]; rfl⟩
    · have hbroken : (ofQueue p.name bounds.min.toNat bounds.max.toNat v).holds = false :=
        decide_eq_false within
      simp only [if_neg within]
      exact judges_of_broken hbroken rfl

theorem Parameter.checkAll_append (first second : List (Parameter × UInt64)) :
    checkAll (first ++ second) = checkAll first >>= fun _ => checkAll second := by
  induction first with
  | nil => rfl
  | cons entry rest ih =>
    obtain ⟨p, v⟩ := entry
    simp only [List.cons_append, checkAll]
    cases p.check v with
    | error e => rfl
    | ok a => exact ih

theorem QueueSettings.entries_eq (q : QueueSettings) :
    q.entries = (q.length.map (Parameter.queueLength, ·)).toList
      ++ ((q.time.map (Parameter.queueTime, ·)).toList
        ++ (q.size.map (Parameter.queueSize, ·)).toList) := by
  obtain ⟨length, time, size⟩ := q
  cases length <;> cases time <;> cases size <;> rfl

namespace Settings

/-! ### All conditions -/

/-- The conditions on settings, in the order in which they are looked at. -/
def conditions (s : Settings) : List Condition :=
  [ofPriority s.session.priority]
    ++ (s.session.flagNames.map ofFlag
    ++ (((s.queue.length.map (ofQueue "queue_length" 32 16384)).toList
      ++ ((s.queue.time.map (ofQueue "queue_time" 100 16000)).toList
      ++ (s.queue.size.map (ofQueue "queue_size" 65535 33554432)).toList))
    ++ [ofSize "batch" s.relay.batch, ofSize "buffer_size" s.relay.bufferSize]))

theorem judges_queue (q : QueueSettings) :
    Judges ((q.length.map (ofQueue "queue_length" 32 16384)).toList
        ++ ((q.time.map (ofQueue "queue_time" 100 16000)).toList
          ++ (q.size.map (ofQueue "queue_size" 65535 33554432)).toList))
      ((Parameter.checkAll q.entries).mapError .queue) := by
  have hlength : Parameter.queueLength.bounds = some ⟨32, 16384⟩ := rfl
  have htime : Parameter.queueTime.bounds = some ⟨100, 16000⟩ := rfl
  have hsize : Parameter.queueSize.bounds = some ⟨65535, 33554432⟩ := rfl
  rw [QueueSettings.entries_eq, Parameter.checkAll_append, mapError_bind,
    Parameter.checkAll_append, mapError_bind]
  exact (judges_entry hlength q.length).bind fun _ =>
    (judges_entry htime q.time).bind fun _ => judges_entry hsize q.size

theorem judges_size {name : String} {why : Invalid} (size : Nat)
    (text : why.text = (ofSize name size).objection) :
    Judges [ofSize name size] (if size = 0 then .error why else .ok () : Except Invalid Unit) := by
  by_cases empty : size = 0
  · rw [if_pos empty]
    exact judges_of_broken (decide_eq_false (by omega)) text
  · rw [if_neg empty]
    exact judges_of_holds (decide_eq_true (by omega)) ⟨(), rfl⟩

theorem judges_check (s : Settings) : Judges s.conditions s.check := by
  have hsizes : (if s.relay.batch = 0 then .error .noBatch
        else if s.relay.bufferSize = 0 then .error .noBuffer else .ok () : Except Invalid Unit)
      = (if s.relay.batch = 0 then .error .noBatch else .ok ()) >>= fun _ =>
        if s.relay.bufferSize = 0 then .error .noBuffer else .ok () := by
    by_cases empty : s.relay.batch = 0
    · rw [if_pos empty, if_pos empty]
      rfl
    · rw [if_neg empty, if_neg empty]
      rfl
  unfold conditions check
  rw [hsizes]
  refine (judges_priority _).bind fun _ => (judges_flags _).bind fun _ => ?_
  exact (judges_queue _).bind fun _ => (judges_size _ rfl).bind fun _ => judges_size _ rfl

theorem firstBroken_eq_none_iff {cs : List Condition} :
    firstBroken cs = none ↔ ∀ c ∈ cs, c.holds = true := by
  simp [firstBroken]

/-- A text that describes settings is accepted with exactly these settings if they fulfil every
condition. Otherwise it is refused in the words of the first condition that they break. -/
theorem first_broken_refuses {text : String} {s : Settings} (described : Describes text s) :
    (parse text = .ok s ↔ ∀ c ∈ s.conditions, c.holds = true)
      ∧ (¬ (∀ c ∈ s.conditions, c.holds = true) → ∃ c why, firstBroken s.conditions = some c
        ∧ parse text = .error (.invalid why)
        ∧ (SettingsError.invalid why).message = "Validation error: " ++ c.objection) := by
  have judges := judges_check s
  have hparse := parse_of_described described
  unfold Judges at judges
  rw [← firstBroken_eq_none_iff]
  cases hfirst : firstBroken s.conditions with
  | none =>
    rw [hfirst] at judges
    obtain ⟨passed, hcheck⟩ := judges
    rw [hcheck] at hparse
    exact ⟨⟨fun _ => rfl, fun _ => hparse⟩, fun broken => absurd rfl broken⟩
  | some c =>
    rw [hfirst] at judges
    obtain ⟨why, hcheck, text⟩ := judges
    rw [hcheck] at hparse
    have refused : parse _ = .error (.invalid why) := hparse
    refine ⟨?_, ?_⟩
    · rw [refused]
      simp
    · intro _
      refine ⟨c, why, rfl, refused, ?_⟩
      change "Validation error: " ++ why.text = _
      rw [text]

/-- Settings with a time that is too short, no batch, and two names that stand for no flag. -/
def faultyText : String :=
  "[session]\nfilter = \"true\"\nflags = [\"SNIFF\", \"TURBO\", \"drop\"]\n"
    ++ "[queue]\ntime = 99\n[relay]\nbatch = 0\n"

theorem faulty_refused :
    ∃ s, Describes faultyText s ∧ (s.conditions.filter fun c => !c.holds).length = 4
      ∧ ∃ why, parse faultyText = .error (.invalid why)
        ∧ (SettingsError.invalid why).message
          = "Validation error: unknown session flag \x60TURBO\x60" := by
  have hread : ((Toml.Document.read faultyText).bind fun t => (ofTable t).toOption)
      = some { session := { filter := "true", flagNames := ["SNIFF", "TURBO", "drop"] }
               queue := { time := some 99 }
               relay := { batch := 0 } } := by decide +kernel
  obtain ⟨t, ht, htable⟩ := Option.bind_eq_some_iff.mp hread
  have described : Describes faultyText _ := ⟨t, ht, toOption_eq_some_iff.mp htable⟩
  obtain ⟨-, refuses⟩ := first_broken_refuses described
  obtain ⟨c, why, hfirst, hparse, hmessage⟩ := refuses (by decide)
  refine ⟨_, described, by decide, why, hparse, ?_⟩
  cases hfirst
  rw [hmessage]
  decide

end Settings

end PacketDiversion
