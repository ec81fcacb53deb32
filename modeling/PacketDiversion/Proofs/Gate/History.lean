import PacketDiversion.Host.Scripted
import PacketDiversion.Proofs.Gate.Deeds

/-!
# The gate over whole histories

Over every history of a client the cell holds an entry exactly when some action has run the gate to
acceptance, and it keeps the first one. Until then sessions are opened for the gate's probe only;
from then on the gate is not asked again, and a caller's open is one call with the entry that the
cell holds (`gate_over_history`).
-/

namespace PacketDiversion

open Program

def Call.isOpen : Call → Bool
  | .openSession .. => true
  | _ => false

def opens (events : List Event) : List Call := (events.map Event.call).filter Call.isOpen

/-- The call that an action makes for its caller when it opens a session through an entry: the
filter's text, the layer, the priority and the flags are the caller's. -/
def Action.Opens (e : Entry) (call : Call) : Action → Prop
  | .openSession _ filter layer priority flags =>
    ∃ parsed : Filter, parsed.text = filter ∧ call = .openSession e parsed layer priority flags
  | _ => False

namespace Client

/-! ### The cell -/

/-- An action runs the gate to acceptance: it asks for the entry, and its events begin with a run of
the gate that ends with `e`. -/
def Accepts (a : Action) (events : List Event) (e : Entry) : Prop :=
  a.Enters ∧ ∃ gate rest, events = gate ++ rest ∧ Runs Driver.check gate (.ok e)

/-- After the first events of an action the cell holds `e`: it did so before the action, or the
action has run the gate to acceptance. -/
def HoldsAfter (c : Client) (a : Action) (events : List Event) (e : Entry) : Prop :=
  c.driver.entry = some e ∨ c.driver.entry = none ∧ Accepts a events e

/-- The cell guards the driver during a deed. -/
structure Deed.Guarded (d : Deed) : Prop where
  /-- What the cell holds stays in it. -/
  kept : ∀ e, d.before.driver.entry = some e → d.after.driver.entry = some e
  /-- A session that is not opened for a probe is the caller's, through an entry in the cell. -/
  probes : ∀ before event rest, d.events = before ++ event :: rest → event.call.isOpen →
    event.call.IsProbe ∨ ∃ e, d.before.HoldsAfter d.action before e ∧ d.action.Opens e event.call
  /-- With an entry in the cell the gate is not asked. -/
  cached : ∀ e, d.before.driver.entry = some e → d.action.Enters →
    ∀ event ∈ d.events, event.call ≠ .queryEmulation ∧ event.call ≠ .loadEntry
  /-- With an entry in the cell an open with valid arguments is one call for the caller. -/
  once : ∀ e slot filter layer priority flags, d.before.driver.entry = some e →
    d.action = .openSession slot filter layer priority flags → d.before.Reaches d.action →
    ∃ call, d.action.Opens e call ∧ opens d.events = [call]
  /-- With the cell empty the whole gate is run, from its first step, and only its acceptance is
  put into the cell. -/
  again : d.before.driver.entry = none → d.before.Reaches d.action →
    ∃ gate rest verdict, d.events = gate ++ rest ∧ Runs Driver.check gate verdict
      ∧ (∃ reply tail, gate = ⟨.queryEmulation, reply⟩ :: tail)
      ∧ match verdict with
        | .ok e => d.after.driver.entry = some e
        | .error reason =>
          rest = [] ∧ d.outcome = .unwound (.rejected reason) ∧ d.after.driver.entry = none
        | .unwound why => rest = [] ∧ d.outcome = .unwound why ∧ d.after.driver.entry = none
  /-- An open that is refused for its arguments calls nothing. -/
  refused : d.action.Enters → ¬ d.before.Reaches d.action →
    d.events = [] ∧ d.after.driver = d.before.driver

/-! ### Calls -/

theorem not_open_of_upkeep {call : Call} (h : call.IsUpkeep ∨ call.IsRequest) :
    ¬ call.isOpen = true := by
  intro hopen
  cases call with
  | openSession entry filter layer priority flags => exact h.elim id id
  | _ => cases hopen

theorem probe_of_gate {call : Call} (hopen : call.isOpen) (h : call.IsGate ∨ call.IsRequest) :
    call.IsProbe := by
  cases call with
  | openSession entry filter layer priority flags =>
    rcases h with (h | h | h | h) | h
    · exact absurd h id
    · cases h
    · cases h
    · exact h
    · exact absurd h id
  | _ => cases hopen

/-- An event of two parts is in the first, or comes after it. -/
theorem mem_of_split {gate more before rest : List Event} {event : Event}
    (h : gate ++ more = before ++ event :: rest) :
    event ∈ gate ∨ ∃ mid, before = gate ++ mid ∧ event ∈ more := by
  rcases List.append_eq_append_iff.mp h with ⟨mid, hbefore, hmore⟩ | ⟨mid, hgate, hrest⟩
  · refine .inr ⟨mid, hbefore, ?_⟩
    rw [hmore]
    exact List.mem_append_right mid List.mem_cons_self
  · cases mid with
    | nil =>
      refine .inr ⟨[], by simpa using hgate.symm, ?_⟩
      rw [List.nil_append] at hrest
      rw [← hrest]
      exact List.mem_cons_self
    | cons first mid =>
      obtain ⟨rfl, -⟩ := List.cons.inj hrest
      rw [hgate]
      exact .inl (List.mem_append_right before List.mem_cons_self)

section Uses

variable {e : Entry} {a : Action} {events : List Event}

/-- The calls after the gate are upkeep, requests, the probe and the caller's open. -/
theorem call_of_uses (uses : a.Uses e events) {event : Event} (he : event ∈ events) :
    event.call.IsUpkeep ∨ event.call.IsRequest ∨ event.call.IsProbe
      ∨ a.Opens e event.call := by
  cases uses with
  | enter => cases he
  | version run =>
    rcases e.probeVersion_composed.call_mem run he with (upkeep | probe) | request
    · exact .inl upkeep
    · exact .inr (.inr (.inl probe))
    · exact .inr (.inl request)
  | openSession text run =>
    rcases (Session.openWith_composed _ _ _ _ _).call_mem run he with (upkeep | heq) | request
    · exact .inl upkeep
    · exact .inr (.inr (.inr ⟨_, text, heq⟩))
    · exact .inr (.inl request)

theorem ne_gate_of_uses (uses : a.Uses e events) {event : Event} (he : event ∈ events) :
    event.call ≠ .queryEmulation ∧ event.call ≠ .loadEntry := by
  have hcall := call_of_uses uses he
  constructor
  · intro heq
    rw [heq] at hcall
    rcases hcall with h | h | h | h
    · exact h
    · exact h
    · exact h
    · cases a <;> simp [Action.Opens] at h
  · intro heq
    rw [heq] at hcall
    rcases hcall with h | h | h | h
    · exact h
    · exact h
    · exact h
    · cases a <;> simp [Action.Opens] at h

/-- An action with its entry does not begin as the gate does. -/
theorem not_gate_of_uses (uses : a.Uses e events) {gate rest : List Event}
    {verdict : Outcome Rejection Entry} (heq : events = gate ++ rest)
    (run : Runs Driver.check gate verdict) : False := by
  obtain ⟨reply, tail, rfl⟩ := Driver.check_starts run
  have hmem : (⟨.queryEmulation, reply⟩ : Event) ∈ events := by
    rw [heq]
    exact List.mem_cons_self
  exact (ne_gate_of_uses uses hmem).1 rfl

theorem opens_of_upkeep {α : Type} {p : Program α} (hp : p.Composed Call.IsUpkeep) {value : α}
    (run : Runs p events value) : opens events = [] := by
  refine List.filter_eq_nil_iff.mpr fun call hcall => ?_
  obtain ⟨event, he, rfl⟩ := List.mem_map.mp hcall
  exact not_open_of_upkeep (hp.call_mem run he)

theorem opens_of_uses {slot : Nat} {filter : String} {layer : Layer} {priority : Int}
    {flags : Flags} (uses : Action.Uses e (.openSession slot filter layer priority flags) events) :
    ∃ call, Action.Opens e call (.openSession slot filter layer priority flags)
      ∧ opens events = [call] := by
  cases uses with
  | @openSession slot filter layer priority flags parsed events r text run =>
    obtain ⟨next, heq, hnext⟩ := Session.openWith_eq e parsed layer priority flags
    rw [heq] at run
    obtain ⟨reply, rest, rfl, later⟩ := runs_ask_bind_iff.mp run
    have hrest : opens rest = [] := opens_of_upkeep (hnext reply) later
    refine ⟨_, ⟨parsed, text, rfl⟩, ?_⟩
    exact congrArg _ hrest

end Uses

/-! ### Every deed -/

section Passage

variable {c next : Client} {a : Action} {events : List Event} {outcome : Outcome Failure Answer}
  (passage : c.Passage a events outcome next)
include passage

theorem kept_of_passage {e : Entry} (held : c.driver.entry = some e) :
    next.driver.entry = some e := by
  cases passage with
  | through reaches entered uses =>
    rcases entered.ok_cases with ⟨cell, -, hdriver⟩ | ⟨cell, -, -⟩
    · rw [hdriver]
      exact held
    · cases cell.symm.trans held
  | away reaches entered =>
    obtain ⟨cell, -, -⟩ := entered.error_cases
    cases cell.symm.trans held
  | aside apart same quiet calls =>
    rw [same]
    exact held

theorem cell_of_passage (e : Entry) :
    next.driver.entry = some e ↔ c.driver.entry = some e ∨ Accepts a events e := by
  constructor
  · intro held
    cases passage with
    | through reaches entered uses =>
      rcases entered.ok_cases with ⟨cell, -, hdriver⟩ | ⟨cell, run, hdriver⟩
      · rw [hdriver] at held
        exact .inl held
      · rw [hdriver] at held
        cases held
        exact .inr ⟨reaches.enters, _, _, rfl, run⟩
    | away reaches entered =>
      obtain ⟨cell, hdriver, -⟩ := entered.error_cases
      rw [hdriver] at held
      exact .inl held
    | aside apart same quiet calls =>
      rw [same] at held
      exact .inl held
  · intro h
    rcases h with held | ⟨enters, gate', rest', heq, run'⟩
    · exact kept_of_passage passage held
    · cases passage with
      | through reaches entered uses =>
        rcases entered.ok_cases with ⟨cell, rfl, hdriver⟩ | ⟨cell, run, hdriver⟩
        · exact absurd run' fun run' => not_gate_of_uses uses heq run'
        · -- Two runs of the gate that begin the same events are one run.
          obtain ⟨-, hverdict⟩ := run.unique run' heq
          cases hverdict
          rw [hdriver]
      | away reaches entered =>
        obtain ⟨-, -, ⟨reason, -, run⟩ | run⟩ := entered.error_cases
        · obtain ⟨-, hverdict⟩ := run.unique run' ((List.append_nil _).trans heq)
          cases hverdict
        · obtain ⟨-, hverdict⟩ := run.unique run' ((List.append_nil _).trans heq)
          cases hverdict
      | aside apart same quiet calls =>
        obtain ⟨reply, tail, rfl⟩ := Driver.check_starts run'
        rw [quiet enters] at heq
        cases heq

theorem probe_of_passage {before rest : List Event} {event : Event}
    (hsplit : events = before ++ event :: rest) (hopen : event.call.isOpen) :
    event.call.IsProbe ∨ ∃ e, c.HoldsAfter a before e ∧ a.Opens e event.call := by
  have hmem : event ∈ events := by
    rw [hsplit]
    exact List.mem_append_right before List.mem_cons_self
  cases passage with
  | through reaches entered uses =>
    rcases mem_of_split hsplit with hgate | ⟨mid, rfl, hmore⟩
    · rcases entered.ok_cases with ⟨-, rfl, -⟩ | ⟨-, run, -⟩
      · cases hgate
      · exact .inl (probe_of_gate hopen (Driver.check_composed.call_mem run hgate))
    · rcases call_of_uses uses hmore with h | h | h | h
      · exact absurd hopen (not_open_of_upkeep (.inl h))
      · exact absurd hopen (not_open_of_upkeep (.inr h))
      · exact .inl h
      · refine .inr ⟨_, ?_, h⟩
        rcases entered.ok_cases with ⟨cell, -, -⟩ | ⟨cell, run, -⟩
        · exact .inl cell
        · exact .inr ⟨cell, reaches.enters, _, mid, rfl, run⟩
  | away reaches entered =>
    obtain ⟨-, -, ⟨reason, -, run⟩ | run⟩ := entered.error_cases
    · exact .inl (probe_of_gate hopen (Driver.check_composed.call_mem run hmem))
    · exact .inl (probe_of_gate hopen (Driver.check_composed.call_mem run hmem))
  | aside apart same quiet calls => exact .inl (probe_of_gate hopen (calls event hmem))

theorem cached_of_passage {e : Entry} (held : c.driver.entry = some e) (enters : a.Enters)
    {event : Event} (he : event ∈ events) :
    event.call ≠ .queryEmulation ∧ event.call ≠ .loadEntry := by
  cases passage with
  | through reaches entered uses =>
    rcases entered.ok_cases with ⟨-, rfl, -⟩ | ⟨cell, -, -⟩
    · exact ne_gate_of_uses uses he
    · cases cell.symm.trans held
  | away reaches entered =>
    obtain ⟨cell, -, -⟩ := entered.error_cases
    cases cell.symm.trans held
  | aside apart same quiet calls =>
    rw [quiet enters] at he
    cases he

theorem once_of_passage {e : Entry} {slot : Nat} {filter : String} {layer : Layer}
    {priority : Int} {flags : Flags} (held : c.driver.entry = some e)
    (ha : a = .openSession slot filter layer priority flags) (reaches : c.Reaches a) :
    ∃ call, a.Opens e call ∧ opens events = [call] := by
  subst ha
  cases passage with
  | through reaches entered uses =>
    rcases entered.ok_cases with ⟨cell, rfl, -⟩ | ⟨cell, -, -⟩
    · cases cell.symm.trans held
      exact opens_of_uses uses
    · cases cell.symm.trans held
  | away reaches entered =>
    obtain ⟨cell, -, -⟩ := entered.error_cases
    cases cell.symm.trans held
  | aside apart same quiet calls => exact absurd reaches apart

theorem again_of_passage (empty : c.driver.entry = none) (reaches : c.Reaches a) :
    ∃ gate rest verdict, events = gate ++ rest ∧ Runs Driver.check gate verdict
      ∧ (∃ reply tail, gate = ⟨.queryEmulation, reply⟩ :: tail)
      ∧ match verdict with
        | .ok e => next.driver.entry = some e
        | .error reason =>
          rest = [] ∧ outcome = .unwound (.rejected reason) ∧ next.driver.entry = none
        | .unwound why => rest = [] ∧ outcome = .unwound why ∧ next.driver.entry = none := by
  cases passage with
  | through _ entered uses =>
    rcases entered.ok_cases with ⟨cell, -, -⟩ | ⟨-, run, hdriver⟩
    · cases empty.symm.trans cell
    · exact ⟨_, _, _, rfl, run, Driver.check_starts run, by rw [hdriver]⟩
  | away _ entered =>
    obtain ⟨cell, hdriver, ⟨reason, rfl, run⟩ | run⟩ := entered.error_cases
    · exact ⟨_, [], _, (List.append_nil _).symm, run, Driver.check_starts run, rfl, rfl,
        by rw [hdriver]; exact cell⟩
    · exact ⟨_, [], _, (List.append_nil _).symm, run, Driver.check_starts run, rfl, rfl,
        by rw [hdriver]; exact cell⟩
  | aside apart same quiet calls => exact absurd reaches apart

theorem refused_of_passage (enters : a.Enters) (apart : ¬ c.Reaches a) :
    events = [] ∧ next.driver = c.driver := by
  cases passage with
  | through reaches entered uses => exact absurd reaches apart
  | away reaches entered => exact absurd reaches apart
  | aside _ same quiet calls => exact ⟨quiet enters, same⟩

end Passage

theorem Deed.Done.guarded {d : Deed} (run : d.Done) : d.Guarded where
  kept _ held := kept_of_passage (passage run) held
  probes _ _ _ hsplit hopen := probe_of_passage (passage run) hsplit hopen
  cached _ held enters _ he := cached_of_passage (passage run) held enters he
  once _ _ _ _ _ _ held ha reaches := once_of_passage (passage run) held ha reaches
  again empty reaches := again_of_passage (passage run) empty reaches
  refused enters apart := refused_of_passage (passage run) enters apart

/-! ### Every history -/

theorem cell_of_path {c last : Client} {deeds : List Deed} (path : Path c deeds last) (e : Entry) :
    last.driver.entry = some e ↔
      c.driver.entry = some e ∨ ∃ d ∈ deeds, Accepts d.action d.events e := by
  induction path with
  | nil c => simp
  | cons start run rest ih =>
    rw [← start, ih, cell_of_passage (passage run) e, or_assoc]
    simp only [List.mem_cons, exists_eq_or_imp]

/-- Over every history from the start the cell holds an entry exactly when an action has run the
gate to acceptance with it, and each deed is guarded. -/
theorem gate_over_history {deeds : List Deed} {c : Client} (path : Path {} deeds c) :
    (∀ e, c.driver.entry = some e ↔ ∃ d ∈ deeds, Accepts d.action d.events e)
      ∧ ∀ d ∈ deeds, d.Guarded := by
  constructor
  · intro e
    have empty : ({} : Client).driver.entry ≠ some e := by simp
    rw [cell_of_path path, or_iff_right empty]
  · intro d hd
    exact (path.done_of_mem hd).guarded

def entering : Deed := .onHost Scripted.host {} {} .enter

def opening : Deed :=
  .onHost Scripted.host {} entering.after (.openSession 0 "tcp" .network 7 .none)

theorem entering_opening_guarded :
    Path {} [entering, opening] opening.after
      ∧ opening.after.driver.entry = some ⟨0⟩
      ∧ (∃ d ∈ [entering, opening], Accepts d.action d.events ⟨0⟩)
      ∧ ∀ d ∈ [entering, opening], d.Guarded := by
  have path : Path {} [entering, opening] opening.after :=
    .cons rfl (Deed.done_onHost _ _ _ _) (.cons rfl (Deed.done_onHost _ _ _ _) (.nil _))
  have cell : opening.after.driver.entry = some ⟨0⟩ := by decide +kernel
  obtain ⟨hcell, hguarded⟩ := gate_over_history path
  exact ⟨path, cell, (hcell ⟨0⟩).mp cell, hguarded⟩

/-! An open is refused for its arguments before the gate, even after a rejection. -/

def turnedDown : Deed :=
  .onHost Scripted.host { emulated := .ok true } {} (.openSession 0 "true" .network 0 .none)

/-- The next open has a priority out of range. -/
def outOfRange : Deed :=
  .onHost Scripted.host { emulated := .ok true } turnedDown.after
    (.openSession 0 "true" .network 30001 .none)

theorem outOfRange_runs_no_gate :
    Path {} [turnedDown, outOfRange] outOfRange.after
      ∧ turnedDown.outcome = .unwound (.rejected .emulated)
      ∧ outOfRange.before.driver.entry = none ∧ outOfRange.action.Enters
      ∧ ¬ ∃ gate rest verdict, outOfRange.events = gate ++ rest
        ∧ Runs Driver.check gate verdict := by
  have path : Path {} [turnedDown, outOfRange] outOfRange.after :=
    .cons rfl (Deed.done_onHost _ _ _ _) (.cons rfl (Deed.done_onHost _ _ _ _) (.nil _))
  refine ⟨path, rfl, rfl, trivial, ?_⟩
  intro h
  obtain ⟨gate, rest, verdict, heq, run⟩ := h
  obtain ⟨reply, tail, rfl⟩ := Driver.check_starts run
  have none : outOfRange.events = [] := rfl
  rw [none] at heq
  cases heq

end Client

end PacketDiversion
