import PacketDiversion.Proofs.History
import PacketDiversion.Proofs.Usage

/-!
# Deeds at the gate

What a single action can do to the cell in which a driver's entry is remembered. Entering, asking
for the version and opening a session reach the gate; they begin with what the cell holds, or with a
run of the whole gate (`Driver.Entered`), and go on only when that yields an entry. Every other
action leaves the cell alone and opens nothing but probes (`Client.passage`).
-/

namespace PacketDiversion

open Program

/-! ### How a driver is entered -/

/-- How a driver is entered: from the cell, or through the gate. -/
inductive Driver.Entered (d : Driver) : List Event → Except Panic Entry → Driver → Prop
  | remembered {e : Entry} (cell : d.entry = some e) : Entered d [] (.ok e) d
  | accepted {e : Entry} {gate : List Event} (cell : d.entry = none)
      (run : Runs check gate (.ok e)) : Entered d gate (.ok e) ⟨some e⟩
  | rejected {reason : Rejection} {gate : List Event} (cell : d.entry = none)
      (run : Runs check gate (.error reason)) : Entered d gate (.error (.rejected reason)) d
  | unwound {why : Panic} {gate : List Event} (cell : d.entry = none)
      (run : Runs check gate (.unwound why)) : Entered d gate (.error why) d

theorem Driver.entered_of_runs {d d' : Driver} {events : List Event} {r : Except Panic Entry}
    (run : Runs d.enter events (r, d')) : d.Entered events r d' := by
  unfold Driver.enter at run
  cases cell : d.entry with
  | some e =>
    simp only [cell] at run
    obtain ⟨rfl, rfl, rfl⟩ := runs_pair_iff.mp run
    exact .remembered cell
  | none =>
    simp only [cell] at run
    obtain ⟨verdict, gate, tail, rfl, hgate, run⟩ := runs_bind_iff.mp run
    cases verdict with
    | ok e =>
      obtain ⟨rfl, rfl, rfl⟩ := runs_pair_iff.mp run
      rw [List.append_nil]
      exact .accepted cell hgate
    | unwound why =>
      obtain ⟨rfl, rfl, rfl⟩ := runs_pair_iff.mp run
      rw [List.append_nil]
      exact .unwound cell hgate
    | error reason =>
      obtain ⟨rfl, rfl, rfl⟩ := runs_pair_iff.mp (runs_report_bind_iff.mp run)
      rw [List.append_nil]
      exact .rejected cell hgate

theorem Driver.Entered.ok_cases {d d' : Driver} {gate : List Event} {e : Entry}
    (entered : d.Entered gate (.ok e) d') :
    d.entry = some e ∧ gate = [] ∧ d' = d
      ∨ d.entry = none ∧ Runs check gate (.ok e) ∧ d' = ⟨some e⟩ := by
  cases entered with
  | remembered cell => exact .inl ⟨cell, rfl, rfl⟩
  | accepted cell run => exact .inr ⟨cell, run, rfl⟩

theorem Driver.Entered.error_cases {d d' : Driver} {gate : List Event} {why : Panic}
    (entered : d.Entered gate (.error why) d') :
    d.entry = none ∧ d' = d
      ∧ ((∃ reason, why = .rejected reason ∧ Runs check gate (.error reason))
        ∨ Runs check gate (.unwound why)) := by
  cases entered with
  | rejected cell run => exact ⟨cell, rfl, .inl ⟨_, rfl, run⟩⟩
  | unwound cell run => exact ⟨cell, rfl, .inr run⟩

/-- How a driver opens a session: the priority and the filter are checked before it is entered. -/
inductive Driver.Opening (d : Driver) (filter : String) (layer : Layer) (priority : Int)
    (flags : Flags) : List Event → Outcome SessionError Session → Driver → Prop
  | refused {r : Outcome SessionError Session} {d' : Driver}
      (apart : ¬ (Priority.Valid priority ∧ '\x00' ∉ filter.toList)) (same : d' = d) :
      Opening d filter layer priority flags [] r d'
  | away {gate : List Event} {why : Panic} {d' : Driver}
      (valid : Priority.Valid priority ∧ '\x00' ∉ filter.toList)
      (entered : d.Entered gate (.error why) d') :
      Opening d filter layer priority flags gate (.unwound why) d'
  | through {gate events : List Event} {e : Entry} {d' : Driver} {parsed : Filter}
      {opened : Except SessionError Session} {r : Outcome SessionError Session}
      (valid : Priority.Valid priority ∧ '\x00' ∉ filter.toList)
      (entered : d.Entered gate (.ok e) d') (text : parsed.text = filter)
      (own : Runs (Session.openWith e parsed layer priority flags) events opened) :
      Opening d filter layer priority flags (gate ++ events) r d'

theorem Driver.opening_of_runs {d d' : Driver} {filter : String} {layer : Layer} {priority : Int}
    {flags : Flags} {events : List Event} {r : Outcome SessionError Session}
    (run : Runs (d.openSession filter layer priority flags) events (r, d')) :
    d.Opening filter layer priority flags events r d' := by
  unfold Driver.openSession Priority.check Filter.parse at run
  by_cases hpriority : Priority.Valid priority
  · by_cases hnul : '\x00' ∈ filter.toList
    · simp only [if_pos hpriority, dif_pos hnul] at run
      obtain ⟨rfl, rfl, rfl⟩ := runs_pair_iff.mp run
      exact .refused (fun valid => valid.2 hnul) rfl
    · simp only [if_pos hpriority, dif_neg hnul] at run
      obtain ⟨⟨entered, driver⟩, gate, rest, rfl, hgate, run⟩ := runs_bind_iff.mp run
      have how := Driver.entered_of_runs hgate
      cases entered with
      | ok e =>
        obtain ⟨opened, own, rest, rfl, hown, run⟩ := runs_bind_iff.mp run
        obtain ⟨rfl, rfl, rfl⟩ := runs_pair_iff.mp run
        rw [List.append_nil]
        exact .through ⟨hpriority, hnul⟩ how rfl hown
      | error why =>
        obtain ⟨rfl, rfl, rfl⟩ := runs_pair_iff.mp run
        rw [List.append_nil]
        exact .away ⟨hpriority, hnul⟩ how
  · simp only [if_neg hpriority] at run
    obtain ⟨rfl, rfl, rfl⟩ := runs_pair_iff.mp run
    exact .refused (fun valid => hpriority valid.1) rfl

/-- The gate begins by asking about emulation. -/
theorem Driver.check_starts {gate : List Event} {verdict : Outcome Rejection Entry}
    (run : Runs check gate verdict) : ∃ reply rest, gate = ⟨.queryEmulation, reply⟩ :: rest := by
  obtain ⟨reply, rest, heq, -⟩ := runs_ask_bind_iff.mp run
  exact ⟨reply, rest, heq⟩

/-! ### Actions that reach the gate -/

/-- An action that comes as far as asking for the driver's entry: an open does not with a slot that
is taken, with a priority out of range or with a NUL in the filter. -/
def Client.Reaches (c : Client) : Action → Prop
  | .enter | .driverVersion => True
  | .openSession slot filter _ priority _ =>
    c.sessions.get? slot = none ∧ Priority.Valid priority ∧ '\x00' ∉ filter.toList
  | _ => False

theorem Client.Reaches.enters {c : Client} {a : Action} (reaches : c.Reaches a) : a.Enters := by
  cases a <;> first | exact trivial | exact reaches

/-- What an action does with the entry that it asked for. -/
inductive Action.Uses (e : Entry) : Action → List Event → Prop
  | enter : Uses e .enter []
  | version {events : List Event} {r : Outcome SessionError Version}
      (run : Runs e.probeVersion events r) : Uses e .driverVersion events
  | openSession {slot : Nat} {filter : String} {layer : Layer} {priority : Int} {flags : Flags}
      {parsed : Filter} {events : List Event} {r : Except SessionError Session}
      (text : parsed.text = filter)
      (run : Runs (Session.openWith e parsed layer priority flags) events r) :
      Uses e (.openSession slot filter layer priority flags) events

namespace Client

/-! ### Every action -/

/-- What an action can do at the gate. -/
inductive Passage (c : Client) (a : Action) :
    List Event → Outcome Failure Answer → Client → Prop
  /-- It asks for the entry and goes on with it. -/
  | through {gate events : List Event} {e : Entry} {outcome : Outcome Failure Answer}
      {next : Client} (reaches : c.Reaches a) (entered : c.driver.Entered gate (.ok e) next.driver)
      (uses : a.Uses e events) : Passage c a (gate ++ events) outcome next
  /-- It asks for the entry and is turned away. -/
  | away {gate : List Event} {why : Panic} {next : Client} (reaches : c.Reaches a)
      (entered : c.driver.Entered gate (.error why) next.driver) :
      Passage c a gate (.unwound why) next
  /-- It does not ask. -/
  | aside {events : List Event} {outcome : Outcome Failure Answer} {next : Client}
      (apart : ¬ c.Reaches a) (same : next.driver = c.driver) (quiet : a.Enters → events = [])
      (calls : ∀ e ∈ events, e.call.IsGate ∨ e.call.IsRequest) : Passage c a events outcome next

variable {c next : Client} {a : Action} {events : List Event} {outcome : Outcome Failure Answer}

theorem passage_of_refused (apart : ¬ c.Reaches a) (same : next.driver = c.driver) :
    c.Passage a [] outcome next := .aside apart same (fun _ => rfl) (fun _ he => by cases he)

theorem passage_enter (run : Runs (c.step .enter) events (outcome, next)) :
    c.Passage .enter events outcome next := by
  obtain ⟨⟨entered, driver⟩, gate, rest, rfl, hgate, run⟩ := runs_bind_iff.mp run
  have how := Driver.entered_of_runs hgate
  cases entered with
  | ok e =>
    obtain ⟨rfl, rfl, rfl⟩ := runs_pair_iff.mp run
    exact .through trivial how .enter
  | error why =>
    obtain ⟨rfl, rfl, rfl⟩ := runs_pair_iff.mp run
    rw [List.append_nil]
    exact .away trivial how

theorem passage_version (run : Runs (c.step .driverVersion) events (outcome, next)) :
    c.Passage .driverVersion events outcome next := by
  obtain ⟨⟨version, driver⟩, before, rest, rfl, hversion, run⟩ := runs_bind_iff.mp run
  obtain ⟨rfl, rfl, rfl⟩ := runs_pair_iff.mp run
  rw [List.append_nil]
  obtain ⟨⟨entered, driver'⟩, gate, rest, rfl, hgate, run⟩ := runs_bind_iff.mp hversion
  have how := Driver.entered_of_runs hgate
  cases entered with
  | ok e =>
    obtain ⟨r, probe, rest, rfl, hprobe, run⟩ := runs_bind_iff.mp run
    obtain ⟨rfl, rfl, rfl⟩ := runs_pair_iff.mp run
    rw [List.append_nil]
    exact .through trivial how (.version hprobe)
  | error why =>
    obtain ⟨rfl, rfl, rfl⟩ := runs_pair_iff.mp run
    rw [List.append_nil]
    exact .away trivial how

section OpenSession

variable {slot : Nat} {filter : String} {layer : Layer} {priority : Int} {flags : Flags}

theorem openSession_of_free (hslot : c.sessions.get? slot = none)
    (run : Runs (c.step (.openSession slot filter layer priority flags)) events (outcome, next)) :
    ∃ opened, Runs (c.driver.openSession filter layer priority flags) events (opened, next.driver)
      ∧ ∀ why, opened = .unwound why → outcome = .unwound why := by
  change Runs (c.openSession slot filter layer priority flags) events (outcome, next) at run
  unfold openSession at run
  simp only [hslot] at run
  obtain ⟨⟨opened, driver⟩, before, rest, rfl, hopen, run⟩ := runs_bind_iff.mp run
  -- Whatever the open came to, nothing is called after it, and the driver is kept.
  cases opened with
  | ok s =>
    obtain ⟨rfl, rfl, rfl⟩ := runs_pair_iff.mp run
    rw [List.append_nil]
    exact ⟨_, hopen, fun why h => by cases h⟩
  | error e =>
    obtain ⟨rfl, rfl, rfl⟩ := runs_pair_iff.mp run
    rw [List.append_nil]
    exact ⟨_, hopen, fun why h => by cases h⟩
  | unwound why =>
    obtain ⟨rfl, rfl, rfl⟩ := runs_pair_iff.mp run
    rw [List.append_nil]
    exact ⟨_, hopen, fun why' h => by cases h; rfl⟩

theorem passage_openSession
    (run : Runs (c.step (.openSession slot filter layer priority flags)) events (outcome, next)) :
    c.Passage (.openSession slot filter layer priority flags) events outcome next := by
  cases hslot : c.sessions.get? slot with
  | some taken =>
    change Runs (c.openSession slot filter layer priority flags) events (outcome, next) at run
    unfold openSession at run
    simp only [hslot] at run
    obtain ⟨rfl, rfl, rfl⟩ := runs_pair_iff.mp run
    refine passage_of_refused (fun reaches => ?_) rfl
    cases hslot.symm.trans reaches.1
  | none =>
    obtain ⟨opened, hopen, hunwound⟩ := openSession_of_free hslot run
    cases Driver.opening_of_runs hopen with
    | refused apart same => exact passage_of_refused (fun reaches => apart reaches.2) same
    | away valid entered =>
      rw [hunwound _ rfl]
      exact .away ⟨hslot, valid⟩ entered
    | through valid entered text own =>
      exact .through ⟨hslot, valid⟩ entered (.openSession text own)

end OpenSession

/-- There are no other ways. -/
theorem passage (run : Runs (c.step a) events (outcome, next)) :
    c.Passage a events outcome next := by
  by_cases enters : a.Enters
  · cases a with
    | enter => exact passage_enter run
    | driverVersion => exact passage_version run
    | openSession slot filter layer priority flags => exact passage_openSession run
    | _ => exact absurd enters id
  · have aside : c.Aside (c.step a) := aside_step enters
    exact .aside (fun reaches => enters reaches.enters) (aside.driver_eq run)
      (fun h => absurd h enters) fun e he => aside.composed.call_mem run he

end Client

end PacketDiversion
