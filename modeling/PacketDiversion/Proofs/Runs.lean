import PacketDiversion.Program

/-!
# How runs are put together

A run of two programs in sequence is a run of the first followed by a run of the second
(`runs_bind_iff`), and on a host the second starts from the state that the first has left
(`run_bind`). The other lemmas say the same of a single call and of a notice.
-/

namespace PacketDiversion.Program

variable {α β σ : Type}

/-! ### Event sequences -/

@[simp] theorem runs_done_iff {value result : α} {events : List Event} :
    Runs (done value) events result ↔ events = [] ∧ result = value := by
  constructor
  · intro h
    cases h
    exact ⟨rfl, rfl⟩
  · intro h
    obtain ⟨rfl, rfl⟩ := h
    exact .done _

/-- The same, of a value that comes with a state. -/
theorem runs_pair_iff {value result : α} {state last : σ} {events : List Event} :
    Runs (pure (value, state)) events (result, last) ↔
      events = [] ∧ result = value ∧ last = state := by
  rw [pure_eq, runs_done_iff, Prod.mk.injEq]

@[simp] theorem runs_call_iff {c : Call} {next : c.Reply → Program α} {events : List Event}
    {result : α} :
    Runs (call c next) events result ↔
      ∃ reply rest, events = ⟨c, reply⟩ :: rest ∧ Runs (next reply) rest result := by
  constructor
  · intro h
    cases h with
    | call reply rest => exact ⟨reply, _, rfl, rest⟩
  · intro h
    obtain ⟨reply, rest, rfl, h⟩ := h
    exact .call reply h

@[simp] theorem runs_note_iff {n : Notice} {p : Program α} {events : List Event} {result : α} :
    Runs (note n p) events result ↔ Runs p events result := by
  constructor
  · intro h
    cases h with
    | note h => exact h
  · exact .note

@[simp] theorem runs_ask_bind_iff {c : Call} {f : c.Reply → Program α} {events : List Event}
    {result : α} :
    Runs (ask c >>= f) events result ↔
      ∃ reply rest, events = ⟨c, reply⟩ :: rest ∧ Runs (f reply) rest result :=
  runs_call_iff

@[simp] theorem runs_report_bind_iff {n : Notice} {f : Unit → Program α} {events : List Event}
    {result : α} : Runs (report n >>= f) events result ↔ Runs (f ()) events result :=
  runs_note_iff

theorem runs_bind_iff {p : Program α} {f : α → Program β} {events : List Event} {result : β} :
    Runs (p >>= f) events result ↔
      ∃ value before after,
        events = before ++ after ∧ Runs p before value ∧ Runs (f value) after result := by
  induction p generalizing events with
  | done value =>
    constructor
    · intro h
      exact ⟨value, [], events, rfl, .done _, h⟩
    · intro h
      obtain ⟨_, _, after, rfl, h, hf⟩ := h
      obtain ⟨rfl, rfl⟩ := runs_done_iff.mp h
      exact hf
  | call c next ih =>
    simp only [call_bind, runs_call_iff, ih]
    constructor
    · intro h
      obtain ⟨reply, _, rfl, value, before, after, rfl, hp, hf⟩ := h
      exact ⟨value, ⟨c, reply⟩ :: before, after, rfl, ⟨reply, before, rfl, hp⟩, hf⟩
    · intro h
      obtain ⟨value, _, after, rfl, ⟨reply, before, rfl, hp⟩, hf⟩ := h
      exact ⟨reply, before ++ after, rfl, value, before, after, rfl, hp, hf⟩
  | note n rest ih => simp only [note_bind, runs_note_iff, ih]

/-- A run of two programs in sequence, from its two parts. -/
theorem Runs.bind {p : Program α} {f : α → Program β} {before after : List Event} {value : α}
    {result : β} (hp : Runs p before value) (hf : Runs (f value) after result) :
    Runs (p >>= f) (before ++ after) result :=
  runs_bind_iff.mpr ⟨value, before, after, rfl, hp, hf⟩

/-- What is made of a value when the program has ended takes no event. -/
theorem runs_map_iff {p : Program α} {f : α → β} {events : List Event} {result : β} :
    Runs (p >>= fun value => pure (f value)) events result ↔
      ∃ value, Runs p events value ∧ result = f value := by
  constructor
  · intro run
    obtain ⟨value, before, after, rfl, hp, run⟩ := runs_bind_iff.mp run
    obtain ⟨rfl, rfl⟩ := runs_done_iff.mp run
    rw [List.append_nil]
    exact ⟨value, hp, rfl⟩
  · intro h
    obtain ⟨value, hp, rfl⟩ := h
    rw [← List.append_nil events]
    exact hp.bind (.done _)

/-- A program cannot tell what comes after its own events: of two of its runs that begin one
sequence, neither goes on when the other has ended. -/
theorem Runs.unique {p : Program α} {events events' rest rest' : List Event} {value value' : α}
    (run : Runs p events value) (run' : Runs p events' value')
    (heq : events ++ rest = events' ++ rest') : events = events' ∧ value = value' := by
  induction run generalizing events' with
  | done value =>
    obtain ⟨rfl, rfl⟩ := runs_done_iff.mp run'
    exact ⟨rfl, rfl⟩
  | call reply later ih =>
    obtain ⟨reply', events', rfl, later'⟩ := runs_call_iff.mp run'
    obtain ⟨hevent, htail⟩ := List.cons.inj heq
    cases hevent
    obtain ⟨rfl, rfl⟩ := ih later' htail
    exact ⟨rfl, rfl⟩
  | note later ih => exact ih (runs_note_iff.mp run') heq

/-! ### Runs on a host -/

/-- On a host a run of two programs is a run of the first, and then of the second from the state
that the first has left. -/
theorem run_bind (host : Host σ) (p : Program α) (f : α → Program β) (s : σ) :
    (p >>= f).run host s
      = let first := p.run host s
        let rest := (f first.value).run host first.state
        ⟨rest.value, rest.state, first.events ++ rest.events, first.notices ++ rest.notices⟩ := by
  induction p generalizing s with
  | done value => rfl
  | call c next ih => simp only [call_bind, run, ih, List.cons_append]
  | note n rest ih => simp only [note_bind, run, ih, List.cons_append]

/-- On a host, from `s`, the program ends with a value and a state after some events. -/
structure Ran (host : Host σ) (p : Program α) (s : σ) (value : α) (state : σ)
    (events : List Event) : Prop where
  value_eq : (p.run host s).value = value
  state_eq : (p.run host s).state = state
  events_eq : (p.run host s).events = events

section Ran

variable {host : Host σ} {p : Program α} {f : α → Program β} {s s' : σ} {value : α} {result : β}
  {events : List Event}

theorem ran_run (host : Host σ) (p : Program α) (s : σ) :
    Ran host p s (p.run host s).value (p.run host s).state (p.run host s).events :=
  ⟨rfl, rfl, rfl⟩

theorem ran_done (host : Host σ) (value : α) (s : σ) : Ran host (done value) s value s [] :=
  ⟨rfl, rfl, rfl⟩

theorem Ran.unique {value' : α} {s'' : σ} {events' : List Event}
    (h : Ran host p s value s' events) (h' : Ran host p s value' s'' events') :
    value = value' ∧ s' = s'' ∧ events = events' :=
  ⟨h.value_eq.symm.trans h'.value_eq, h.state_eq.symm.trans h'.state_eq,
    h.events_eq.symm.trans h'.events_eq⟩

theorem ran_note_iff {n : Notice} :
    Ran host (note n p) s value s' events ↔ Ran host p s value s' events :=
  ⟨fun h => ⟨h.value_eq, h.state_eq, h.events_eq⟩, fun h => ⟨h.value_eq, h.state_eq, h.events_eq⟩⟩

theorem ran_call_iff {c : Call} {next : c.Reply → Program α} :
    Ran host (call c next) s value s' events ↔
      ∃ later, events = ⟨c, (host.answer c s).1⟩ :: later
        ∧ Ran host (next (host.answer c s).1) (host.answer c s).2 value s' later := by
  constructor
  · intro h
    exact ⟨_, h.events_eq.symm, h.value_eq, h.state_eq, rfl⟩
  · intro h
    obtain ⟨later, rfl, h⟩ := h
    exact ⟨h.value_eq, h.state_eq, congrArg _ h.events_eq⟩

theorem ran_bind_iff :
    Ran host (p >>= f) s result s' events ↔
      ∃ value mid before after, events = before ++ after ∧ Ran host p s value mid before
        ∧ Ran host (f value) mid result s' after := by
  constructor
  · intro h
    have hrun := run_bind host p f s
    refine ⟨_, _, _, _, ?_, ran_run host p s, ?_, ?_, rfl⟩
    · rw [← h.events_eq, hrun]
    · rw [← h.value_eq, hrun]
    · rw [← h.state_eq, hrun]
  · intro h
    obtain ⟨value, mid, before, after, rfl, ⟨rfl, rfl, rfl⟩, rfl, rfl, rfl⟩ := h
    constructor
    · rw [run_bind]
    · rw [run_bind]
    · rw [run_bind]

theorem Ran.ask_bind {c : Call} {next : c.Reply → Program α} {reply : c.Reply} {mid : σ}
    (answered : host.answer c s = (reply, mid)) (h : Ran host (next reply) mid value s' events) :
    Ran host (ask c >>= next) s value s' (⟨c, reply⟩ :: events) := by
  obtain ⟨rfl, rfl⟩ := Prod.ext_iff.mp answered
  exact ran_call_iff.mpr ⟨events, rfl, h⟩

theorem Ran.report_bind {n : Notice} {rest : Unit → Program α}
    (h : Ran host (rest ()) s value s' events) :
    Ran host (report n >>= rest) s value s' events := ran_note_iff.mpr h

theorem Ran.map (h : Ran host p s value s' events) (g : α → β) :
    Ran host (p >>= fun value => pure (g value)) s (g value) s' events :=
  ran_bind_iff.mpr ⟨value, s', events, [], (List.append_nil _).symm, h, ran_done _ _ _⟩

end Ran

end PacketDiversion.Program
