import PacketDiversion.Proofs.Exchange
import PacketDiversion.Session.Tuning

/-!
# Single requests

A request on a context of its own either gets no event, and then the driver never sees it, or is
one exchange on a fresh event that is released afterwards (`Single`). Reading a parameter and
setting one within its bounds are single requests, and their outcomes tell what the request came to.
-/

namespace PacketDiversion

open Program

/-- The calls that release an event: one, or none if it is the null handle. -/
inductive Freed (event : Handle) : List Event → Prop
  | absent (null : event = Handle.null) : Freed event []
  | released (live : event ≠ Handle.null) (answer : Except HostError Unit) :
    Freed event [⟨.closeHandle event, answer⟩]

inductive Single (handle : Handle) (request : Request) : List Event → Completion → Prop
  | noEvent (e : HostError) : Single handle request [⟨.createEvent, .error e⟩] ⟨.failed e, {}⟩
  | onEvent {event : Handle} {events freed : List Event} {done : Completion}
      (exchange : Exchange handle request (.withEvent event) events done)
      (hfreed : Freed event freed) :
    Single handle request (⟨.createEvent, .ok event⟩ :: (events ++ freed)) done

variable {handle : Handle} {request : Request} {events : List Event}

/-! ### The requests in the events -/

theorem exchangesAfter_freed {event : Handle} {freed : List Event} (h : Freed event freed)
    (taken : Option (Handle × Request × Written)) : exchangesAfter taken freed = [] := by
  cases h with
  | absent null => rfl
  | released live answer => rfl

theorem issued_freed {event : Handle} {freed : List Event} (h : Freed event freed) :
    issued freed = [] := by
  cases h with
  | absent null => rfl
  | released live answer => rfl

theorem Single.requests_cases {done : Completion} (single : Single handle request events done) :
    (∃ e, done = ⟨.failed e, {}⟩ ∧ exchanges events = [] ∧ issued events = [])
      ∨ exchanges events = [⟨handle, request, done⟩] ∧ issued events = [(handle, request)] := by
  cases single with
  | noEvent e => exact .inl ⟨e, rfl, rfl, rfl⟩
  | @onEvent event events freed done exchange hfreed =>
    have hexchanges : exchanges (events ++ freed) = [⟨handle, request, done⟩] := by
      rw [exchange.exchanges_append, exchanges, exchangesAfter_freed hfreed]
    have hissued : issued (events ++ freed) = [(handle, request)] := by
      rw [issued_append, exchange.issued_eq, issued_freed hfreed, List.append_nil]
    exact .inr ⟨hexchanges, hissued⟩

/-! ### Requests on contexts of their own -/

theorem Context.event_of_create {made : Except HostError Context}
    (run : Runs create events made) :
    ∃ reply : Except HostError Handle, events = [⟨.createEvent, reply⟩]
      ∧ made = reply.map fun event => ⟨.withEvent event⟩ := by
  unfold create at run
  rw [runs_ask_bind_iff] at run
  obtain ⟨reply, rest, rfl, run⟩ := run
  cases reply with
  | error e =>
    obtain ⟨rfl, rfl⟩ := runs_done_iff.mp run
    exact ⟨_, rfl, rfl⟩
  | ok event =>
    obtain ⟨rfl, rfl⟩ := runs_done_iff.mp run
    exact ⟨_, rfl, rfl⟩

theorem Context.freed_of_release {c rest : Context} {answer : Except HostError Unit}
    (run : Runs c.release events (answer, rest)) :
    Freed c.event events ∧ rest.event = Handle.null := by
  unfold release at run
  by_cases null : c.event = Handle.null
  · rw [if_pos null] at run
    obtain ⟨rfl, -, rfl⟩ := runs_pair_iff.mp run
    exact ⟨.absent null, rfl⟩
  · rw [if_neg null, runs_ask_bind_iff] at run
    obtain ⟨reply, later, rfl, run⟩ := run
    obtain ⟨rfl, -, rfl⟩ := runs_pair_iff.mp run
    exact ⟨.released null reply, rfl⟩

theorem Context.freed_of_drop {c : Context} (run : Runs c.drop events ()) :
    Freed c.event events := by
  obtain ⟨⟨answer, rest⟩, before, after, rfl, hrelease, run⟩ := runs_bind_iff.mp run
  have hafter : after = [] := by
    cases answer with
    | error e => exact (runs_done_iff.mp (runs_note_iff.mp run)).1
    | ok _ => exact (runs_done_iff.mp run).1
  rw [hafter, List.append_nil]
  exact (freed_of_release hrelease).1

theorem single_of_runs {m left : Memory} {verdict : Verdict}
    (run : Runs (Context.issueOnce handle request m) events (verdict, left)) :
    ∃ done, Single handle request events done ∧ verdict = done.verdict
      ∧ left = m.absorb done.written := by
  obtain ⟨made, first, rest, rfl, hcreate, run⟩ := runs_bind_iff.mp run
  obtain ⟨reply, rfl, rfl⟩ := Context.event_of_create hcreate
  cases reply with
  | error e =>
    obtain ⟨rfl, rfl, rfl⟩ := runs_pair_iff.mp run
    exact ⟨_, .noEvent e, rfl, (Memory.absorb_nothing _).symm⟩
  | ok event =>
    obtain ⟨ended, before, after, rfl, hissue, run⟩ := runs_bind_iff.mp run
    obtain ⟨done, exchange, rfl⟩ := exchange_of_runs hissue
    have hfreed : Freed event after ∧ verdict = done.verdict
        ∧ left = m.absorb done.written := by
      dsimp only at run
      split at run
      · rename_i hverdict
        obtain ⟨⟨⟩, freed, later, rfl, hdrop, run⟩ := runs_bind_iff.mp run
        obtain ⟨rfl, rfl, rfl⟩ := runs_pair_iff.mp run
        rw [List.append_nil]
        exact ⟨Context.freed_of_drop hdrop, hverdict.symm, rfl⟩
      · obtain ⟨⟨answer, gone⟩, freed, later, rfl, hrelease, run⟩ := runs_bind_iff.mp run
        obtain ⟨hfreed, hnull⟩ := Context.freed_of_release hrelease
        have hdrop : Runs (gone.drop >>= fun _ => pure (done.verdict, m.absorb done.written)) later
            (verdict, left) := by
          cases answer with
          | error e => exact runs_note_iff.mp run
          | ok _ => exact run
        -- the context is released by now, so that nothing is left to drop
        obtain ⟨⟨⟩, none, nothing, rfl, hgone, run⟩ := runs_bind_iff.mp hdrop
        obtain ⟨rfl, rfl, rfl⟩ := runs_pair_iff.mp run
        have hnone : none = [] := by
          cases Context.freed_of_drop hgone with
          | absent null => rfl
          | released live answer => exact absurd hnull live
        rw [hnone, List.append_nil, List.append_nil]
        exact ⟨hfreed, rfl, rfl⟩
    have single : Single handle request (⟨.createEvent, .ok event⟩ :: (before ++ after)) done :=
      .onEvent exchange hfreed.1
    exact ⟨done, single, hfreed.2⟩

theorem Context.runs_create (reply : Except HostError Handle) :
    Runs create [⟨.createEvent, reply⟩] (reply.map fun event => ⟨.withEvent event⟩) := by
  unfold create
  refine runs_ask_bind_iff.mpr ⟨reply, [], rfl, ?_⟩
  cases reply with
  | error e => exact .done _
  | ok event => exact .done _

theorem Context.runs_release_of_freed {c : Context} (freed : Freed c.event events) :
    ∃ answer, Runs c.release events (answer, c.withoutEvent) := by
  unfold release
  cases freed with
  | absent null =>
    rw [if_pos null]
    exact ⟨.ok (), .done _⟩
  | released live answer =>
    rw [if_neg live]
    exact ⟨answer, runs_ask_bind_iff.mpr ⟨answer, [], rfl, .done _⟩⟩

theorem Context.runs_drop_iff {c : Context} : Runs c.drop events () ↔ Freed c.event events := by
  constructor
  · exact freed_of_drop
  · intro freed
    obtain ⟨answer, released⟩ := runs_release_of_freed freed
    have hdrop : Runs c.drop (events ++ []) () := by
      refine released.bind ?_
      cases answer with
      | error e => exact .note (.done _)
      | ok _ => exact .done _
    rwa [List.append_nil] at hdrop

/-- Every single request is one that a context of its own may come to. -/
theorem runs_of_single {m : Memory} {done : Completion}
    (single : Single handle request events done) :
    Runs (Context.issueOnce handle request m) events
      (done.verdict, m.absorb done.written) := by
  cases single with
  | noEvent e =>
    refine (Context.runs_create (.error e)).bind ?_
    rw [Memory.absorb_nothing]
    exact .done _
  | @onEvent event events freed done exchange hfreed =>
    refine (Context.runs_create (.ok event)).bind ((runs_of_exchange exchange).bind ?_)
    have hown : Freed (Context.absorb (Context.prepare ⟨.withEvent event⟩) done.written).event
        freed := hfreed
    obtain ⟨answer, released⟩ := Context.runs_release_of_freed hown
    have dropped := Context.runs_drop_iff.mpr hown
    -- a context that is released has nothing left to drop
    have gone : Runs (Context.drop (Context.withoutEvent
        (Context.absorb (Context.prepare ⟨.withEvent event⟩) done.written))) [] () :=
      Context.runs_drop_iff.mpr (.absent rfl)
    rw [← List.append_nil freed]
    cases hverdict : done.verdict with
    | panicked => exact dropped.bind (.done _)
    | finished _ | failed _ =>
      refine released.bind ?_
      cases answer with
      | error e => exact .note (gone.bind (.done _))
      | ok _ => exact gone.bind (.done _)

/-! ### Sessions -/

/-- The request that stops a session's direction, or both. -/
def Request.stop (how : Direction) : Request where
  code := RequestCode.shutdown
  payload := .block (.shutdown how)
  outputLength := none

/-- The request that reads a parameter. -/
def Request.read (p : Parameter) : Request where
  code := RequestCode.getParameter
  payload := .block (.getParameter p)
  outputLength := some 8

/-- The request that sets a parameter. -/
def Request.write (p : Parameter) (value : UInt64) : Request where
  code := RequestCode.setParameter
  payload := .block (.setParameter p value)
  outputLength := none

/-- The value that a request to read a parameter leaves in its block. -/
def Request.valueRead (p : Parameter) (done : Completion) : UInt64 :=
  let block := Block.getParameter p
  (block.writeSlot (overlay block.valueSlot done.written.output)).getView.value

namespace Session

variable {s : Session} {p : Parameter} {value : UInt64}

/-- What follows a request: on success a notice and a value, else the request's own end. -/
theorem runs_ended_iff {α : Type} {operation : Operation} {verdict : Verdict} {n : Notice}
    {result : α} {outcome : Outcome SessionError α} :
    Runs (match verdict.outcome operation with
      | .ok _ => do
        Program.report n
        return .ok result
      | .error e => return .error e
      | .unwound why => return .unwound why) events outcome ↔
      events = [] ∧ outcome = (verdict.outcome operation).map fun _ => result := by
  cases verdict with
  | finished bytes => exact runs_note_iff.trans runs_done_iff
  | failed e => exact runs_done_iff
  | panicked => exact runs_done_iff

theorem runs_shutdown_iff {how : Direction} {outcome : Outcome SessionError Unit} :
    Runs (s.shutdown how) events outcome ↔
      ∃ done, Single s.handle (.stop how) events done
        ∧ outcome = (done.verdict.outcome .shutdown).map fun _ => () := by
  constructor
  · intro run
    obtain ⟨⟨verdict, left⟩, before, after, rfl, hissue, run⟩ := runs_bind_iff.mp run
    obtain ⟨done, single, rfl, -⟩ := single_of_runs hissue
    obtain ⟨rfl, houtcome⟩ := runs_ended_iff.mp run
    rw [List.append_nil]
    exact ⟨done, single, houtcome⟩
  · intro h
    obtain ⟨done, single, rfl⟩ := h
    rw [← List.append_nil events]
    exact (runs_of_single single).bind (runs_ended_iff.mpr ⟨rfl, rfl⟩)

theorem runs_getParameter_iff {outcome : Outcome SessionError UInt64} :
    Runs (s.getParameter p) events outcome ↔
      ∃ done, Single s.handle (.read p) events done
        ∧ outcome = (done.verdict.outcome .getParameter).map fun _ => Request.valueRead p done := by
  constructor
  · intro run
    obtain ⟨⟨verdict, left⟩, before, after, rfl, hissue, run⟩ := runs_bind_iff.mp run
    obtain ⟨done, single, rfl, rfl⟩ := single_of_runs hissue
    obtain ⟨rfl, houtcome⟩ := runs_ended_iff.mp run
    rw [List.append_nil]
    exact ⟨done, single, houtcome⟩
  · intro h
    obtain ⟨done, single, rfl⟩ := h
    rw [← List.append_nil events]
    exact (runs_of_single single).bind (runs_ended_iff.mpr ⟨rfl, rfl⟩)

/-- A value that is refused makes no request, any other one a single one. -/
theorem runs_setParameter_iff {outcome : Outcome SessionError Unit} :
    Runs (s.setParameter p value) events outcome ↔
      (∃ e, p.check value = .error e ∧ events = [] ∧ outcome = .error e)
        ∨ p.check value = .ok () ∧ ∃ done, Single s.handle (.write p value) events done
          ∧ outcome = (done.verdict.outcome .setParameter).map fun _ => () := by
  unfold setParameter
  cases hcheck : p.check value with
  | error e =>
    constructor
    · intro run
      obtain ⟨rfl, rfl⟩ := runs_done_iff.mp run
      exact .inl ⟨e, rfl, rfl, rfl⟩
    · intro h
      obtain ⟨e, ⟨⟩, rfl, rfl⟩ | ⟨⟨⟩, -⟩ := h
      exact .done _
  | ok _ =>
    constructor
    · intro run
      obtain ⟨⟨verdict, left⟩, before, after, rfl, hissue, run⟩ := runs_bind_iff.mp run
      obtain ⟨done, single, rfl, -⟩ := single_of_runs hissue
      obtain ⟨rfl, houtcome⟩ := runs_ended_iff.mp run
      rw [List.append_nil]
      exact .inr ⟨rfl, done, single, houtcome⟩
    · intro h
      obtain ⟨e, ⟨⟩, -⟩ | ⟨-, done, single, rfl⟩ := h
      rw [← List.append_nil events]
      exact (runs_of_single single).bind (runs_ended_iff.mpr ⟨rfl, rfl⟩)

theorem event_of_createContext {made : Except SessionError Context}
    (run : Runs createContext events made) :
    (∃ source, events = [⟨.createEvent, .error source⟩]
        ∧ made = .error (.host .createEvent source))
      ∨ ∃ event, events = [⟨.createEvent, .ok event⟩] ∧ made = .ok ⟨.withEvent event⟩ := by
  obtain ⟨reply, before, rest, rfl, hcreate, run⟩ := runs_bind_iff.mp run
  obtain ⟨answer, rfl, rfl⟩ := Context.event_of_create hcreate
  cases answer with
  | error source =>
    obtain ⟨rfl, rfl⟩ := runs_done_iff.mp run
    exact .inl ⟨source, rfl, rfl⟩
  | ok event =>
    obtain ⟨rfl, rfl⟩ := runs_done_iff.mp run
    exact .inr ⟨event, rfl, rfl⟩

end Session

end PacketDiversion
