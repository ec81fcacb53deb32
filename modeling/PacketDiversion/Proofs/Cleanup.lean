import PacketDiversion.Client.Action
import PacketDiversion.Host.Scripted
import PacketDiversion.Proofs.Lifetime

/-!
# What is released on the way out

A session that cannot be opened to the end gives back what it had of it (`opens_or_releases`), and a
request on an event of its own releases the event, whatever becomes of it, and comes to what the
request came to (`tunes_on_own_event`). What the releases are answered decides nothing. One number
is no event: the null handle stands for an event that is not there, and it is never released.
-/

namespace PacketDiversion

open Program

/-- The calls that release an event. -/
def Handle.releases (event : Handle) : List Call :=
  if event = Handle.null then [] else [.closeHandle event]

theorem call_eq_singleton_iff {events : List Event} {c : Call} :
    events.map Event.call = [c] ↔ ∃ reply : c.Reply, events = [⟨c, reply⟩] := by
  constructor
  · intro h
    obtain ⟨⟨call, reply⟩, rfl, hcall⟩ := List.map_eq_singleton_iff.mp h
    dsimp only at hcall
    subst hcall
    exact ⟨reply, rfl⟩
  · intro h
    obtain ⟨reply, rfl⟩ := h
    rfl

theorem freed_iff {event : Handle} {events : List Event} :
    Freed event events ↔ events.map Event.call = Handle.releases event := by
  by_cases null : event = Handle.null
  · rw [Handle.releases, if_pos null, List.map_eq_nil_iff]
    constructor
    · intro freed
      cases freed with
      | absent _ => rfl
      | released live _ => exact absurd null live
    · rintro rfl
      exact .absent null
  · rw [Handle.releases, if_neg null, call_eq_singleton_iff]
    constructor
    · intro freed
      cases freed with
      | absent absent => exact absurd absent null
      | released live answer => exact ⟨answer, rfl⟩
    · intro h
      obtain ⟨answer, rfl⟩ := h
      exact .released null answer

/-! ### Opening -/

namespace Session

variable {entry : Entry} {filter : Filter} {layer : Layer} {priority : Int} {flags : Flags}
  {events : List Event} {made : Except SessionError Session}

/-- Opening a session makes it of the handle and two events, receiving first, and releases nothing.
Without the handle it makes no other call. And without one of the events it comes to that creation's
error: the event that was created before it, if there is one, is released, and then the handle,
whatever the system answers to either. -/
theorem opens_or_releases :
    Runs (openWith entry filter layer priority flags) events made ↔
      (∃ e, events = [⟨.openSession entry filter layer priority flags, .error e⟩]
        ∧ made = .error (.host .openSession e))
      ∨ (∃ handle receiving sending,
        events = [⟨.openSession entry filter layer priority flags, .ok handle⟩,
          ⟨.createEvent, .ok receiving⟩, ⟨.createEvent, .ok sending⟩]
        ∧ made = .ok ⟨handle, ⟨.withEvent receiving⟩, ⟨.withEvent sending⟩⟩)
      ∨ ∃ (handle : Handle) (first : Option Handle) (e : HostError) (released : List Event),
        events = ⟨.openSession entry filter layer priority flags, .ok handle⟩
          :: (first.toList.map (fun event => (⟨.createEvent, .ok event⟩ : Event))
            ++ ⟨.createEvent, .error e⟩ :: released)
        ∧ released.map Event.call = first.toList.flatMap Handle.releases ++ [.closeHandle handle]
        ∧ made = .error (.host .createEvent e) := by
  rw [runs_openWith_iff]
  constructor
  · intro opened
    cases opened with
    | refused e => exact .inl ⟨e, rfl, rfl⟩
    | opened handle receiving sending => exact .inr (.inl ⟨handle, receiving, sending, rfl, rfl⟩)
    | noReceiving handle e answer =>
      exact .inr (.inr ⟨handle, none, e, [⟨.closeHandle handle, answer⟩], rfl, rfl, rfl⟩)
    | @noSending handle receiving e freed first answer =>
      have released : List.map Event.call (freed ++ [⟨.closeHandle handle, answer⟩])
          = Handle.releases receiving ++ [.closeHandle handle] := by
        rw [List.map_append, freed_iff.mp first]
        rfl
      rw [← List.append_nil (Handle.releases receiving)] at released
      exact .inr (.inr ⟨handle, some receiving, e, _, rfl, released, rfl⟩)
  · intro h
    obtain ⟨e, rfl, rfl⟩ | ⟨handle, receiving, sending, rfl, rfl⟩
      | ⟨handle, first, e, released, rfl, hreleased, rfl⟩ := h
    · exact .refused e
    · exact .opened handle receiving sending
    · obtain ⟨freed, closing, rfl, hfreed, hclosing⟩ := List.map_eq_append_iff.mp hreleased
      obtain ⟨answer, rfl⟩ := call_eq_singleton_iff.mp hclosing
      cases first with
      | none =>
        obtain rfl : freed = [] := List.map_eq_nil_iff.mp hfreed
        exact .noReceiving handle e answer
      | some receiving =>
        have first : Freed receiving freed := by
          rw [freed_iff, hfreed, Option.toList_some, List.flatMap_singleton]
        exact .noSending handle receiving e first answer

/-- The system opens a session, numbers its first event zero and fails to create the second. -/
def halfOpened : Transcript Scripted.System (Except SessionError Session) :=
  (openWith ⟨0⟩ ⟨"true", by decide⟩ .network 0 .none).run Scripted.host
    { handles := [0x12c, 0], fates := fun p => if p = .createEvent then [.success, .failure 8] else [] }

/-- The first event is created and not released: by its number it is no event. -/
theorem null_event_kept :
    halfOpened.value = .error (.host .createEvent (.code 8))
      ∧ halfOpened.events.map Event.call
        = [.openSession ⟨0⟩ ⟨"true", by decide⟩ .network 0 .none, .createEvent, .createEvent,
          .closeHandle 0x12c]
      ∧ halfOpened.events[1]? = some ⟨.createEvent, .ok 0⟩ :=
  ⟨rfl, rfl, rfl⟩

end Session

/-! ### Requests on events of their own -/

/-- What a session asks of its driver beside packets, one request at a time. -/
inductive Tuning
  | stop (how : Direction)
  | read (p : Parameter)
  | write (p : Parameter) (value : UInt64)

namespace Tuning

def action (slot : Nat) : Tuning → Action
  | stop how => .shutdown slot how
  | read p => .getParameter slot p
  | write p value => .setParameter slot p value

def operation : Tuning → Operation
  | stop _ => .shutdown
  | read _ => .getParameter
  | write .. => .setParameter

def request : Tuning → Request
  | stop how => .stop how
  | read p => .read p
  | write p value => .write p value

/-- Its arguments pass their check; only a value to be written has one. -/
def Allowed : Tuning → Prop
  | stop _ | read _ => True
  | write p value => p.check value = .ok ()

def answer (done : Completion) : Tuning → Answer
  | stop _ | write .. => .nothing
  | read p => .parameter (Request.valueRead p done)

/-- What it comes to when its request comes to `done`. -/
def outcome (t : Tuning) (done : Completion) : Outcome Failure Answer :=
  match done.verdict with
  | .finished _ => .ok (t.answer done)
  | .failed e => .error (.session (.host t.operation e))
  | .panicked => .unwound .host

end Tuning

namespace Client

variable {c next : Client} {slot : Nat} {s : Session} {t : Tuning} {events : List Event}
  {outcome : Outcome Failure Answer}

/-- An operation that is a single request, and tells of nothing else, is reported for what that
request comes to. -/
theorem runs_report_iff {α : Type} {p : Program (Outcome SessionError α)} {answer : α → Answer}
    {value : Completion → α} (told : ∀ done, answer (value done) = t.answer done)
    (single : ∀ result, Runs p events result ↔ ∃ done, Single s.handle t.request events done
      ∧ result = (done.verdict.outcome t.operation).map fun _ => value done) :
    Runs (p >>= fun result => pure (report answer result, c)) events (outcome, next) ↔
      next = c ∧ ∃ done, Single s.handle t.request events done ∧ outcome = t.outcome done := by
  have reported (done : Completion) :
      report answer ((done.verdict.outcome t.operation).map fun _ => value done)
        = t.outcome done := by
    unfold Tuning.outcome
    cases done.verdict with
    | finished bytes => exact congrArg _ (told done)
    | failed e => rfl
    | panicked => rfl
  rw [runs_map_iff]
  constructor
  · intro h
    obtain ⟨result, run, heq⟩ := h
    obtain ⟨rfl, rfl⟩ := Prod.mk.inj heq
    obtain ⟨done, hsingle, rfl⟩ := (single result).mp run
    exact ⟨rfl, done, hsingle, reported done⟩
  · intro h
    obtain ⟨rfl, done, hsingle, rfl⟩ := h
    exact ⟨_, (single _).mpr ⟨done, hsingle, rfl⟩, by rw [reported]⟩

theorem runs_tuning_iff (found : c.sessions.get? slot = some s) (allowed : t.Allowed) :
    Runs (c.step (t.action slot)) events (outcome, next) ↔
      next = c ∧ ∃ done, Single s.handle t.request events done ∧ outcome = t.outcome done := by
  have opened (act : Session → Program Result) : c.withSession slot act = act s := by
    rw [withSession, found]
  cases t with
  | stop how =>
    rw [Tuning.action, step, opened]
    exact runs_report_iff (fun _ => rfl) fun _ => Session.runs_shutdown_iff
  | read p =>
    rw [Tuning.action, step, opened]
    exact runs_report_iff (fun _ => rfl) fun _ => Session.runs_getParameter_iff
  | write p value =>
    have single (result : Outcome SessionError Unit) :
        Runs (s.setParameter p value) events result ↔
          ∃ done, Single s.handle (.write p value) events done
            ∧ result = (done.verdict.outcome .setParameter).map fun _ => () := by
      rw [Session.runs_setParameter_iff]
      constructor
      · rintro (⟨e, refused, -⟩ | ⟨-, written⟩)
        · cases allowed.symm.trans refused
        · exact written
      · exact fun written => .inr ⟨allowed, written⟩
    rw [Tuning.action, step, opened]
    exact runs_report_iff (fun _ => rfl) single

/-- Stopping a session and reading or writing a parameter leave the client as it was. Without an
event of its own the operation fails in its own name and makes no other call. With one it issues its
request on the session's handle and that event, waits for it if it is pending, and then releases the
event; and it comes to what the request came to, whatever the system answers to the release. -/
theorem tunes_on_own_event (found : c.sessions.get? slot = some s) (allowed : t.Allowed) :
    Runs (c.step (t.action slot)) events (outcome, next) ↔
      next = c
        ∧ ((∃ e, events = [⟨.createEvent, .error e⟩]
            ∧ outcome = .error (.session (.host t.operation e)))
          ∨ ∃ event request done released,
            Exchange s.handle t.request (.withEvent event) request done
            ∧ released.map Event.call = Handle.releases event
            ∧ events = ⟨.createEvent, .ok event⟩ :: (request ++ released)
            ∧ outcome = t.outcome done) := by
  rw [runs_tuning_iff found allowed]
  refine and_congr_right fun _ => ?_
  constructor
  · intro h
    obtain ⟨done, single, rfl⟩ := h
    cases single with
    | noEvent e => exact .inl ⟨e, rfl, rfl⟩
    | onEvent exchange freed =>
      exact .inr ⟨_, _, done, _, exchange, freed_iff.mp freed, rfl, rfl⟩
  · intro h
    obtain ⟨e, rfl, rfl⟩ | ⟨event, request, done, released, exchange, hreleased, rfl, rfl⟩ := h
    · exact ⟨_, .noEvent e, rfl⟩
    · exact ⟨done, .onEvent exchange (freed_iff.mpr hreleased), rfl⟩

namespace Tuned

def session : Session := ⟨0x104, ⟨.withEvent 0x108⟩, ⟨.withEvent 0x10c⟩⟩

def client : Client := { sessions := ⟨[(0, session)]⟩ }

/-- The value is pending, and neither the wait for it nor the release of its event succeeds. -/
def failedRead : List Event :=
  [⟨.createEvent, .ok 0x110⟩,
    ⟨.control 0x104 (.read .queueTime) (.withEvent 0x110), ⟨.failed (.code 997), {}⟩⟩,
    ⟨.result 0x104 0x110 true, ⟨.failed (.code 995), {}⟩⟩,
    ⟨.closeHandle 0x110, .error (.code 6)⟩]

theorem failedRead_releases :
    client.sessions.get? 0 = some session ∧ (Tuning.read .queueTime).Allowed
      ∧ Runs (client.step (.getParameter 0 .queueTime)) failedRead
        (.error (.session (.host .getParameter (.code 995))), client) := by
  have found : client.sessions.get? 0 = some session := rfl
  have allowed : (Tuning.read .queueTime).Allowed := trivial
  refine ⟨found, allowed, (tunes_on_own_event found allowed).mpr ⟨rfl, .inr ?_⟩⟩
  exact ⟨0x110, _, _, [⟨.closeHandle 0x110, .error (.code 6)⟩], .later rfl, rfl, rfl, rfl⟩

/-- The system numbers the event of a request zero. -/
def unnumbered : Transcript Scripted.System Result :=
  (client.step (.shutdown 0 .recv)).run Scripted.host { handles := [0] }

/-- The event is created and used, and it is not released: by its number it is no event. -/
theorem null_event_spared :
    unnumbered.value.1 = .ok .nothing
      ∧ unnumbered.events.map Event.call
        = [.createEvent, .control 0x104 (.stop .recv) (.withEvent 0)]
      ∧ unnumbered.events[0]? = some ⟨.createEvent, .ok 0⟩ :=
  ⟨rfl, rfl, rfl⟩

end Tuned

end Client

end PacketDiversion
