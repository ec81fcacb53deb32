import PacketDiversion.Host.Scripted
import PacketDiversion.Proofs.Exchange
import PacketDiversion.Proofs.Handles.Released

/-!
# No use after release

Over every history of a client, on any system whose handles are fresh, a request is made with a
handle that was handed out for a session and not passed back since, and with an event that was
handed out as one and not passed back since. Only a batch on a released context has no event
(`requests_in_use`).
-/

namespace PacketDiversion

open Program Handles

/-! ### Outstanding tokens -/

/-- The token was handed out, and its number was not passed back since. -/
def Held (token : Token) (events : List Event) : Prop :=
  Since (fun e => e.token? = some token) (fun e => e.released? = some token.handle) events

/-- The number was passed back, and was not handed out since. -/
def Closed (h : Handle) (events : List Event) : Prop :=
  Since (fun e => e.released? = some h) (fun e => e.granted? = some h) events

theorem mem_account_iff {token : Token} {events : List Event} :
    token ∈ account events ↔ Held token events := by
  induction events using List.reverseRecOn with
  | nil => exact iff_of_false (Multiset.notMem_zero token) not_since_nil
  | append_singleton events e ih =>
    rw [account_concat, Held, since_concat_iff, ← Held, ← ih, track]
    cases hgranted : e.token? with
    | some other =>
      have hreleased : e.released? ≠ some token.handle := by
        rw [e.released?_of_token? hgranted]
        exact nofun
      simp only [Multiset.mem_cons, Option.some.injEq, hreleased, not_false_eq_true, and_true,
        eq_comm]
    | none =>
      cases hreleased : e.released? with
      | some h =>
        simp only [Multiset.mem_filter, ne_eq, Option.some.injEq, reduceCtorEq, false_or, eq_comm]
      | none => simp only [reduceCtorEq, false_or, not_false_eq_true, and_true]

/-- No event is ever held that has the null handle. -/
theorem Held.event_ne_null {h : Handle} {events : List Event} (held : Held ⟨.event, h⟩ events)
    (proper : ∀ e ∈ events, e.Proper) : h ≠ Handle.null := by
  obtain ⟨e, he, htoken⟩ := held.exists_mem
  exact (proper e he).sentinel htoken

theorem Held.not_closed {token : Token} {events : List Event} (held : Held token events) :
    ¬ Closed token.handle events := by
  induction events using List.reverseRecOn with
  | nil => exact absurd held not_since_nil
  | append_singleton events e ih =>
    rw [Closed, since_concat_iff]
    rcases since_concat_iff.mp held with granted | ⟨earlier, kept⟩
    · rintro (released | ⟨-, apart⟩)
      · rw [e.released?_of_token? granted] at released
        cases released
      · exact apart (by rw [e.granted?_eq, granted]; rfl)
    · rintro (released | ⟨closed, -⟩)
      · exact kept released
      · exact ih earlier closed

/-! ### The event of a request on a caller's context -/

theorem Exchange.request_eq {handle : Handle} {request : Request} {block : Overlapped}
    {events : List Event} {done : Completion}
    (exchange : Exchange handle request block events done) {e : Event} (he : e ∈ events) :
    e.call.request? = some (handle, block.event) := by
  cases exchange with
  | atOnce hpending =>
    rw [List.mem_singleton.mp he]
    rfl
  | later hpending =>
    rcases List.mem_cons.mp he with rfl | he
    · rfl
    · rw [List.mem_singleton.mp he]
      rfl

/-- A program that issues one request on a context, and no more. -/
theorem Context.request_of_issue {own : Context} {handle : Handle} {request : Request} {m : Memory}
    {α : Type} {f : Issued → α} {events : List Event} {r : α}
    (run : Runs (own.issue handle request m >>= fun ended => pure (f ended)) events r) {e : Event}
    (he : e ∈ events) : e.call.request? = some (handle, own.event) := by
  obtain ⟨ended, before, after, rfl, issued, run⟩ := runs_bind_iff.mp run
  obtain ⟨done, exchange, -⟩ := exchange_of_runs issued
  rw [(runs_done_iff.mp run).1, List.append_nil] at he
  exact exchange.request_eq he

namespace Session

variable {s : Session} {own : Context} {events : List Event}

theorem request_of_recvBatch {buffer : Bytes} {records : List Address}
    {r : Received Delivery × Session × Option Context}
    (run : Runs (s.recvBatch buffer records (some own)) events r) {e : Event} (he : e ∈ events) :
    e.call.request? = some (s.handle, own.event) := by
  unfold recvBatch at run
  split at run
  · rw [(runs_done_iff.mp run).1] at he
    cases he
  · exact Context.request_of_issue run he

theorem request_of_sendBatch {data : Bytes} {records : List Address}
    {r : Outcome SessionError Nat × Session × Option Context}
    (run : Runs (s.sendBatch data records (some own)) events r) {e : Event} (he : e ∈ events) :
    e.call.request? = some (s.handle, own.event) := by
  unfold sendBatch at run
  split at run
  · rw [(runs_done_iff.mp run).1] at he
    cases he
  · exact Context.request_of_issue run he

end Session

namespace Client

variable {c : Client}

/-- A program that starts from a session in a slot makes calls only if there is one. -/
theorem session_of_runs {slot : Nat} {act : Session → Program Result} {events : List Event}
    {r : Result} (run : Runs (c.withSession slot act) events r) {e : Event} (he : e ∈ events) :
    ∃ s, Runs (act s) events r := by
  unfold withSession at run
  split at run
  · rw [(runs_done_iff.mp run).1] at he
    cases he
  · exact ⟨_, run⟩

theorem context_of_runs {slot : Nat} {act : Option Context → Program Result}
    {events : List Event} {r : Result} (run : Runs (c.withContext? (some slot) act) events r)
    {e : Event} (he : e ∈ events) :
    ∃ own, c.contexts.get? slot = some own ∧ Runs (act (some own)) events r := by
  rw [withContext?, withContext] at run
  cases hown : c.contexts.get? slot with
  | none =>
    rw [hown] at run
    rw [(runs_done_iff.mp run).1] at he
    cases he
  | some own =>
    rw [hown] at run
    exact ⟨own, rfl, run⟩

/-- A batch on a caller's context presents the event that the context has. -/
theorem eventAt_of_batch {a : Action} {k : Nat} (hk : a.batchContext? = some k)
    {events : List Event} {r : Result} (run : Runs (c.step a) events r) {e : Event}
    (he : e ∈ events) {h event : Handle} (request : e.call.request? = some (h, event)) :
    c.eventAt k = some event := by
  cases a with
  | recvBatch slot buffer records context =>
    obtain rfl : context = some k := hk
    obtain ⟨s, run⟩ := session_of_runs run he
    obtain ⟨own, hown, run⟩ := context_of_runs run he
    obtain ⟨got, before, after, rfl, hrecv, run⟩ := runs_bind_iff.mp run
    rw [(runs_done_iff.mp run).1, List.append_nil] at he
    rw [Session.request_of_recvBatch hrecv he] at request
    cases request
    exact congrArg (Option.map Context.event) hown
  | sendBatch slot data records context =>
    obtain rfl : context = some k := hk
    obtain ⟨s, run⟩ := session_of_runs run he
    obtain ⟨own, hown, run⟩ := context_of_runs run he
    obtain ⟨got, before, after, rfl, hsend, run⟩ := runs_bind_iff.mp run
    rw [(runs_done_iff.mp run).1, List.append_nil] at he
    rw [Session.request_of_sendBatch hsend he] at request
    cases request
    exact congrArg (Option.map Context.event) hown
  | _ => cases hk

/-! ### Every history -/

/-- The accounts of a client are straight at the end of every history. -/
theorem booked_of_path {deeds : List Deed} {last : Client} (path : Path {} deeds last)
    (hand : ∀ d ∈ deeds, ¬ d.action.ByHand) (fresh : Fresh (eventsOf deeds))
    (Spare : Handle → Prop) : last.Booked (kinded Spare) (account (eventsOf deeds)) := by
  have hactions : ∀ a ∈ deeds.map Deed.action, ¬ a.ByHand := by
    intro a ha
    obtain ⟨d, hd, rfl⟩ := List.mem_map.mp ha
    exact hand d hd
  have run := runs_steps_iff.mpr ⟨deeds, path, rfl, rfl, rfl⟩
  have start : ({} : Client).Booked (kinded fun _ => True) 0 := ⟨sound_start, rfl⟩
  exact ((steps_booked hactions trivial start).keeps run (promises_usage fresh _)).2

/-- What a deed may present in place of an event: the null handle, if the deed is a batch on a
context that has none. -/
def Deed.Spare (d : Deed) (h : Handle) : Prop :=
  h = Handle.null ∧ ∃ k, d.action.batchContext? = some k ∧ d.before.eventAt k = some Handle.null

theorem Deed.spares (d : Deed) : d.before.Spares (kinded d.Spare) d.action := by
  intro k hk own hown null
  refine ⟨rfl, k, hk, ?_⟩
  rw [eventAt, hown, Option.map_some, null]

/-- In every history, what a deed calls it calls with what is outstanding at that time. -/
theorem backed_of_path {early late : List Deed} {d : Deed} {last : Client}
    (path : Path {} (early ++ d :: late) last)
    (hand : ∀ x ∈ early ++ d :: late, ¬ x.action.ByHand)
    (fresh : Fresh (eventsOf early ++ (d.events ++ eventsOf late))) {before rest : List Event}
    {e : Event} (hevents : d.events = before ++ e :: rest) :
    e.call.Backed d.Spare (account (eventsOf early ++ before)) := by
  obtain ⟨hearly, run, -⟩ := path.of_split
  have booked : d.before.Booked (kinded d.Spare) (account (eventsOf early)) :=
    booked_of_path hearly (fun x hx => hand x (List.mem_append_left _ hx))
      (fresh_append_iff.mp fresh).1 _
  have promises : (usage d.Spare).Promises (account (eventsOf early)) d.events := by
    obtain ⟨-, later⟩ := Contract.throughout_append_iff.mp (promises_usage fresh d.Spare)
    exact (Contract.throughout_append_iff.mp later).1
  have byHand : ¬ d.action.ByHand := hand d (List.mem_append_right _ List.mem_cons_self)
  obtain ⟨keeps, -⟩ := (step_booked booked byHand d.spares).keeps run promises
  have owed := keeps before e rest hevents
  rw [account, List.foldl_append]
  exact owed

/-- In every history, a request is made with a session's handle that is held, and with an event
that is held or with none; with none exactly if it is a batch on a context that was released before.
So no number is presented that was passed back and not handed out again: the null handle is no
event's. -/
theorem requests_in_use {deeds : List Deed} {last : Client} (path : Path {} deeds last)
    (hand : ∀ d ∈ deeds, ¬ d.action.ByHand) (fresh : Fresh (eventsOf deeds))
    {early late : List Deed} {d : Deed} (hdeeds : deeds = early ++ d :: late)
    {before rest : List Event} {e : Event} (hevents : d.events = before ++ e :: rest)
    {h event : Handle} (request : e.call.request? = some (h, event)) {past : List Event}
    (hpast : past = eventsOf early ++ before) :
    Held ⟨.session, h⟩ past
      ∧ (Held ⟨.event, event⟩ past ∨ event = Handle.null)
      ∧ (event = Handle.null ↔ ∃ k, d.action.batchContext? = some k ∧ Released k early)
      ∧ ¬ Closed h past
      ∧ (Closed event past → event = Handle.null) := by
  subst hdeeds hpast
  rw [eventsOf_append, eventsOf_cons] at fresh
  obtain ⟨hsession, hevent⟩ := (backed_of_path path hand fresh hevents).request request
  rw [mem_account_iff] at hsession
  rw [mem_account_iff] at hevent
  obtain ⟨hearly, run, -⟩ := path.of_split
  have proper := proper_of_fresh fresh
  have properEarly : ∀ x ∈ eventsOf early, x.Proper := fun x hx =>
    proper x (List.mem_append_left _ hx)
  have properPast : ∀ x ∈ eventsOf early ++ before, x.Proper := by
    intro x hx
    refine proper x ?_
    rw [hevents, List.append_assoc, ← List.append_assoc (eventsOf early)]
    exact List.mem_append_left _ hx
  have he : e ∈ d.events := hevents ▸ List.mem_append_right before List.mem_cons_self
  have null_iff : event = Handle.null
      ↔ ∃ k, d.action.batchContext? = some k ∧ Released k early := by
    constructor
    · intro null
      rcases hevent with held | ⟨-, k, hk, hbefore⟩
      · exact absurd null (held.event_ne_null properPast)
      · exact ⟨k, hk, (null_iff_released hearly properEarly hbefore).mp rfl⟩
    · rintro ⟨k, hk, released⟩
      have hbefore : d.before.eventAt k = some event := eventAt_of_batch hk run he request
      exact (null_iff_released hearly properEarly hbefore).mpr released
  refine ⟨hsession, hevent.imp_right And.left, null_iff, hsession.not_closed, ?_⟩
  intro closed
  rcases hevent with held | ⟨null, -⟩
  · exact absurd closed held.not_closed
  · exact null

namespace Recycling

def actions : List Action :=
  [.openSession 0 "tcp" .network 0 .none, .createContext 0 0, .releaseContext 0,
    .openSession 1 "udp" .network 0 .none]

/-- The system gives the number of the context's event to the second session. -/
def system : Scripted.System where
  pend := true
  handles := [0x104, 0x108, 0x10c, 0x110, 0x110, 0x104, 0x108, 0x10c, 0x200, 0x200, 0x110, 0x114]
  arrivals := [.batch { packets := [[1, 2, 3]] }]

def reopened : Transcript Scripted.System (List (Outcome Failure Answer) × Client) :=
  (steps {} actions).run Scripted.host system

/-- The second session receives a batch on the released context. -/
def reuse : Deed :=
  .onHost Scripted.host reopened.state reopened.value.2
    (.recvBatch 1 (List.replicate 8 0) [Address.zero] (some 0))

theorem reuse_in_use :
    (∃ e ∈ reopened.events, e.token? = some ⟨.event, 0x200⟩)
      ∧ (∃ e ∈ reopened.events, e.released? = some 0x200)
      ∧ reuse.events.map (fun e => e.call.request?) = List.replicate 2 (some (0x200, Handle.null))
      ∧ Held ⟨.session, 0x200⟩ reopened.events ∧ ¬ Closed 0x200 reopened.events
      ∧ ∃ early, Path {} early reuse.before ∧ early.map Deed.action = actions
        ∧ eventsOf early = reopened.events ∧ Released 0 early := by
  have run : Runs (steps {} actions) reopened.events (reopened.value.1, reopened.value.2) :=
    runs_run _ _ _
  obtain ⟨early, path, hactions, hevents, -⟩ := runs_steps_iff.mp run
  have hand : ∀ d ∈ early ++ [reuse], ¬ d.action.ByHand := by
    intro d hd
    have hmem : d.action ∈ (early ++ [reuse]).map Deed.action := List.mem_map_of_mem hd
    have hall : ∀ a ∈ actions ++ [reuse.action], ¬ a.ByHand := by
      simp [actions, reuse, Deed.onHost, Action.ByHand]
    rw [List.map_append, hactions] at hmem
    exact hall d.action hmem
  have fresh : Fresh (eventsOf (early ++ [reuse])) := by
    have hfresh : Fresh (reopened.events ++ reuse.events) := by decide +kernel
    rw [eventsOf_concat, eventsOf, hevents]
    exact hfresh
  have presented : reuse.events.map (fun e => e.call.request?)
      = List.replicate 2 (some (0x200, Handle.null)) := by decide +kernel
  obtain ⟨e, rest, hfirst, request, -⟩ := List.map_eq_cons_iff.mp presented
  have hpast : reopened.events = eventsOf early ++ [] := by
    rw [List.append_nil, eventsOf, hevents]
  have whole : Path {} (early ++ [reuse]) reuse.after := path.concat (Deed.done_onHost _ _ _ _)
  have hsplit : reuse.events = [] ++ e :: rest := hfirst
  obtain ⟨held, -, null, still, -⟩ :=
    requests_in_use whole hand fresh rfl hsplit request hpast
  obtain ⟨k, hk, released⟩ := null.mp rfl
  cases hk
  exact ⟨by decide +kernel, by decide +kernel, presented, held, still, early, path, hactions,
    hevents, released⟩

end Recycling

end Client

end PacketDiversion
