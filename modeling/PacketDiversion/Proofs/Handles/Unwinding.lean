import PacketDiversion.Proofs.Gate.History
import PacketDiversion.Proofs.Handles.Apart
import PacketDiversion.Proofs.Handles.Contained

/-!
# Recovery from a panic

Over every history of a client, on any system whose requests may panic whenever they like and whose
handles are fresh: a panic that unwinds through an action leaves every session its handle and its
events, passes back whatever the action was handed out, and leaves the cell of the driver's entry as
it was (`Unharmed`). The requests that follow are issued on clean blocks and on the events that the
contexts have had since they were made (`Ready`). So the rest of the history goes as it would have
gone if the call had failed in the place of the panic (`unwinding_recovers`).

A panic poisons the lock of the context that it passes through. The lock is taken all the same, so
it is no part of the state, and a history with panics in it covers the contexts that are poisoned.
-/

namespace PacketDiversion

open Program Handles

/-! ### The block of a request -/

section Blocks

variable {handle : Handle} {request : Request}

/-- The block has the system's words cleared, if the call issues a request on one. -/
def Call.Clean : Call → Prop
  | .control _ _ block => block.words = .clear
  | _ => True

theorem Exchange.clean {own : Context} {events : List Event} {done : Completion}
    (exchange : Exchange handle request own.prepare.overlapped events done) :
    ∀ e ∈ events, e.call.Clean := by
  cases exchange with
  | atOnce hpending => exact List.forall_mem_singleton.mpr rfl
  | later hpending => exact List.forall_mem_cons.mpr ⟨rfl, List.forall_mem_singleton.mpr trivial⟩

theorem Call.clean_of_not_request {c : Call} (hc : ¬ c.IsRequest) : c.Clean := by
  cases c with
  | control h request block => exact absurd trivial hc
  | _ => trivial

/-- A program that issues its requests on contexts clears the block of each, whatever earlier
requests have left there. -/
theorem Program.Composed.clean {α : Type} {p : Program α} (hp : p.Composed fun c => ¬ c.IsRequest)
    {events : List Event} {value : α} (run : Runs p events value) :
    ∀ e ∈ events, e.call.Clean := by
  induction hp generalizing events value with
  | done result =>
    obtain ⟨rfl, -⟩ := runs_done_iff.mp run
    exact fun e he => absurd he List.not_mem_nil
  | note n hrest ih => exact ih (runs_note_iff.mp run)
  | call hc hnext ih =>
    obtain ⟨reply, rest, rfl, later⟩ := runs_call_iff.mp run
    exact List.forall_mem_cons.mpr ⟨Call.clean_of_not_request hc, ih reply later⟩
  | issue own handle request m hnext ih =>
    obtain ⟨ended, before, after, rfl, issued, later⟩ := runs_bind_iff.mp run
    obtain ⟨done, exchange, -⟩ := exchange_of_runs issued
    exact List.forall_mem_append.mpr ⟨exchange.clean, ih ended later⟩

end Blocks

/-! ### Throwaway events -/

section Throwaway

variable {handle : Handle} {request : Request} {events : List Event} {done : Completion}

theorem Exchange.dealings_eq {block : Overlapped}
    (exchange : Exchange handle request block events done) (h : Handle) :
    dealings h events = [] := by
  cases exchange with
  | atOnce hpending => rfl
  | later hpending => rfl

/-- A request on a context of its own that is cut short was handed out one event, and has passed it
back. -/
theorem Single.dealings_eq (single : Single handle request events done)
    (proper : ∀ e ∈ events, e.Proper) (panics : ¬ Calm events) :
    ∃ event, ∀ h, dealings h events = if h = event then [.granted, .released] else [] := by
  cases single with
  | noEvent e => exact absurd (calm_nil.cons id) panics
  | @onEvent event requests freed done exchange hfreed =>
    have live : event ≠ Handle.null := proper _ List.mem_cons_self
    cases hfreed with
    | absent null => exact absurd null live
    | released _ answer =>
      refine ⟨event, fun h => ?_⟩
      have hrequests : requests.filterMap (dealing? h) = [] := exchange.dealings_eq h
      have hcreated : dealing? h ⟨.createEvent, .ok event⟩
          = if h = event then some .granted else none := by
        simp [dealing?, Event.granted?, Event.released?, eq_comm]
      have hclosed : dealing? h ⟨.closeHandle event, answer⟩
          = if h = event then some .released else none := by
        simp [dealing?, Event.granted?, Event.released?, eq_comm]
      rw [dealings, List.filterMap_cons, List.filterMap_append, hrequests, hcreated,
        List.nil_append, List.filterMap_cons, hclosed]
      by_cases same : h = event
      · simp only [if_pos same, List.filterMap_nil]
      · simp only [if_neg same, List.filterMap_nil]

end Throwaway

/-- An action that makes one request, on a context that is thrown away. -/
def Action.Tunes : Action → Prop
  | .shutdown .. | .getParameter .. | .setParameter .. => True
  | _ => False

theorem Action.Requests.not_moves {a : Action} (requests : a.Requests) : ¬ a.Moves := by
  intro moves
  cases a with
  | createContext slot k => exact requests
  | releaseContext k => exact requests
  | dropContext k => exact requests
  | _ => exact moves

namespace Client

theorem Deed.lasting_of_requests {d : Deed} (requests : d.action.Requests) (k : Nat) :
    ¬ d.Ends k := by
  rintro (haction | haction)
  · rw [haction] at requests
    exact requests
  · rw [haction] at requests
    exact requests

theorem operation_of_runs {c : Client} {slot : Nat} {α : Type} {op : Session → Program α}
    {f : α → Result} {events : List Event} {r : Result}
    (run : Runs (c.withSession slot fun s => op s >>= fun value => pure (f value)) events r)
    {e : Event} (he : e ∈ events) : ∃ s value, Runs (op s) events value := by
  obtain ⟨s, run⟩ := session_of_runs run he
  obtain ⟨value, before, after, rfl, own, run⟩ := runs_bind_iff.mp run
  rw [(runs_done_iff.mp run).1, List.append_nil]
  exact ⟨s, value, own⟩

theorem Deed.Done.single {d : Deed} (run : d.Done) (tunes : d.action.Tunes)
    (panics : ¬ Calm d.events) :
    ∃ handle request done, Single handle request d.events done := by
  obtain ⟨e, he⟩ : ∃ e, e ∈ d.events := by
    refine List.exists_mem_of_ne_nil _ fun none => panics ?_
    rw [none]
    exact calm_nil
  obtain ⟨before, action, events, outcome, after⟩ := d
  dsimp only at tunes he ⊢
  cases action with
  | shutdown slot how =>
    obtain ⟨s, result, run⟩ := operation_of_runs run he
    obtain ⟨done, single, -⟩ := Session.runs_shutdown_iff.mp run
    exact ⟨_, _, _, single⟩
  | getParameter slot p =>
    obtain ⟨s, result, run⟩ := operation_of_runs run he
    obtain ⟨done, single, -⟩ := Session.runs_getParameter_iff.mp run
    exact ⟨_, _, _, single⟩
  | setParameter slot p value =>
    obtain ⟨s, result, run⟩ := operation_of_runs run he
    rcases Session.runs_setParameter_iff.mp run with ⟨-, -, rfl, -⟩ | ⟨-, done, single, -⟩
    · cases he
    · exact ⟨_, _, _, single⟩
  | _ => exact absurd tunes id

/-! ### What a panic leaves -/

/-- A panic that unwinds through a deed, done after others, does no harm. -/
structure Unharmed (early : List Deed) (d : Deed) : Prop where
  /-- Every session keeps its handle and its events. -/
  grants : ∀ k, d.after.grantAt k = d.before.grantAt k
  /-- So do the caller's contexts. -/
  events : ∀ k, d.after.eventAt k = d.before.eventAt k
  /-- Nothing is passed back that was outstanding, and nothing more is outstanding afterwards. -/
  apart : ∀ e ∈ d.events, ∀ h, e.released? = some h → h ∉ outstanding (eventsOf early)
  ledger : outstanding (eventsOf (early ++ [d])) = outstanding (eventsOf early)
  /-- What was handed out meanwhile was passed back, as often as it was handed out. -/
  settled : Settled d.events
  throwaway : d.action.Tunes →
    ∃ event, ∀ h, dealings h d.events = if h = event then [.granted, .released] else []
  /-- Only a request for the driver's version may have gone on with an entry before the panic. -/
  driver : d.action ≠ .driverVersion → d.after.driver = d.before.driver
  /-- A panic inside the gate leaves the cell unset. -/
  cell : d.action.Enters → ∀ gate rest verdict, d.events = gate ++ rest →
    Runs Driver.check gate verdict → ¬ Calm gate → d.after.driver.entry = none

section Passage

variable {c next : Client} {a : Action} {events : List Event} {outcome : Outcome Failure Answer}

theorem Passage.driver_eq (passage : c.Passage a events outcome next) (panics : ¬ Calm events)
    (ha : a ≠ .driverVersion) : next.driver = c.driver := by
  cases passage with
  | aside apart same quiet calls => exact same
  | away reaches entered => exact entered.error_cases.2.1
  | through reaches entered uses =>
    cases uses with
    | enter => exact absurd (entered.calm.append calm_nil) panics
    | version run => exact absurd rfl ha
    | openSession text run =>
      exact absurd (entered.calm.append (Session.calm_of_openWith run)) panics

/-- If the gate was run and cut short, its probe panicked and the client was turned away. -/
theorem Passage.entry_eq_none (passage : c.Passage a events outcome next) (enters : a.Enters)
    {gate rest : List Event} {verdict : Outcome Rejection Entry} (heq : events = gate ++ rest)
    (run : Runs Driver.check gate verdict) (panics : ¬ Calm gate) : next.driver.entry = none := by
  cases passage with
  | aside apart same quiet calls =>
    have none : gate = [] := (List.append_eq_nil_iff.mp (heq.symm.trans (quiet enters))).1
    exact absurd (none ▸ calm_nil) panics
  | away reaches entered =>
    obtain ⟨unset, same, -⟩ := entered.error_cases
    rw [same]
    exact unset
  | through reaches entered uses =>
    rcases entered.ok_cases with ⟨-, rfl, -⟩ | ⟨-, run', -⟩
    · exact (not_gate_of_uses uses heq run).elim
    · obtain ⟨rfl, rfl⟩ := run.unique run' heq.symm
      exact absurd (Driver.calm_of_accepted run') panics

end Passage

/-- A context of the caller's has the event that it was created with, or was released. -/
theorem Reached.keeps_or_released {early : List Deed} {c : Client} (reached : Reached early c)
    {k : Nat} {event : Handle} (hk : c.eventAt k = some event) :
    Kept k event early ∨ event = Handle.null ∧ Released k early := by
  by_cases null : event = Handle.null
  · exact .inr ⟨null, (null_iff_released reached.path reached.proper hk).mp null⟩
  · exact .inl (reached.kept_iff.mpr ⟨hk, null⟩)

section Reached

variable {early : List Deed} {d : Deed} (reached : Reached early d.before) (run : d.Done)
include reached run

theorem Reached.unharmed (held : outstanding (eventsOf early) = d.before.handles)
    (promises : contract.Promises d.before.handles d.events) (panics : ¬ Calm d.events) :
    Unharmed early d := by
  have fresh := fresh_of_promises promises
  have proper := proper_of_fresh fresh
  have contained := run.contained fresh panics
  have unwound := run.unwound panics
  have requests := run.requests panics
  constructor
  · intro k
    cases run.handed proper k with
    | kept same unopened lasting => exact same
    | opened free opens now => cases unwound.symm.trans opens.1
    | ended ends empty => exact absurd ends (Deed.lasting_of_requests requests k)
  · exact ((step_retains requests.not_moves).keeps run (promises_lenient proper)).2
  · rw [held]
    exact contained.apart reached.nodup promises
  · rw [eventsOf_concat, outstanding_append, held]
    exact contained.after_eq reached.nodup promises
  · exact settled_of_inTurn fresh contained.inTurn contained.none
  · intro tunes
    obtain ⟨handle, request, done, single⟩ := run.single tunes panics
    exact single.dealings_eq proper panics
  · exact fun apart => (passage run).driver_eq panics apart
  · exact fun enters gate rest verdict heq => (passage run).entry_eq_none enters heq

/-- How the requests of a deed are issued when it is done after others. -/
structure Ready (early : List Deed) (d : Deed) : Prop where
  clean : ∀ e ∈ d.events, e.call.Clean
  /-- An operation of a session has its handle and an event of the session's, the caller's or its
  own. -/
  session : ∀ slot, d.action.session? = some slot → ∀ e ∈ d.events, ∀ h request block,
    e.call = .control h request block →
      ∃ g, Owned slot g early ∧ h = g.handle
        ∧ Presents early d g block.event (d.action.source request)
  /-- A request by hand has the event of the context that it names. -/
  byHand : ∀ handle code block output k, d.action = .control handle code block output (some k) →
    ∀ e ∈ d.events, ∀ h request block, e.call = .control h request block →
      h = handle ∧ (Kept k block.event early ∨ block.event = Handle.null ∧ Released k early)

theorem Reached.ready (promises : contract.Promises d.before.handles d.events) : Ready early d where
  clean := (usage_step d.action).composed.clean run
  session := by
    intro slot hslot e he h request block hcall
    obtain ⟨s, hs, within⟩ := (run.within hslot promises).1 e he
    rw [hcall] at within
    obtain ⟨rfl, hevent⟩ := within
    exact ⟨s.grant, reached.owned_iff.mpr (grantAt_of_session hs), rfl, reached.presents hevent⟩
  byHand := by
    intro handle code input output k haction e he h request block hcall
    unfold Deed.Done at run
    rw [haction, step, control] at run
    obtain ⟨own, hown, run⟩ := context_of_runs run he
    have presented := Context.request_of_issue run he
    rw [hcall] at presented
    obtain ⟨rfl, hevent⟩ := Prod.mk.inj (Option.some.inj presented)
    have hk : d.before.eventAt k = some block.event := by
      rw [eventAt, hown, hevent]
      rfl
    exact ⟨rfl, reached.keeps_or_released hk⟩

end Reached

/-! ### Every history -/

/-- In every history, whatever has panicked in it: each session that was opened and not let go since
still owns its handle and both its events, and they are outstanding; what is outstanding is what the
client holds. Every request is issued on a clean block, on the handle and the event that its session
and its context have had all along. A panic unwinds through one action and does no harm. And if
panics are mended, so that the calls fail in their place, the same actions make the same calls all
the same, and where nothing was mended they come to the same. -/
theorem unwinding_recovers {deeds : List Deed} {last : Client} (path : Path {} deeds last)
    (fresh : Fresh (eventsOf deeds)) :
    outstanding (eventsOf deeds) = last.handles
      ∧ (∀ slot g, Owned slot g deeds → last.grantAt slot = some g
        ∧ ∀ h ∈ g.handles, h ∈ outstanding (eventsOf deeds))
      ∧ (∀ early d late, deeds = early ++ d :: late →
        Ready early d ∧ (¬ Calm d.events → d.outcome = .unwound .host ∧ Unharmed early d))
      ∧ ∀ events', List.Forall₂ Event.Mended (eventsOf deeds) events' →
        ∃ deeds' last', Path {} deeds' last' ∧ eventsOf deeds' = events' ∧ last.Same last'
          ∧ List.Forall₂ Deed.Mends deeds deeds' := by
  obtain ⟨reached, held⟩ := reached_of_path path fresh
  refine ⟨held, ?_, ?_, fun events' => path_mended (.refl {}) path⟩
  · intro slot g owned
    have hg := reached.owned_iff.mp owned
    refine ⟨hg, fun h hh => ?_⟩
    rw [held]
    exact mem_handles_of_grant reached.sound hg hh
  · intro early d late hdeeds
    subst hdeeds
    rw [eventsOf_append, eventsOf_cons] at fresh
    obtain ⟨hearly, run, -⟩ := path.of_split
    obtain ⟨freshEarly, promises⟩ := fresh_append_iff.mp fresh
    obtain ⟨reached, held⟩ := reached_of_path hearly freshEarly
    rw [held] at promises
    have promises := (Contract.throughout_append_iff.mp promises).1
    exact ⟨reached.ready run promises, fun panics =>
      ⟨run.unwound panics, reached.unharmed run held promises panics⟩⟩

namespace Mishap

def actions : List Action :=
  [.enter, .openSession 0 "tcp" .network 0 .none, .createContext 0 0,
    .recvBatch 0 (List.replicate 8 0) [Address.zero] (some 0), .getParameter 0 .queueLength,
    .recvBatch 0 (List.replicate 8 0) [Address.zero] (some 0)]

/-- The system panics in the gate's first probe, in the first receive and in the reading of the
parameter. -/
def system : Scripted.System where
  fates p := match p with
    | .getParameter => [.panic, .success, .success, .panic]
    | .recv => [.panic]
    | _ => []
  arrivals := [.batch { packets := [[1, 2, 3]] }]

def mishaps : Transcript Scripted.System (List (Outcome Failure Answer) × Client) :=
  (steps {} actions).run Scripted.host system

/-- The session that was opened after the first panic still receives after the others. -/
theorem mishaps_recover :
    mishaps.value.1.map (fun outcome => match outcome with
        | .unwound why => some why
        | _ => none) = [some .host, none, none, some .host, some .host, none]
      ∧ ∃ deeds, Path {} deeds mishaps.value.2 ∧ deeds.map Deed.action = actions
        ∧ eventsOf deeds = mishaps.events
        ∧ outstanding mishaps.events = mishaps.value.2.handles
        ∧ (∀ d ∈ deeds, ¬ Calm d.events → Settled d.events)
        ∧ ∃ deeds' last', eventsOf deeds' ≠ mishaps.events ∧ Path {} deeds' last'
          ∧ mishaps.value.2.Same last' ∧ List.Forall₂ Deed.Mends deeds deeds' := by
  have run : Runs (steps {} actions) mishaps.events (mishaps.value.1, mishaps.value.2) :=
    runs_run _ _ _
  obtain ⟨deeds, path, hactions, hevents, -⟩ := runs_steps_iff.mp run
  have heq : eventsOf deeds = mishaps.events := hevents
  have fresh : Fresh (eventsOf deeds) := by
    have hfresh : Fresh mishaps.events := by decide +kernel
    rw [heq]
    exact hfresh
  have panics : ¬ Calm (eventsOf deeds) := by
    have hpanics : ¬ Calm mishaps.events := by decide +kernel
    rw [heq]
    exact hpanics
  obtain ⟨held, -, each, mended⟩ := unwinding_recovers path fresh
  obtain ⟨events', hmended, differ⟩ := exists_mended_of_not_calm panics
  obtain ⟨deeds', last', path', rfl, same, mends⟩ := mended events' hmended
  refine ⟨by decide +kernel, deeds, path, hactions, heq, heq ▸ held, fun d hd hpanics => ?_,
    deeds', last', heq ▸ differ, path', same, mends⟩
  obtain ⟨early, late, hdeeds⟩ := List.append_of_mem hd
  exact ((each early d late hdeeds).2 hpanics).2.settled

end Mishap

end Client

end PacketDiversion
