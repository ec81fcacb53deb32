import PacketDiversion.Host.Scripted
import PacketDiversion.Proofs.Handles.Sources

/-!
# Sessions, directions and contexts apart

Over every history of a client, on any system whose handles are fresh: an operation of a session
makes its requests on the handle that its open returned. The event of a request is the session's own
for the direction, the same from the open on, or that of the caller's context, or a new one that
belongs to nobody else. What other sessions and callers own is left alone
(`sessions_kept_apart`).
-/

namespace PacketDiversion

open Program Handles

namespace Client

/-- What stands for a source when a deed is done after others. -/
def Presents (early : List Deed) (d : Deed) (g : Grant) (event : Handle) : Source → Prop
  | .receiving => event = g.receiving
  | .sending => event = g.sending
  | .context k => Kept k event early ∨ event = Handle.null ∧ Released k early
  | .own =>
    event ≠ Handle.null ∧ ⟨.createEvent, .ok event⟩ ∈ d.events
      ∧ (∀ j g', Owned j g' early → event ∉ g'.handles) ∧ ∀ k, ¬ Kept k event early

/-- The session that was opened in a slot shares no number with another owner. -/
structure Separate (early : List Deed) (slot : Nat) (g : Grant) : Prop where
  unique : ∀ g', Owned slot g' early → g' = g
  nodup : g.handles.Nodup
  sessions : ∀ j g', j ≠ slot → Owned j g' early → ∀ h ∈ g.handles, h ∉ g'.handles
  contexts : ∀ k event, Kept k event early → event ∉ g.handles

/-- An operation of the session in a slot leaves every other owner alone. It releases a session's
handle or event only if it lets that session go, and a context's event only if it replaces it. -/
structure Undisturbed (early : List Deed) (d : Deed) (slot : Nat) : Prop where
  sessions : ∀ j, j ≠ slot → d.after.sessions.get? j = d.before.sessions.get? j
  contexts : ∀ k, d.action.context? ≠ some k → d.after.contexts.get? k = d.before.contexts.get? k
  grant : ¬ d.Ends slot → d.after.grantAt slot = d.before.grantAt slot
  lent : ∀ k, d.action.batchContext? = some k →
    d.after.sessions.get? slot = d.before.sessions.get? slot
      ∧ d.after.eventAt k = d.before.eventAt k
  owned : ∀ e ∈ d.events, ∀ h, e.call = .closeHandle h →
    ∀ j g, Owned j g early → h ∈ g.handles → j = slot ∧ d.Ends slot
  kept : ∀ e ∈ d.events, ∀ h, e.call = .closeHandle h →
    ∀ k, Kept k h early → d.action = .createContext slot k

theorem lets_cases {c : Client} {s : Session} {a : Action} {slot : Nat} {h : Handle}
    (ha : a.session? = some slot) (lets : c.Lets s h a) :
    (a = .close slot ∨ a = .drop slot) ∧ h ∈ s.grant.handles
      ∨ ∃ k, a = .createContext slot k ∧ c.eventAt k = some h ∧ h ≠ Handle.null := by
  cases a with
  | close k =>
    obtain rfl : k = slot := Option.some.inj ha
    exact .inl ⟨.inl rfl, lets⟩
  | drop k =>
    obtain rfl : k = slot := Option.some.inj ha
    exact .inl ⟨.inr rfl, lets⟩
  | createContext k context =>
    obtain rfl : k = slot := Option.some.inj ha
    exact .inr ⟨context, rfl, lets⟩
  | _ => exact absurd lets id

/-- Without a session in the slot an operation is refused. -/
theorem step_of_none {c : Client} {a : Action} {slot : Nat} (ha : a.session? = some slot)
    (hs : c.sessions.get? slot = none) : c.step a = c.refuse .noSession := by
  have refused (act : Session → Program Result) : c.withSession slot act = c.refuse .noSession := by
    rw [withSession, hs]
  cases a with
  | close k => cases ha; exact refused _
  | drop k => cases ha; exact refused _
  | handle k => cases ha; exact refused _
  | createContext k context => cases ha; exact refused _
  | recv k buffer address => cases ha; exact refused _
  | recvBatch k buffer records context => cases ha; exact refused _
  | send k data address => cases ha; exact refused _
  | sendBatch k data records context => cases ha; exact refused _
  | shutdown k how => cases ha; exact refused _
  | getParameter k p => cases ha; exact refused _
  | setParameter k p value => cases ha; exact refused _
  | version k => cases ha; exact refused _
  | relay k limit options => cases ha; exact refused _
  | _ => cases ha

theorem Deed.Done.within {d : Deed} (run : d.Done) {slot : Nat} (ha : d.action.session? = some slot)
    (promises : contract.Promises d.before.handles d.events) :
    (∀ e ∈ d.events, ∃ s, d.before.sessions.get? slot = some s
        ∧ d.before.Within d.action s d.events e.call)
      ∧ d.before.Lent d.action slot (d.outcome, d.after) := by
  cases hs : d.before.sessions.get? slot with
  | none =>
    unfold Done at run
    rw [step_of_none ha hs] at run
    obtain ⟨hevents, -, hafter⟩ := runs_pair_iff.mp run
    rw [hevents, hafter]
    exact ⟨fun e he => absurd he List.not_mem_nil, fun _ => rfl⟩
  | some s =>
    obtain ⟨within, lent⟩ := within_of_run hs ha run promises
    exact ⟨fun e he => ⟨s, rfl, within e he⟩, lent⟩

/-- An operation takes at most its own session out of its slot. -/
theorem ends_of_seat {a : Action} {slot j : Nat} (ha : a.session? = some slot)
    (seat : a.seat? = some j) : j = slot ∧ (a = .close slot ∨ a = .drop slot) := by
  cases a with
  | close k =>
    cases ha
    cases seat
    exact ⟨rfl, .inl rfl⟩
  | drop k =>
    cases ha
    cases seat
    exact ⟨rfl, .inr rfl⟩
  | openSession => cases ha
  | _ => cases seat

theorem not_moves_of_batch {a : Action} {k : Nat} (ha : a.batchContext? = some k) : ¬ a.Moves := by
  cases a with
  | recvBatch slot buffer records context => exact id
  | sendBatch slot data records context => exact id
  | _ => cases ha

/-! ### What a history leaves -/

/-- A request by hand leaves what is outstanding, whatever the handle it is issued on. -/
theorem balanced_of_control {c next : Client} {handle : Handle} {code : UInt32} {block : Block}
    {output : Bytes} {context : Option Nat} {events : List Event}
    {outcome : Outcome Failure Answer} (sound : c.Sound)
    (run : Runs (c.control handle code block output context) events (outcome, next))
    (promises : contract.Promises c.handles events) :
    next.Balanced (contract.after c.handles events) := by
  unfold control at run
  dsimp only at run
  cases context with
  | none =>
    rw [withContext?] at run
    obtain ⟨⟨verdict, memory⟩, before, rest, rfl, hissue, run⟩ := runs_bind_iff.mp run
    obtain ⟨done, single, -, -⟩ := single_of_runs hissue
    obtain ⟨rfl, -, rfl⟩ := runs_pair_iff.mp run
    rw [List.append_nil] at promises ⊢
    exact ⟨sound, (single.onOwn promises).1⟩
  | some k =>
    rw [withContext?, withContext] at run
    cases hown : c.contexts.get? k with
    | none =>
      simp only [hown] at run
      obtain ⟨rfl, -, rfl⟩ := runs_pair_iff.mp run
      exact ⟨sound, rfl⟩
    | some own =>
      simp only [hown] at run
      obtain ⟨done, exchange, hresult⟩ := exchange_of_issue run
      cases hresult
      have same : (own.prepare.absorb done.written).event = own.event := rfl
      refine ⟨sound_putContext sound k _, ?_⟩
      rw [exchange.after_eq, ← map_tokens, ← map_tokens]
      exact congrArg (Multiset.map Token.handle) (tokens_sameContext sound hown same).symm

theorem Deed.Done.balanced {d : Deed} (run : d.Done) (sound : d.before.Sound)
    (promises : contract.Promises d.before.handles d.events) :
    d.after.Balanced (contract.after d.before.handles d.events) := by
  by_cases hand : d.action.ByHand
  · -- its handle may be anybody's, so the books about use say nothing
    unfold Done at run
    cases haction : d.action with
    | control handle code block output context =>
      rw [haction] at run
      exact balanced_of_control sound run promises
    | _ =>
      rw [haction] at hand
      exact absurd hand id
  · have booked : d.before.Booked plain d.before.handles := booked_plain_iff.mpr ⟨sound, rfl⟩
    have spares : d.before.Spares plain d.action := fun _ _ _ _ _ => rfl
    exact booked_plain_iff.mp ((step_booked booked hand spares).keeps run promises).2

/-- Whatever was done, the client holds what is outstanding. -/
theorem balanced_of_path {deeds : List Deed} {last : Client} (path : Path {} deeds last)
    (fresh : Fresh (eventsOf deeds)) : last.Balanced (outstanding (eventsOf deeds)) := by
  induction deeds using List.reverseRecOn generalizing last with
  | nil =>
    cases path
    exact ⟨sound_start, rfl⟩
  | append_singleton deeds d ih =>
    obtain ⟨before, run, rest⟩ := path.of_split
    cases rest
    rw [eventsOf_concat] at fresh ⊢
    obtain ⟨hearly, promises⟩ := fresh_append_iff.mp fresh
    obtain ⟨sound, held⟩ := ih before hearly
    rw [outstanding_append, held]
    exact run.balanced sound (held ▸ promises)

/-- Where a history has led: the client is sound, and what it holds is what is outstanding. -/
structure Reached (early : List Deed) (c : Client) : Prop where
  path : Path {} early c
  proper : ∀ e ∈ eventsOf early, e.Proper
  sound : c.Sound
  nodup : c.handles.Nodup

theorem reached_of_path {early : List Deed} {c : Client} (path : Path {} early c)
    (fresh : Fresh (eventsOf early)) :
    Reached early c ∧ outstanding (eventsOf early) = c.handles := by
  obtain ⟨sound, held⟩ := balanced_of_path path fresh
  have nodup : c.handles.Nodup := held ▸ nodup_outstanding fresh
  exact ⟨⟨path, proper_of_fresh fresh, sound, nodup⟩, held⟩

section Reached

variable {early : List Deed} {c : Client} {slot : Nat} {g : Grant} (reached : Reached early c)
include reached

theorem Reached.owned_iff : Owned slot g early ↔ c.grantAt slot = some g :=
  Client.owned_iff reached.path reached.proper

theorem Reached.kept_iff {k : Nat} {event : Handle} :
    Kept k event early ↔ c.eventAt k = some event ∧ event ≠ Handle.null :=
  Client.kept_iff reached.path reached.proper

theorem Reached.separate (owned : Owned slot g early) : Separate early slot g := by
  have hg := reached.owned_iff.mp owned
  constructor
  · intro g' owned'
    have hg' := reached.owned_iff.mp owned'
    exact Option.some.inj (hg'.symm.trans hg)
  · exact grant_nodup reached.sound reached.nodup hg
  · intro j g' hj owned' h hh
    exact grants_apart reached.sound reached.nodup hj hg (reached.owned_iff.mp owned') hh
  · intro k event kept
    obtain ⟨hk, live⟩ := reached.kept_iff.mp kept
    exact event_apart reached.sound reached.nodup hg hk live

/-- A number that a client does not hold belongs to no owner. -/
theorem Reached.foreign {event : Handle} (apart : event ∉ c.handles) :
    (∀ j g', Owned j g' early → event ∉ g'.handles) ∧ ∀ k, ¬ Kept k event early := by
  constructor
  · intro j g' owned hmem
    exact apart (mem_handles_of_grant reached.sound (reached.owned_iff.mp owned) hmem)
  · intro k kept
    obtain ⟨hk, live⟩ := reached.kept_iff.mp kept
    exact apart (mem_handles_of_event reached.sound hk live)

/-- What an operation may release, by its owners. -/
theorem Reached.owner_of_lets {s : Session} {a : Action} {h : Handle}
    (hs : c.sessions.get? slot = some s) (ha : a.session? = some slot)
    (hlets : c.Lets s h a ∨ h ∉ c.handles) :
    (∀ j g', Owned j g' early → h ∈ g'.handles →
        j = slot ∧ (a = .close slot ∨ a = .drop slot))
      ∧ ∀ k, Kept k h early → a = .createContext slot k := by
  have hg := grantAt_of_session hs
  rcases hlets with lets | apart
  · rcases lets_cases ha lets with ⟨ends, hmem⟩ | ⟨k, rfl, hk, live⟩
    · constructor
      · intro j g' owned hh
        by_cases hj : j = slot
        · exact ⟨hj, ends⟩
        · have hg' := reached.owned_iff.mp owned
          exact absurd hh (grants_apart reached.sound reached.nodup hj hg hg' hmem)
      · intro k kept
        obtain ⟨hk, live⟩ := reached.kept_iff.mp kept
        exact absurd hmem (event_apart reached.sound reached.nodup hg hk live)
    · constructor
      · intro j g' owned hh
        have hg' := reached.owned_iff.mp owned
        exact absurd hh (event_apart reached.sound reached.nodup hg' hk live)
      · intro j kept
        obtain ⟨hj, -⟩ := reached.kept_iff.mp kept
        by_cases hjk : j = k
        · rw [hjk]
        · exact absurd rfl (events_apart reached.sound reached.nodup hjk hk live hj live)
  · obtain ⟨unowned, unkept⟩ := reached.foreign apart
    exact ⟨fun j g' owned hh => absurd hh (unowned j g' owned),
      fun k kept => absurd kept (unkept k)⟩

theorem Reached.presents {d : Deed} {s : Session} {event : Handle} {source : Source}
    (hevent : c.Sourced s d.events event source) : Presents early d s.grant event source := by
  cases source with
  | receiving => exact hevent
  | sending => exact hevent
  | context k =>
    by_cases null : event = Handle.null
    · have released := null_iff_released reached.path reached.proper hevent
      exact .inr ⟨null, released.mp null⟩
    · exact .inl (reached.kept_iff.mpr ⟨hevent, null⟩)
  | own =>
    obtain ⟨apart, live, created⟩ := hevent
    exact ⟨live, created, reached.foreign apart⟩

end Reached

/-! ### Every history -/

/-- In every history, each request of an operation of a session is made on the handle that the open
of the session returned, with the event that its source has had since; a wait follows its request.
What one session owns no one else does, and an operation leaves to every other owner what is
theirs. -/
theorem sessions_kept_apart {deeds : List Deed} {last : Client} (path : Path {} deeds last)
    (fresh : Fresh (eventsOf deeds)) {early late : List Deed} {d : Deed}
    (hdeeds : deeds = early ++ d :: late) {slot : Nat} (hslot : d.action.session? = some slot) :
    (∀ e ∈ d.events, ∀ h request block, e.call = .control h request block →
      ∃ g, Owned slot g early ∧ h = g.handle
        ∧ Presents early d g block.event (d.action.source request))
      ∧ (∀ before rest h event wait reply,
        d.events = before ++ ⟨.result h event wait, reply⟩ :: rest →
        ∃ front request block taken, before = front ++ [⟨.control h request block, taken⟩]
          ∧ block.event = event)
      ∧ (∀ g, Owned slot g early → Separate early slot g)
      ∧ Undisturbed early d slot := by
  subst hdeeds
  rw [eventsOf_append, eventsOf_cons] at fresh
  obtain ⟨hearly, run, -⟩ := path.of_split
  obtain ⟨freshEarly, promisesRest⟩ := fresh_append_iff.mp fresh
  obtain ⟨reached, houtstanding⟩ := reached_of_path hearly freshEarly
  -- what is outstanding by now is what the client holds, so the system's promises are about that
  rw [houtstanding] at promisesRest
  have promises : contract.Promises d.before.handles d.events :=
    (Contract.throughout_append_iff.mp promisesRest).1
  have proper : ∀ e ∈ d.events, e.Proper := fun e he =>
    proper_of_fresh fresh e (List.mem_append_right _ (List.mem_append_left _ he))
  have framed := run.framed proper
  obtain ⟨within, lent⟩ := run.within hslot promises
  refine ⟨?_, ?_, fun g => reached.separate, ?_⟩
  · intro e he h request block hcall
    obtain ⟨s, hs, hwithin⟩ := within e he
    rw [hcall] at hwithin
    obtain ⟨rfl, hevent⟩ := hwithin
    refine ⟨s.grant, reached.owned_iff.mpr (grantAt_of_session hs), rfl, ?_⟩
    exact reached.presents hevent
  · intro before rest h event wait reply heq
    exact (usage_step d.action).composed.wait_follows run heq
  · constructor
    · intro j hj
      refine framed.sessions (fun ha => hj ?_) fun seat => hj (ends_of_seat hslot seat).1
      exact Option.some.inj (ha.symm.trans hslot)
    · exact fun k apart => framed.contexts apart
    · exact fun lasting => framed.grants fun seat => lasting (ends_of_seat hslot seat).2
    · intro k named
      have retains := (step_retains (not_moves_of_batch named)).keeps run (promises_lenient proper)
      exact ⟨lent (by simp [named]), retains.2 k⟩
    · intro e he h hcall
      obtain ⟨s, hs, hwithin⟩ := within e he
      rw [hcall] at hwithin
      exact (reached.owner_of_lets hs hslot hwithin).1
    · intro e he h hcall
      obtain ⟨s, hs, hwithin⟩ := within e he
      rw [hcall] at hwithin
      exact (reached.owner_of_lets hs hslot hwithin).2

namespace Borrowing

def actions : List Action :=
  [.openSession 0 "tcp" .network 0 .none, .openSession 1 "udp" .network 0 .none,
    .createContext 0 0]

def opened : Transcript Scripted.System (List (Outcome Failure Answer) × Client) :=
  (steps {} actions).run Scripted.host { arrivals := [.batch { packets := [[1, 2, 3]] }] }

/-- The second session receives a batch on the context that the first has created. -/
def batch : Deed :=
  .onHost Scripted.host opened.state opened.value.2
    (.recvBatch 1 (List.replicate 8 0) [Address.zero] (some 0))

theorem batch_apart :
    batch.events.map (fun e => e.call.request?) = [some (0x124, 0x130)]
      ∧ ∃ early, Path {} early batch.before ∧ early.map Deed.action = actions
        ∧ (∃ g, Owned 1 g early ∧ g.handle = 0x124) ∧ Kept 0 0x130 early
        ∧ batch.after.sessions.get? 1 = batch.before.sessions.get? 1 := by
  have run : Runs (steps {} actions) opened.events (opened.value.1, opened.value.2) :=
    runs_run _ _ _
  obtain ⟨early, path, hactions, hevents, -⟩ := runs_steps_iff.mp run
  have fresh : Fresh (eventsOf (early ++ [batch])) := by
    have hfresh : Fresh (opened.events ++ batch.events) := by decide +kernel
    rw [eventsOf_concat, eventsOf, hevents]
    exact hfresh
  have presented : batch.events.map (fun e => e.call.request?) = [some (0x124, 0x130)] := by
    decide +kernel
  have whole : Path {} (early ++ [batch]) batch.after := path.concat (Deed.done_onHost _ _ _ _)
  obtain ⟨requests, waits, -, undisturbed⟩ := sessions_kept_apart whole fresh rfl rfl
  obtain ⟨e, rest, hfirst, request, -⟩ := List.map_eq_cons_iff.mp presented
  have he : e ∈ batch.events := hfirst ▸ List.mem_cons_self
  have found : ∃ g, Owned 1 g early ∧ 0x124 = g.handle
      ∧ Presents early batch g 0x130 (.context 0) := by
    obtain ⟨call, reply⟩ := e
    cases call with
    | control h sent block =>
      obtain ⟨hh, hevent⟩ : h = 0x124 ∧ block.event = 0x130 := by
        simpa only [Call.request?, Option.some.injEq, Prod.mk.injEq] using request
      obtain ⟨g, owned, hg, presents⟩ := requests _ he h sent block rfl
      rw [hevent] at presents
      exact ⟨g, owned, hh.symm.trans hg, presents⟩
    | result h event wait =>
      obtain ⟨front, sent, block, taken, hfront, -⟩ := waits [] rest h event wait reply hfirst
      simp at hfront
    | _ => cases request
  obtain ⟨g, owned, hhandle, presents⟩ := found
  have live : (0x130 : Handle) ≠ Handle.null := by decide
  have kept : Kept 0 0x130 early := presents.resolve_right fun released => live released.1
  exact ⟨presented, early, path, hactions, ⟨g, owned, hhandle.symm⟩, kept,
    (undisturbed.lent 0 rfl).1⟩

end Borrowing

end Client

end PacketDiversion
