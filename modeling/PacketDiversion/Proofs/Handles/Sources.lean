import PacketDiversion.Proofs.Handles.Owners
import PacketDiversion.Proofs.Relay.Calls

/-!
# Where requests get their events

An operation of a session issues its requests on the session's handle. Their events come from one of
four places: the session's context for either direction, a context of the caller's, or a context
that the operation makes for the request alone (`Action.source`). An operation releases nothing but
what it made itself, what it closes, and what a new context takes the place of (`within_of_run`).
-/

namespace PacketDiversion

open Program Handles

/-! ### Releases under a condition -/

section Releases

variable {Q : Call → Prop}

theorem Context.release_calls (own : Context)
    (hclose : own.event ≠ Handle.null → Q (.closeHandle own.event)) :
    own.release.Fulfils (.each Q) (fun r _ => r.2.event = Handle.null) () := by
  unfold release
  split
  · exact rfl
  · rename_i live
    exact fulfils_ask_bind.mpr ⟨hclose live, fun _ _ => rfl⟩

namespace Session

theorem releaseContext_calls (handle : Handle) (own : Context)
    (hclose : Q (.closeHandle own.event)) :
    (releaseContext handle own).Fulfils (.each Q) (fun r _ => r.event = Handle.null) () := by
  refine fulfils_bind.mpr ((own.release_calls fun _ => hclose).mono ?_)
  intro r _ released
  obtain ⟨answer, rest⟩ := r
  cases answer with
  | error e => exact released
  | ok _ => exact released

variable (s : Session) (hclose : ∀ h ∈ s.grant.handles, Q (.closeHandle h))
include hclose

theorem release_calls : s.release.Fulfils (.each Q) (fun r _ => r.2.Released) () := by
  have hhandle := hclose s.handle (by simp [grant, Grant.handles])
  have hreceiving := hclose s.receiving.event (by simp [grant, Grant.handles])
  have hsending := hclose s.sending.event (by simp [grant, Grant.handles])
  refine fulfils_bind.mpr ((releaseContext_calls s.handle s.receiving hreceiving).mono ?_)
  intro receiving _ nullReceiving
  refine fulfils_bind.mpr ((releaseContext_calls s.handle s.sending hsending).mono ?_)
  intro sending _ nullSending
  dsimp only
  split
  · exact ⟨rfl, nullReceiving, nullSending⟩
  · refine fulfils_ask_bind.mpr ⟨hhandle, fun answer _ => ?_⟩
    cases answer with
    | error e => exact ⟨rfl, nullReceiving, nullSending⟩
    | ok _ => exact ⟨rfl, nullReceiving, nullSending⟩

theorem drop_calls : s.drop.Fulfils (.each Q) (fun _ _ => True) () := by
  refine fulfils_bind.mpr ((s.release_calls hclose).mono ?_)
  intro r _ released
  obtain ⟨answer, rest⟩ := r
  have hreceiving := Context.drop_of_released released.receiving
  have hsending := Context.drop_of_released released.sending
  simp only [hreceiving, hsending, done_bind]
  cases answer with
  | error e => trivial
  | ok _ => trivial

theorem close_calls : s.close.Fulfils (.each Q) (fun _ _ => True) () := by
  refine fulfils_bind.mpr ((s.release_calls hclose).mono ?_)
  intro r _ released
  obtain ⟨answer, rest⟩ := r
  simp only [drop_of_released released, done_bind]
  trivial

end Session

end Releases

/-! ### Requests on contexts of their own -/

/-- A call of an operation that makes its contexts itself, while `out` is outstanding. -/
def Call.OnOwn (handle : Handle) (out : Multiset Handle) (events : List Event) : Call → Prop
  | .control h _ block =>
    h = handle ∧ block.event ∉ out ∧ block.event ≠ Handle.null
      ∧ ⟨.createEvent, .ok block.event⟩ ∈ events
  | .closeHandle h => h ∉ out
  | _ => True

theorem Call.OnOwn.mono {handle : Handle} {out : Multiset Handle} {events events' : List Event}
    {c : Call} (own : c.OnOwn handle out events) (hsub : events ⊆ events') :
    c.OnOwn handle out events' := by
  cases c with
  | control h request block =>
    obtain ⟨hhandle, apart, live, created⟩ := own
    exact ⟨hhandle, apart, live, hsub created⟩
  | _ => exact own

/-- Requests one after the other, each on a context of its own. -/
inductive Singles (handle : Handle) : List Event → Prop
  | nil : Singles handle []
  | cons {request : Request} {events rest : List Event} {done : Completion}
      (single : Single handle request events done) (later : Singles handle rest) :
      Singles handle (events ++ rest)

section Singles

variable {handle : Handle} {request : Request} {events : List Event} {out : Multiset Handle}

theorem Single.singles {done : Completion} (single : Single handle request events done) :
    Singles handle events := by
  have h := Singles.cons single .nil
  rwa [List.append_nil] at h

theorem Singles.append {rest : List Event} (singles : Singles handle events)
    (later : Singles handle rest) : Singles handle (events ++ rest) := by
  induction singles with
  | nil => exact later
  | cons single _ ih =>
    rw [List.append_assoc]
    exact .cons single ih

theorem Exchange.after_eq {block : Overlapped} {done : Completion}
    (exchange : Exchange handle request block events done) : contract.after out events = out := by
  cases exchange with
  | atOnce hpending => rfl
  | later hpending => rfl

/-- A request on a context of its own leaves the ledger as it was, and its event is nobody's. -/
theorem Single.onOwn {done : Completion} (single : Single handle request events done)
    (promises : contract.Promises out events) :
    contract.after out events = out ∧ ∀ e ∈ events, e.call.OnOwn handle out events := by
  cases single with
  | noEvent e =>
    refine ⟨rfl, fun e he => ?_⟩
    rw [List.mem_singleton.mp he]
    trivial
  | @onEvent event requests freed done exchange hfreed =>
    obtain ⟨⟨live, fresh⟩, -⟩ := Contract.throughout_cons_iff.mp promises
    have apart : event ∉ out := fresh event rfl
    have hmine : ∀ e ∈ requests, e.call.OnOwn handle out
        (⟨.createEvent, .ok event⟩ :: (requests ++ freed)) := by
      intro e he
      cases exchange with
      | atOnce hpending =>
        rw [List.mem_singleton.mp he]
        exact ⟨rfl, apart, live, List.mem_cons_self⟩
      | later hpending =>
        rcases List.mem_cons.mp he with rfl | he
        · exact ⟨rfl, apart, live, List.mem_cons_self⟩
        · rw [List.mem_singleton.mp he]
          trivial
    cases hfreed with
    | absent null => exact absurd null live
    | released _ answer =>
      constructor
      · have hclosed : record (event ::ₘ out) ⟨.closeHandle event, answer⟩ = out :=
          Multiset.erase_cons_head event out
        rw [Contract.after_cons, Contract.after_append]
        change contract.after (contract.after (event ::ₘ out) requests) _ = out
        rw [exchange.after_eq]
        exact hclosed
      · intro e he
        rcases List.mem_cons.mp he with rfl | he
        · trivial
        · rcases List.mem_append.mp he with he | he
          · exact hmine e he
          · rw [List.mem_singleton.mp he]
            exact apart

theorem Singles.onOwn (singles : Singles handle events) (promises : contract.Promises out events) :
    ∀ e ∈ events, e.call.OnOwn handle out events := by
  induction singles with
  | nil => exact fun e he => absurd he List.not_mem_nil
  | @cons request events rest done single later ih =>
    obtain ⟨hfirst, hlater⟩ := Contract.throughout_append_iff.mp promises
    obtain ⟨same, own⟩ := single.onOwn hfirst
    -- the first request leaves outstanding what was, so the promises to the others are about that
    rw [same] at hlater
    intro e he
    rcases List.mem_append.mp he with he | he
    · exact (own e he).mono (List.subset_append_left events rest)
    · exact (ih hlater e he).mono (List.subset_append_right events rest)

end Singles

namespace Session

variable {s : Session} {events : List Event}

theorem singles_of_shutdown {how : Direction} {outcome : Outcome SessionError Unit}
    (run : Runs (s.shutdown how) events outcome) : Singles s.handle events := by
  obtain ⟨done, single, -⟩ := runs_shutdown_iff.mp run
  exact single.singles

theorem singles_of_getParameter {p : Parameter} {outcome : Outcome SessionError UInt64}
    (run : Runs (s.getParameter p) events outcome) : Singles s.handle events := by
  obtain ⟨done, single, -⟩ := runs_getParameter_iff.mp run
  exact single.singles

theorem singles_of_setParameter {p : Parameter} {value : UInt64}
    {outcome : Outcome SessionError Unit}
    (run : Runs (s.setParameter p value) events outcome) : Singles s.handle events := by
  rcases runs_setParameter_iff.mp run with ⟨e, -, rfl, -⟩ | ⟨-, done, single, -⟩
  · exact .nil
  · exact single.singles

theorem singles_of_version {outcome : Outcome SessionError Version}
    (run : Runs s.version events outcome) : Singles s.handle events := by
  obtain ⟨major, before, after, rfl, hmajor, run⟩ := runs_bind_iff.mp run
  have first := singles_of_getParameter hmajor
  have second : Singles s.handle after := by
    cases major with
    | error e => exact (runs_done_iff.mp run).1 ▸ .nil
    | unwound why => exact (runs_done_iff.mp run).1 ▸ .nil
    | ok value =>
      obtain ⟨minor, before, after, rfl, hminor, run⟩ := runs_bind_iff.mp run
      have hafter : after = [] := by
        cases minor with
        | ok _ => exact (runs_done_iff.mp run).1
        | error e => exact (runs_done_iff.mp run).1
        | unwound why => exact (runs_done_iff.mp run).1
      rw [hafter, List.append_nil]
      exact singles_of_getParameter hminor
  exact first.append second

end Session

/-! ### The source of an event -/

/-- Where the event of a request comes from. -/
inductive Source
  | receiving
  | sending
  /-- A context of the caller's, in this slot. -/
  | context (k : Nat)
  /-- A context of the request's own. -/
  | own
  deriving DecidableEq, Repr

/-- The source that an operation takes the event of a request from. -/
def Action.source (request : Request) : Action → Source
  | .recv .. | .recvBatch _ _ _ none => .receiving
  | .send .. | .sendBatch _ _ _ none => .sending
  | .recvBatch _ _ _ (some k) | .sendBatch _ _ _ (some k) => .context k
  | .relay .. => if request.code = RequestCode.send then .sending else .receiving
  | _ => .own

namespace Client

/-- What an operation of a session may release of what there is: what it closes, or the context
that a new one replaces. -/
def Lets (c : Client) (s : Session) (h : Handle) : Action → Prop
  | .close _ | .drop _ => h ∈ s.grant.handles
  | .createContext _ k => c.eventAt k = some h ∧ h ≠ Handle.null
  | _ => False

/-- The event that an operation of a session finds at a source, if it makes these events. -/
def Sourced (c : Client) (s : Session) (events : List Event) (event : Handle) : Source → Prop
  | .receiving => event = s.receiving.event
  | .sending => event = s.sending.event
  | .context k => c.eventAt k = some event
  | .own =>
    event ∉ c.handles ∧ event ≠ Handle.null ∧ ⟨.createEvent, .ok event⟩ ∈ events

/-- A call within the bounds of an operation of a session that makes these events. -/
def Within (c : Client) (a : Action) (s : Session) (events : List Event) : Call → Prop
  | .control h request block => h = s.handle ∧ c.Sourced s events block.event (a.source request)
  | .closeHandle h => c.Lets s h a ∨ h ∉ c.handles
  | _ => True

variable {c : Client} {s : Session} {events : List Event}

theorem within_of_onOwn {a : Action} (hsource : ∀ request, a.source request = .own) {call : Call}
    (own : call.OnOwn s.handle c.handles events) : c.Within a s events call := by
  cases call with
  | control h request block =>
    obtain ⟨hhandle, made⟩ := own
    refine ⟨hhandle, ?_⟩
    rw [hsource request]
    exact made
  | closeHandle h => exact .inr own
  | _ => trivial

/-! ### Operations -/

/-- An action that is lent a caller's context leaves the session in a slot as it was. -/
def Lent (c : Client) (a : Action) (slot : Nat) (r : Result) : Prop :=
  a.batchContext? ≠ none → r.2.sessions.get? slot = c.sessions.get? slot

/-- A program that makes its contexts itself, and ends with an answer. -/
theorem singles_within {a : Action} (hsource : ∀ request, a.source request = .own) {α : Type}
    {go : Program α} {f : α → Result} {r : Result}
    (singles : ∀ {events value}, Runs go events value → Singles s.handle events)
    (run : Runs (go >>= fun value => pure (f value)) events r)
    (promises : contract.Promises c.handles events) :
    ∀ e ∈ events, c.Within a s events e.call := by
  obtain ⟨value, before, after, rfl, hgo, run⟩ := runs_bind_iff.mp run
  rw [(runs_done_iff.mp run).1, List.append_nil] at promises ⊢
  intro e he
  exact within_of_onOwn hsource ((singles hgo).onOwn promises e he)

section Operations

variable {slot : Nat} (hs : c.sessions.get? slot = some s)
include hs

theorem lent_putSession {a : Action} {t : Session} (same : a.batchContext? ≠ none → t = s)
    (outcome : Outcome Failure Answer) (context : Option Nat) (own : Option Context) :
    c.Lent a slot (outcome, (c.putSession slot t).putContext? context own) := by
  intro lent
  dsimp only
  rw [sessions_putContext?, same lent, hs]
  exact Slots.get?_set_self c.sessions slot s

theorem recvBatch_within (buffer : Bytes) (records : List Address) (context : Option Nat) :
    (c.step (.recvBatch slot buffer records context)).Fulfils
      (.each (c.Within (.recvBatch slot buffer records context) s events))
      (fun r _ => c.Lent (.recvBatch slot buffer records context) slot r) () := by
  rw [step, withSession_of_some hs]
  cases context with
  | none =>
    have hcontrol : c.Within (.recvBatch slot buffer records none) s events
        (.control s.handle (.receive records.length buffer.length)
          s.receiving.prepare.overlapped) := ⟨rfl, rfl⟩
    refine fulfils_bind.mpr ((s.recvBatch_calls buffer records none hcontrol trivial).mono ?_)
    intro r _ kept
    exact lent_putSession hs (fun lent => absurd rfl lent) _ none r.2.2
  | some k =>
    rw [withContext?, withContext]
    cases hown : c.contexts.get? k with
    | none => exact fun _ => rfl
    | some own =>
      have hevent : c.eventAt k = some own.event := congrArg (Option.map Context.event) hown
      have hcontrol : c.Within (.recvBatch slot buffer records (some k)) s events
          (.control s.handle (.receive records.length buffer.length) own.prepare.overlapped) :=
        ⟨rfl, hevent⟩
      refine fulfils_bind.mpr
        ((s.recvBatch_calls buffer records (some own) hcontrol trivial).mono ?_)
      intro r _ kept
      exact lent_putSession hs (fun _ => kept.2.1 (Option.some_ne_none own)) _ (some k) r.2.2

theorem sendBatch_within (data : Bytes) (records : List Address) (context : Option Nat) :
    (c.step (.sendBatch slot data records context)).Fulfils
      (.each (c.Within (.sendBatch slot data records context) s events))
      (fun r _ => c.Lent (.sendBatch slot data records context) slot r) () := by
  rw [step, withSession_of_some hs]
  cases context with
  | none =>
    have hcontrol : c.Within (.sendBatch slot data records none) s events
        (.control s.handle (.inject data records) s.sending.prepare.overlapped) := ⟨rfl, rfl⟩
    refine fulfils_bind.mpr ((s.sendBatch_calls data records none hcontrol trivial).mono ?_)
    intro r _ kept
    exact lent_putSession hs (fun lent => absurd rfl lent) _ none r.2.2
  | some k =>
    rw [withContext?, withContext]
    cases hown : c.contexts.get? k with
    | none => exact fun _ => rfl
    | some own =>
      have hevent : c.eventAt k = some own.event := congrArg (Option.map Context.event) hown
      have hcontrol : c.Within (.sendBatch slot data records (some k)) s events
          (.control s.handle (.inject data records) own.prepare.overlapped) := ⟨rfl, hevent⟩
      refine fulfils_bind.mpr
        ((s.sendBatch_calls data records (some own) hcontrol trivial).mono ?_)
      intro r _ kept
      exact lent_putSession hs (fun _ => kept.2 (Option.some_ne_none own)) _ (some k) r.2.2

theorem relay_within {limit : Nat} {options : Relay.Options} {r : Result}
    (run : Runs (c.step (.relay slot limit options)) events r) :
    ∀ e ∈ events, c.Within (.relay slot limit options) s events e.call := by
  rw [step, withSession_of_some hs] at run
  obtain ⟨⟨ending, t⟩, before, after, rfl, hrelay, run⟩ := runs_bind_iff.mp run
  have hafter : after = [] := by
    cases ending with
    | drained stats => exact (runs_done_iff.mp run).1
    | ongoing stats => exact (runs_done_iff.mp run).1
    | failed e => exact (runs_done_iff.mp run).1
    | unwound why => exact (runs_done_iff.mp run).1
  intro e he
  rw [hafter, List.append_nil] at he
  have asks := ((Relay.run_calls limit s options).calls hrelay).1 e he
  generalize e.call = call at asks
  cases asks with
  | receive hevent => exact ⟨rfl, hevent⟩
  | inject passes hdata some hrecords hevent => exact ⟨rfl, hevent⟩
  | awaitReceive => trivial
  | awaitInject passes => trivial

theorem createContext_within {k : Nat} {r : Result}
    (run : Runs (c.step (.createContext slot k)) events r) :
    ∀ e ∈ events, c.Within (.createContext slot k) s events e.call := by
  rw [step, withSession_of_some hs] at run
  obtain ⟨made, before, after, rfl, hmade, run⟩ := runs_bind_iff.mp run
  -- once the event is there, only the context that was in the slot may be let go
  have hafter : after = [] ∨ ∃ old, c.contexts.get? k = some old ∧ Freed old.event after := by
    rcases Session.event_of_createContext hmade with ⟨source, -, rfl⟩ | ⟨event, -, rfl⟩
    · exact .inl (runs_done_iff.mp run).1
    · dsimp only at run
      split at run
      · rename_i old hold
        obtain ⟨⟨⟩, dropped, rest, rfl, hdrop, run⟩ := runs_bind_iff.mp run
        rw [(runs_done_iff.mp run).1, List.append_nil]
        exact .inr ⟨old, hold, Context.freed_of_drop hdrop⟩
      · exact .inl (runs_done_iff.mp run).1
  have hbefore : ∃ reply, before = [⟨.createEvent, reply⟩] := by
    rcases Session.event_of_createContext hmade with ⟨source, hcreate, -⟩ | ⟨event, hcreate, -⟩
    · exact ⟨_, hcreate⟩
    · exact ⟨_, hcreate⟩
  intro e he
  rcases List.mem_append.mp he with he | he
  · obtain ⟨reply, rfl⟩ := hbefore
    rw [List.mem_singleton.mp he]
    trivial
  · rcases hafter with rfl | ⟨old, hold, freed⟩
    · cases he
    · cases freed with
      | absent null => cases he
      | released live answer =>
        rw [List.mem_singleton.mp he]
        exact .inl ⟨congrArg (Option.map Context.event) hold, live⟩

theorem close_within {r : Result} (run : Runs (c.step (.close slot)) events r) :
    ∀ e ∈ events, c.Within (.close slot) s events e.call := by
  rw [step, withSession_of_some hs] at run
  obtain ⟨answer, closed, rest, rfl, hclosed, run⟩ := runs_bind_iff.mp run
  rw [(runs_done_iff.mp run).1, List.append_nil]
  exact ((s.close_calls fun h hh => .inl hh).calls hclosed).1

theorem drop_within {r : Result} (run : Runs (c.step (.drop slot)) events r) :
    ∀ e ∈ events, c.Within (.drop slot) s events e.call := by
  rw [step, withSession_of_some hs] at run
  obtain ⟨⟨⟩, dropped, rest, rfl, hdropped, run⟩ := runs_bind_iff.mp run
  rw [(runs_done_iff.mp run).1, List.append_nil]
  exact ((s.drop_calls fun h hh => .inl hh).calls hdropped).1

theorem recv_within {buffer : Bytes} {address : Address} {r : Result}
    (run : Runs (c.step (.recv slot buffer address)) events r) :
    ∀ e ∈ events, c.Within (.recv slot buffer address) s events e.call := by
  rw [step, withSession_of_some hs] at run
  obtain ⟨⟨got, t⟩, received, rest, rfl, hrecv, run⟩ := runs_bind_iff.mp run
  rw [(runs_done_iff.mp run).1, List.append_nil]
  obtain ⟨ended, issued, last, rfl, hissue, hrecv⟩ := runs_bind_iff.mp hrecv
  rw [(runs_done_iff.mp hrecv).1, List.append_nil]
  exact ((s.receiving.issue_calls _ ⟨rfl, rfl⟩ trivial).calls hissue).1

theorem send_within {data : Bytes} {address : Address} {r : Result}
    (run : Runs (c.step (.send slot data address)) events r) :
    ∀ e ∈ events, c.Within (.send slot data address) s events e.call := by
  rw [step, withSession_of_some hs] at run
  obtain ⟨⟨outcome, t⟩, sent, rest, rfl, hsend, run⟩ := runs_bind_iff.mp run
  rw [(runs_done_iff.mp run).1, List.append_nil]
  obtain ⟨ended, issued, last, rfl, hissue, hsend⟩ := runs_bind_iff.mp hsend
  rw [(runs_done_iff.mp hsend).1, List.append_nil]
  exact ((s.sending.issue_calls _ ⟨rfl, rfl⟩ trivial).calls hissue).1

/-- Every operation of a session keeps within its bounds. -/
theorem within_of_run {a : Action} (ha : a.session? = some slot) {r : Result}
    (run : Runs (c.step a) events r) (promises : contract.Promises c.handles events) :
    (∀ e ∈ events, c.Within a s events e.call) ∧ c.Lent a slot r := by
  have unlent (h : a.batchContext? = none) : c.Lent a slot r := fun lent => absurd h lent
  cases a with
  | close k =>
    obtain rfl : k = slot := Option.some.inj ha
    exact ⟨close_within hs run, unlent rfl⟩
  | drop k =>
    obtain rfl : k = slot := Option.some.inj ha
    exact ⟨drop_within hs run, unlent rfl⟩
  | handle k =>
    obtain rfl : k = slot := Option.some.inj ha
    rw [step, withSession_of_some hs] at run
    rw [(runs_done_iff.mp run).1]
    exact ⟨fun e he => absurd he List.not_mem_nil, unlent rfl⟩
  | createContext k context =>
    obtain rfl : k = slot := Option.some.inj ha
    exact ⟨createContext_within hs run, unlent rfl⟩
  | recv k buffer address =>
    obtain rfl : k = slot := Option.some.inj ha
    exact ⟨recv_within hs run, unlent rfl⟩
  | recvBatch k buffer records context =>
    obtain rfl : k = slot := Option.some.inj ha
    exact (recvBatch_within hs buffer records context).calls run
  | send k data address =>
    obtain rfl : k = slot := Option.some.inj ha
    exact ⟨send_within hs run, unlent rfl⟩
  | sendBatch k data records context =>
    obtain rfl : k = slot := Option.some.inj ha
    exact (sendBatch_within hs data records context).calls run
  | shutdown k how =>
    obtain rfl : k = slot := Option.some.inj ha
    rw [step, withSession_of_some hs] at run
    exact ⟨singles_within (fun _ => rfl) Session.singles_of_shutdown run promises, unlent rfl⟩
  | getParameter k p =>
    obtain rfl : k = slot := Option.some.inj ha
    rw [step, withSession_of_some hs] at run
    exact ⟨singles_within (fun _ => rfl) Session.singles_of_getParameter run promises, unlent rfl⟩
  | setParameter k p value =>
    obtain rfl : k = slot := Option.some.inj ha
    rw [step, withSession_of_some hs] at run
    exact ⟨singles_within (fun _ => rfl) Session.singles_of_setParameter run promises, unlent rfl⟩
  | version k =>
    obtain rfl : k = slot := Option.some.inj ha
    rw [step, withSession_of_some hs] at run
    exact ⟨singles_within (fun _ => rfl) Session.singles_of_version run promises, unlent rfl⟩
  | relay k limit options =>
    obtain rfl : k = slot := Option.some.inj ha
    exact ⟨relay_within hs run, unlent rfl⟩
  | _ => cases ha

end Operations

end Client

end PacketDiversion
