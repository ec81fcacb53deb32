import PacketDiversion.Proofs.Handles.Frame
import PacketDiversion.Proofs.History
import PacketDiversion.Proofs.Mending.Operations

/-!
# Clients after a panic

Two clients with the same driver, handles and events cannot be told apart by what the system sees of
them. An action that is cut short by a panic leaves a client behind that is the same in this sense
as after a failure (`step_mirrors`), and so the rest of its history is the same (`path_mended`).
-/

namespace PacketDiversion

open Program

/-- An action that may issue requests. -/
def Action.Requests : Action → Prop
  | .check | .enter | .driverVersion | .openSession .. => True
  | .recv .. | .recvBatch .. | .send .. | .sendBatch .. | .relay .. => True
  | .shutdown .. | .getParameter .. | .setParameter .. | .version _ | .control .. => True
  | _ => False

namespace Client

/-- The same driver, and the same handles and events in all slots. The words of the contexts' blocks
may be others. -/
structure Same (c c' : Client) : Prop where
  driver : c'.driver = c.driver
  grants : ∀ k, c'.grantAt k = c.grantAt k
  events : ∀ k, c'.eventAt k = c.eventAt k

variable {c c' : Client}

theorem Same.refl (c : Client) : c.Same c := ⟨rfl, fun _ => rfl, fun _ => rfl⟩

/-! ### Slots -/

theorem Same.session_cases (same : c.Same c') (k : Nat) :
    c.sessions.get? k = none ∧ c'.sessions.get? k = none
      ∨ ∃ s s', c.sessions.get? k = some s ∧ c'.sessions.get? k = some s' ∧ s.Same s' := by
  have hgrant : (c'.sessions.get? k).map Session.grant = (c.sessions.get? k).map Session.grant :=
    same.grants k
  cases hs : c.sessions.get? k with
  | none =>
    rw [hs] at hgrant
    exact .inl ⟨rfl, Option.map_eq_none_iff.mp hgrant⟩
  | some s =>
    rw [hs] at hgrant
    obtain ⟨s', hs', heq⟩ := Option.map_eq_some_iff.mp hgrant
    obtain ⟨hhandle, hreceiving, hsending⟩ := Grant.mk.inj heq
    exact .inr ⟨s, s', rfl, hs', hhandle, hreceiving, hsending⟩

theorem Same.context_cases (same : c.Same c') (k : Nat) :
    c.contexts.get? k = none ∧ c'.contexts.get? k = none
      ∨ ∃ own own', c.contexts.get? k = some own ∧ c'.contexts.get? k = some own'
        ∧ own'.event = own.event := by
  have hevent : (c'.contexts.get? k).map Context.event = (c.contexts.get? k).map Context.event :=
    same.events k
  cases hown : c.contexts.get? k with
  | none =>
    rw [hown] at hevent
    exact .inl ⟨rfl, Option.map_eq_none_iff.mp hevent⟩
  | some own =>
    rw [hown] at hevent
    obtain ⟨own', hown', heq⟩ := Option.map_eq_some_iff.mp hevent
    exact .inr ⟨own, own', rfl, hown', heq⟩

theorem Same.withDriver (same : c.Same c') (driver : Driver) :
    Same { c with driver := driver } { c' with driver := driver } :=
  ⟨rfl, same.grants, same.events⟩

theorem Same.putSession (same : c.Same c') (slot : Nat) {s s' : Session} (alike : s.Same s') :
    (c.putSession slot s).Same (c'.putSession slot s') where
  driver := same.driver
  grants k := by
    by_cases hk : k = slot
    · rw [hk, grantAt_putSession, grantAt_putSession, alike.grant_eq]
    · have other (c : Client) (s : Session) : (c.putSession slot s).grantAt k = c.grantAt k :=
        congrArg (Option.map Session.grant) (Slots.get?_set_of_ne hk c.sessions s)
      rw [other, other, same.grants k]
  events := same.events

theorem Same.putContext (same : c.Same c') (slot : Nat) {own own' : Context}
    (alike : own'.event = own.event) :
    (c.putContext slot own).Same (c'.putContext slot own') where
  driver := same.driver
  grants := same.grants
  events k := by
    by_cases hk : k = slot
    · rw [hk, eventAt_putContext, eventAt_putContext, alike]
    · rw [eventAt_putContext_of_ne hk, eventAt_putContext_of_ne hk, same.events k]

theorem Same.putContext? (same : c.Same c') (slot : Option Nat) {own own' : Option Context}
    (alike : own'.map Context.event = own.map Context.event) :
    (c.putContext? slot own).Same (c'.putContext? slot own') := by
  cases slot with
  | none => exact same
  | some slot =>
    cases own with
    | none =>
      obtain rfl := Option.map_eq_none_iff.mp alike
      exact same
    | some own =>
      obtain ⟨own', rfl, heq⟩ := Option.map_eq_some_iff.mp alike
      exact same.putContext slot heq

theorem Same.eraseSession (same : c.Same c') (slot : Nat) :
    Same { c with sessions := c.sessions.erase slot }
      { c' with sessions := c'.sessions.erase slot } where
  driver := same.driver
  grants k := by
    by_cases hk : k = slot
    · simp only [grantAt, hk, Slots.get?_erase_self]
    · simp only [grantAt, Slots.get?_erase_of_ne hk]
      exact same.grants k
  events := same.events

theorem Same.eraseContext (same : c.Same c') (slot : Nat) :
    Same { c with contexts := c.contexts.erase slot }
      { c' with contexts := c'.contexts.erase slot } where
  driver := same.driver
  grants := same.grants
  events k := by
    by_cases hk : k = slot
    · simp only [eventAt, hk, Slots.get?_erase_self]
    · simp only [eventAt, Slots.get?_erase_of_ne hk]
      exact same.events k

/-! ### Results -/

/-- The same outcome, and the same client. -/
def Agree (r r' : Result) : Prop := r'.1 = r.1 ∧ r.2.Same r'.2

/-- The first unwinds from a panicking call, and leaves the client as the second does. -/
def CutShort (r r' : Result) : Prop := r.1 = .unwound .host ∧ r.2.Same r'.2

theorem report_mirrors {α : Type} {p p' : Program (Outcome SessionError α)} (same : c.Same c')
    (answer : α → Answer) (h : Mirrors (fun r r' => r' = r) Outcome.Cut p p') :
    Mirrors Agree CutShort (p >>= fun outcome => pure (report answer outcome, c))
      (p' >>= fun outcome => pure (report answer outcome, c')) := by
  refine h.map ?_ ?_
  · rintro _ outcome rfl
    exact ⟨rfl, same⟩
  · rintro _ outcome' ⟨rfl, -⟩
    exact ⟨rfl, same⟩

section Slots

variable {T : Result → Result → Prop} (same : c.Same c')
include same

theorem withSession_mirrors (slot : Nat) {act act' : Session → Program Result}
    (h : ∀ s s', s.Same s' → Mirrors Agree T (act s) (act' s')) :
    Mirrors Agree T (c.withSession slot act) (c'.withSession slot act') := by
  unfold withSession
  rcases same.session_cases slot with ⟨hs, hs'⟩ | ⟨s, s', hs, hs', alike⟩
  · rw [hs, hs']
    exact .done ⟨rfl, same⟩
  · rw [hs, hs']
    exact h s s' alike

theorem withContext_mirrors (slot : Nat) {act act' : Context → Program Result}
    (h : ∀ own own' : Context, own'.event = own.event →
      Mirrors Agree T (act own) (act' own')) :
    Mirrors Agree T (c.withContext slot act) (c'.withContext slot act') := by
  unfold withContext
  rcases same.context_cases slot with ⟨hown, hown'⟩ | ⟨own, own', hown, hown', alike⟩
  · rw [hown, hown']
    exact .done ⟨rfl, same⟩
  · rw [hown, hown']
    exact h own own' alike

theorem withContext?_mirrors (slot : Option Nat) {act act' : Option Context → Program Result}
    (h : ∀ own own' : Option Context, own'.map Context.event = own.map Context.event →
      Mirrors Agree T (act own) (act' own')) :
    Mirrors Agree T (c.withContext? slot act) (c'.withContext? slot act') := by
  cases slot with
  | none => exact h none none rfl
  | some slot =>
    exact withContext_mirrors same slot fun own own' alike =>
      h (some own) (some own') (congrArg some alike)

end Slots

/-! ### Actions -/

section Actions

variable {T : Result → Result → Prop} (same : c.Same c')
include same

theorem openSession_mirrors (slot : Nat) (filter : String) (layer : Layer) (priority : Int)
    (flags : Flags) :
    Mirrors Agree CutShort (c.openSession slot filter layer priority flags)
      (c'.openSession slot filter layer priority flags) := by
  unfold openSession
  rcases same.session_cases slot with ⟨hs, hs'⟩ | ⟨s, s', hs, hs', -⟩
  · rw [hs, hs', same.driver]
    refine (c.driver.openSession_mirrors filter layer priority flags).bind ?_ ?_
    · rintro _ ⟨outcome, driver⟩ rfl
      cases outcome with
      | ok s => exact .done ⟨rfl, (same.withDriver driver).putSession slot (.refl s)⟩
      | error e => exact .done ⟨rfl, same.withDriver driver⟩
      | unwound why => exact .done ⟨rfl, same.withDriver driver⟩
    · rintro ⟨outcome, _⟩ ⟨outcome', driver⟩ ⟨cut, rfl⟩
      obtain ⟨rfl, ⟨e, rfl⟩ | ⟨why, rfl⟩⟩ := cut.cases
      · exact .done ⟨rfl, same.withDriver driver⟩
      · exact .done ⟨rfl, same.withDriver driver⟩
  · rw [hs, hs']
    exact .done ⟨rfl, same⟩

theorem createContext_mirrors (k : Nat) :
    Mirrors Agree T (c.createContext k) (c'.createContext k) := by
  refine (Session.createContext_mirrors (T := fun _ _ => False)).bind ?_ fun _ _ => False.elim
  rintro _ made rfl
  cases made with
  | error e => exact .done ⟨rfl, same⟩
  | ok fresh =>
    rcases same.context_cases k with ⟨hown, hown'⟩ | ⟨own, own', hown, hown', alike⟩
    · simp only [hown, hown']
      exact .done ⟨rfl, same.putContext k rfl⟩
    · simp only [hown, hown']
      exact (Context.drop_mirrors (T := fun _ _ => False) alike).bind
        (fun _ _ _ => .done ⟨rfl, same.putContext k rfl⟩) fun _ _ => False.elim

theorem releaseContext_mirrors (k : Nat) :
    Mirrors Agree T (c.step (.releaseContext k)) (c'.step (.releaseContext k)) := by
  refine withContext_mirrors same k fun own own' alike => ?_
  refine (Context.release_mirrors (T := fun _ _ => False) alike).bind ?_ fun _ _ => False.elim
  rintro ⟨_, rest⟩ ⟨answer, rest'⟩ ⟨rfl, gone, gone'⟩
  have left : rest'.event = rest.event := gone'.trans gone.symm
  have kept := same.putContext k left
  dsimp only
  rw [left]
  cases answer with
  | error e => exact .done ⟨rfl, kept⟩
  | ok _ => exact .done ⟨rfl, kept⟩

theorem relay_mirrors (slot limit : Nat) (options : Relay.Options) {s s' : Session}
    (alike : s.Same s') :
    Mirrors Agree CutShort (c.relay slot limit options s) (c'.relay slot limit options s') := by
  refine (Relay.run_mirrors alike limit).bind ?_ ?_
  · rintro ⟨_, t⟩ ⟨ending, t'⟩ ⟨rfl, kept⟩
    have same := same.putSession slot kept
    cases ending with
    | drained stats => exact .done ⟨rfl, same⟩
    | ongoing stats => exact .done ⟨rfl, same⟩
    | failed e => exact .done ⟨rfl, same⟩
    | unwound why => exact .done ⟨rfl, same⟩
  · rintro ⟨_, t⟩ ⟨ending, t'⟩ ⟨rfl, kept⟩
    have same := same.putSession slot kept
    cases ending with
    | drained stats => exact .done ⟨rfl, same⟩
    | ongoing stats => exact .done ⟨rfl, same⟩
    | failed e => exact .done ⟨rfl, same⟩
    | unwound why => exact .done ⟨rfl, same⟩

theorem control_mirrors (handle : Handle) (code : UInt32) (block : Block) (output : Bytes)
    (context : Option Nat) :
    Mirrors Agree CutShort (c.control handle code block output context)
      (c'.control handle code block output context) := by
  unfold control
  refine withContext?_mirrors same context fun own own' alike => ?_
  cases own with
  | none =>
    obtain rfl := Option.map_eq_none_iff.mp alike
    refine Context.issueOnce_mirrors.map ?_ ?_
    · rintro _ r rfl
      exact ⟨rfl, same⟩
    · rintro ⟨_, left⟩ r' ⟨rfl, -⟩
      exact ⟨rfl, same⟩
  | some own =>
    obtain ⟨own', rfl, hevent⟩ := Option.map_eq_some_iff.mp alike
    refine (Context.issue_mirrors hevent).map ?_ ?_
    · rintro _ ended rfl
      exact ⟨rfl, same.putContext? context rfl⟩
    · rintro ended ended' ⟨⟨panicked, -⟩, kept⟩
      refine ⟨?_, same.putContext? context (congrArg some kept)⟩
      simp only [panicked]
      rfl

/-- An action without requests is never cut short. -/
theorem upkeep_mirrors {a : Action} (ha : ¬ a.Requests) :
    Mirrors Agree T (c.step a) (c'.step a) := by
  cases a with
  | isChecked =>
    rw [step, step, same.driver]
    exact .done ⟨rfl, same⟩
  | close slot =>
    refine withSession_mirrors same slot fun s s' alike => ?_
    refine (Session.close_mirrors (T := fun _ _ => False) alike).bind ?_ fun _ _ => False.elim
    rintro _ answer rfl
    exact .done ⟨rfl, same.eraseSession slot⟩
  | drop slot =>
    refine withSession_mirrors same slot fun s s' alike => ?_
    exact (Session.drop_mirrors (T := fun _ _ => False) alike).bind
      (fun _ _ _ => .done ⟨rfl, same.eraseSession slot⟩) fun _ _ => False.elim
  | handle slot =>
    refine withSession_mirrors same slot fun s s' alike => ?_
    rw [alike.handle]
    exact .done ⟨rfl, same⟩
  | createContext slot context =>
    exact withSession_mirrors same slot fun _ _ _ => createContext_mirrors same context
  | contextEvent context =>
    refine withContext_mirrors same context fun own own' alike => ?_
    rw [alike]
    exact .done ⟨rfl, same⟩
  | releaseContext context => exact releaseContext_mirrors same context
  | dropContext context =>
    refine withContext_mirrors same context fun own own' alike => ?_
    exact (Context.drop_mirrors (T := fun _ _ => False) alike).bind
      (fun _ _ _ => .done ⟨rfl, same.eraseContext context⟩) fun _ _ => False.elim
  | _ => exact absurd trivial ha

/-- Every action mirrors itself, from clients that are the same. -/
theorem step_mirrors (a : Action) : Mirrors Agree CutShort (c.step a) (c'.step a) := by
  cases a with
  | check =>
    refine Driver.check_mirrors.bind ?_ ?_
    · rintro _ verdict rfl
      cases verdict with
      | ok entry => exact .done ⟨rfl, same⟩
      | error reason => exact .done ⟨rfl, same⟩
      | unwound why => exact .done ⟨rfl, same⟩
    · intro verdict verdict' cut
      obtain ⟨rfl, ⟨e, rfl⟩ | ⟨why, rfl⟩⟩ := cut.cases
      · exact .done ⟨rfl, same⟩
      · exact .done ⟨rfl, same⟩
  | enter =>
    rw [step, step, same.driver]
    refine c.driver.enter_mirrors.bind ?_ ?_
    · rintro _ ⟨entered, driver⟩ rfl
      cases entered with
      | ok entry => exact .done ⟨rfl, same.withDriver driver⟩
      | error why => exact .done ⟨rfl, same.withDriver driver⟩
    · rintro ⟨_, _⟩ ⟨_, driver⟩ ⟨rfl, ⟨why, rfl⟩, rfl⟩
      exact .done ⟨rfl, same.withDriver driver⟩
  | driverVersion =>
    rw [step, step, same.driver]
    refine c.driver.version_mirrors.map ?_ ?_
    · rintro _ ⟨outcome, driver⟩ rfl
      exact ⟨rfl, same.withDriver driver⟩
    · rintro ⟨_, _⟩ ⟨outcome', driver⟩ ⟨⟨rfl, -⟩, rfl⟩
      exact ⟨rfl, same.withDriver driver⟩
  | openSession slot filter layer priority flags =>
    exact openSession_mirrors same slot filter layer priority flags
  | recv slot buffer address =>
    refine withSession_mirrors same slot fun s s' alike => ?_
    refine (Session.recv_mirrors alike buffer address).map ?_ ?_
    · rintro ⟨_, t⟩ ⟨got, t'⟩ ⟨rfl, kept⟩
      exact ⟨rfl, same.putSession slot kept⟩
    · rintro ⟨⟨_, _, _⟩, t⟩ ⟨got', t'⟩ ⟨⟨rfl, -⟩, kept⟩
      exact ⟨rfl, same.putSession slot kept⟩
  | recvBatch slot buffer records context =>
    refine withSession_mirrors same slot fun s s' alike =>
      withContext?_mirrors same context fun own own' lent => ?_
    refine (Session.recvBatch_mirrors alike lent buffer records).map ?_ ?_
    · rintro ⟨_, t, _⟩ ⟨got, t', _⟩ ⟨rfl, kept, lent⟩
      exact ⟨rfl, (same.putSession slot kept).putContext? context lent⟩
    · rintro ⟨⟨_, _, _⟩, t, _⟩ ⟨got', t', _⟩ ⟨⟨rfl, -⟩, kept, lent⟩
      exact ⟨rfl, (same.putSession slot kept).putContext? context lent⟩
  | send slot data address =>
    refine withSession_mirrors same slot fun s s' alike => ?_
    refine (Session.send_mirrors alike data address).map ?_ ?_
    · rintro ⟨_, t⟩ ⟨outcome, t'⟩ ⟨rfl, kept⟩
      exact ⟨rfl, same.putSession slot kept⟩
    · rintro ⟨_, t⟩ ⟨outcome', t'⟩ ⟨⟨rfl, -⟩, kept⟩
      exact ⟨rfl, same.putSession slot kept⟩
  | sendBatch slot data records context =>
    refine withSession_mirrors same slot fun s s' alike =>
      withContext?_mirrors same context fun own own' lent => ?_
    refine (Session.sendBatch_mirrors alike lent data records).map ?_ ?_
    · rintro ⟨_, t, _⟩ ⟨outcome, t', _⟩ ⟨rfl, kept, lent⟩
      exact ⟨rfl, (same.putSession slot kept).putContext? context lent⟩
    · rintro ⟨_, t, _⟩ ⟨outcome', t', _⟩ ⟨⟨rfl, -⟩, kept, lent⟩
      exact ⟨rfl, (same.putSession slot kept).putContext? context lent⟩
  | shutdown slot how =>
    exact withSession_mirrors same slot fun s s' alike =>
      report_mirrors same _ (Session.shutdown_mirrors alike how)
  | getParameter slot p =>
    exact withSession_mirrors same slot fun s s' alike =>
      report_mirrors same _ (Session.getParameter_mirrors alike p)
  | setParameter slot p value =>
    exact withSession_mirrors same slot fun s s' alike =>
      report_mirrors same _ (Session.setParameter_mirrors alike p value)
  | version slot =>
    exact withSession_mirrors same slot fun s s' alike =>
      report_mirrors same _ (Session.version_mirrors alike)
  | relay slot limit options =>
    exact withSession_mirrors same slot fun s s' alike =>
      relay_mirrors same slot limit options alike
  | control handle code block output context =>
    exact control_mirrors same handle code block output context
  | _ => exact upkeep_mirrors same id

end Actions

/-! ### Histories -/

/-- A deed, and the same action on a system that fails some of the calls that panicked. -/
structure Deed.Mends (d d' : Deed) : Prop where
  action : d'.action = d.action
  before : d.before.Same d'.before
  after : d.after.Same d'.after
  events : List.Forall₂ Event.Mended d.events d'.events
  /-- Where no call panicked, the same calls are made. -/
  calm : Calm d.events → d'.events = d.events
  /-- Where nothing was mended, the action comes to the same. -/
  outcome : d'.events = d.events → d'.outcome = d.outcome

theorem Deed.Done.mended {d : Deed} (run : d.Done) (same : d.before.Same c') {events' : List Event}
    (mended : List.Forall₂ Event.Mended d.events events') :
    ∃ d' : Deed, d'.Done ∧ d'.before = c' ∧ d'.events = events' ∧ d.Mends d' := by
  obtain ⟨⟨outcome', after'⟩, run', how⟩ := step_mirrors same d.action _ _ _ run mended
  have after : d.after.Same after' := how.elim (·.2.2) (·.2.2)
  refine ⟨⟨c', d.action, events', outcome', after'⟩, run', rfl, rfl, rfl, same, after, mended,
    fun calm => calm.eq_of_mended mended, fun heq => ?_⟩
  rcases how with ⟨-, agree⟩ | ⟨differ, -⟩
  · exact agree.1
  · exact absurd heq differ

/-- Whatever is mended in a history, the same actions are done in the same order, and each finds the
client as it was and leaves it as it did. -/
theorem path_mended {last : Client} {deeds : List Deed} {events' : List Event} (same : c.Same c')
    (path : Path c deeds last) (mended : List.Forall₂ Event.Mended (eventsOf deeds) events') :
    ∃ deeds' last', Path c' deeds' last' ∧ eventsOf deeds' = events' ∧ last.Same last'
      ∧ List.Forall₂ Deed.Mends deeds deeds' := by
  induction path generalizing c' events' with
  | nil c =>
    obtain rfl := List.forall₂_nil_left_iff.mp mended
    exact ⟨[], c', .nil c', rfl, same, .nil⟩
  | @cons c d deeds last start run rest ih =>
    subst start
    rw [eventsOf_cons] at mended
    obtain ⟨first, later, rfl, hfirst, hlater⟩ := forall₂_append_left mended
    obtain ⟨d', run', rfl, rfl, mends⟩ := run.mended same hfirst
    obtain ⟨deeds', last', path', rfl, hlast, hdeeds⟩ := ih mends.after hlater
    exact ⟨d' :: deeds', last', .cons rfl run' path', rfl, hlast, .cons mends hdeeds⟩

/-- A panic unwinds through the action. -/
theorem Deed.Done.unwound {d : Deed} (run : d.Done) (panics : ¬ Calm d.events) :
    d.outcome = .unwound .host := by
  obtain ⟨r', cut⟩ := (step_mirrors (.refl d.before) d.action).cut_of_panic run panics
  exact cut.1

theorem Deed.Done.requests {d : Deed} (run : d.Done) (panics : ¬ Calm d.events) :
    d.action.Requests := by
  by_contra upkeep
  have h := upkeep_mirrors (T := fun _ _ => False) (.refl d.before) upkeep
  obtain ⟨r', impossible⟩ := h.cut_of_panic run panics
  exact impossible

end Client

end PacketDiversion
