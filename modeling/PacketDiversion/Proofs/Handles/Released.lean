import PacketDiversion.Proofs.Handles.Client
import PacketDiversion.Proofs.History
import PacketDiversion.Proofs.Since

/-!
# Contexts that were released

A context in a slot of a client has its event until it is released, and a released one stays
without an event until another context takes its slot (`null_iff_released`). This is read off the
deeds: each of them leaves the event of a slot alone, or releases it, or puts a fresh one there, or
empties the slot (`Treated`).
-/

namespace PacketDiversion

open Program

/-! ### Whatever the system answers -/

namespace Handles

/-- The contract that asks nothing of the program, with a system that hands out proper handles. -/
def lenient : Contract Unit where
  next _ _ := ()
  Promised _ e := e.Proper
  Owed _ _ := True

/-- Books with nothing written in them. -/
def blank : Books lenient where
  Shows _ _ := True
  Spare _ := True
  owes _ _ := trivial
  grants _ promised h := ⟨promised.sentinel h, trivial⟩
  releases _ _ _ := trivial
  keeps _ _ _ := trivial

variable {α β : Type}

theorem lenient_fulfils (p : Program α) : p.Fulfils lenient (fun _ _ => True) () := by
  induction p with
  | done value => exact trivial
  | call c next ih => exact ⟨trivial, fun reply _ => ih reply⟩
  | note n rest ih => exact ih

/-- What holds after a program with any value holds after the program. -/
theorem lenient_bind {p : Program α} {f : α → Program β} {post : β → Unit → Prop}
    (h : ∀ value, (f value).Fulfils lenient post ()) : (p >>= f).Fulfils lenient post () :=
  fulfils_bind.mpr ((lenient_fulfils p).mono fun value _ _ => h value)

theorem promises_lenient {events : List Event} (proper : ∀ e ∈ events, e.Proper) :
    lenient.Promises () events := by
  intro before e rest heq
  exact proper e (heq ▸ List.mem_append_right before List.mem_cons_self)

end Handles

open Handles

/-- An action that puts a context into a slot, releases it there or takes it out. -/
def Action.Moves : Action → Prop
  | .createContext .. | .releaseContext _ | .dropContext _ => True
  | _ => False

namespace Client

/-- The event of the context in a slot. -/
def eventAt (c : Client) (k : Nat) : Option Handle := (c.contexts.get? k).map Context.event

variable {c : Client}

theorem eventAt_putContext (c : Client) (k : Nat) (own : Context) :
    (c.putContext k own).eventAt k = some own.event :=
  congrArg (Option.map Context.event) (Slots.get?_set_self c.contexts k own)

theorem eventAt_putContext_of_ne {j k : Nat} (h : k ≠ j) (c : Client) (own : Context) :
    (c.putContext j own).eventAt k = c.eventAt k :=
  congrArg (Option.map Context.event) (Slots.get?_set_of_ne h c.contexts own)

/-! ### Actions that move no context -/

/-- Every context has the event that it had. -/
def Retains (c : Client) (r : Result) : Prop := ∀ k, r.2.eventAt k = c.eventAt k

theorem retains_of_contexts {r : Result} (same : r.2.contexts = c.contexts) : c.Retains r :=
  fun k => congrArg (fun contexts => (contexts.get? k).map Context.event) same

theorem withSession_retains (slot : Nat) {act : Session → Program Result}
    (h : ∀ s, (act s).Fulfils lenient (fun r _ => c.Retains r) ()) :
    (c.withSession slot act).Fulfils lenient (fun r _ => c.Retains r) () := by
  unfold withSession
  split
  · exact fun _ => rfl
  · exact h _

theorem withContext?_retains (slot : Option Nat) {act : Option Context → Program Result}
    (h : ∀ own, c.Lends slot own → (act own).Fulfils lenient (fun r _ => c.Retains r) ()) :
    (c.withContext? slot act).Fulfils lenient (fun r _ => c.Retains r) () := by
  cases slot with
  | none => exact h none .nothing
  | some slot =>
    rw [withContext?, withContext]
    cases hown : c.contexts.get? slot with
    | none => exact fun _ => rfl
    | some own => exact h _ (.context hown)

/-- A borrowed context that comes back with the event that it had changes nothing. -/
theorem Lends.eventAt_eq {slot : Option Nat} {own rest : Option Context}
    (lends : c.Lends slot own) (same : rest.map Context.event = own.map Context.event) (k : Nat) :
    (c.putContext? slot rest).eventAt k = c.eventAt k := by
  cases lends with
  | nothing => rfl
  | @context slot own hown =>
    cases rest with
    | none => cases same
    | some rest =>
      change (c.putContext slot rest).eventAt k = c.eventAt k
      by_cases hk : k = slot
      · subst hk
        rw [eventAt_putContext, eventAt, hown]
        exact same
      · exact eventAt_putContext_of_ne hk c rest

theorem openSession_retains (slot : Nat) (filter : String) (layer : Layer) (priority : Int)
    (flags : Flags) :
    (c.openSession slot filter layer priority flags).Fulfils lenient (fun r _ => c.Retains r)
      () := by
  unfold openSession
  split
  · exact fun _ => rfl
  · refine lenient_bind fun r => ?_
    obtain ⟨outcome, driver⟩ := r
    cases outcome with
    | ok s => exact fun _ => rfl
    | error e => exact fun _ => rfl
    | unwound why => exact fun _ => rfl

theorem relay_retains (slot limit : Nat) (options : Relay.Options) (s : Session) :
    (c.relay slot limit options s).Fulfils lenient (fun r _ => c.Retains r) () := by
  refine lenient_bind fun r => ?_
  obtain ⟨ending, t⟩ := r
  cases ending with
  | drained stats => exact fun _ => rfl
  | ongoing stats => exact fun _ => rfl
  | failed e => exact fun _ => rfl
  | unwound why => exact fun _ => rfl

theorem control_retains (handle : Handle) (code : UInt32) (block : Block) (output : Bytes)
    (context : Option Nat) :
    (c.control handle code block output context).Fulfils lenient (fun r _ => c.Retains r) () := by
  unfold control
  refine withContext?_retains context fun own lends => ?_
  cases own with
  | none => exact lenient_bind fun _ _ => rfl
  | some own =>
    have shows : blank.Shows () {⟨.session, handle⟩} := trivial
    refine fulfils_bind.mpr ((Context.issue_booked blank own _ _ shows
      (Multiset.mem_singleton_self _) (.inr trivial)).mono ?_)
    intro ended _ same
    exact lends.eventAt_eq (congrArg some same.1)

theorem step_retains {a : Action} (apart : ¬ a.Moves) :
    (c.step a).Fulfils lenient (fun r _ => c.Retains r) () := by
  cases a with
  | check =>
    refine lenient_bind fun r => ?_
    cases r with
    | ok entry => exact retains_of_contexts rfl
    | error reason => exact retains_of_contexts rfl
    | unwound why => exact retains_of_contexts rfl
  | enter =>
    refine lenient_bind fun r => ?_
    obtain ⟨entered, driver⟩ := r
    cases entered with
    | ok entry => exact retains_of_contexts rfl
    | error why => exact retains_of_contexts rfl
  | isChecked => exact fun _ => rfl
  | driverVersion => exact lenient_bind fun _ _ => rfl
  | openSession slot filter layer priority flags =>
    exact openSession_retains slot filter layer priority flags
  | close slot => exact withSession_retains slot fun s => lenient_bind fun _ _ => rfl
  | drop slot => exact withSession_retains slot fun s => lenient_bind fun _ _ => rfl
  | handle slot => exact withSession_retains slot fun s _ => rfl
  | createContext slot context => exact absurd trivial apart
  | contextEvent context =>
    rw [step, withContext]
    split
    · exact fun _ => rfl
    · exact fun _ => rfl
  | releaseContext context => exact absurd trivial apart
  | dropContext context => exact absurd trivial apart
  | recv slot buffer address =>
    exact withSession_retains slot fun s => lenient_bind fun _ _ => rfl
  | recvBatch slot buffer records context =>
    refine withSession_retains slot fun s => withContext?_retains context fun own lends => ?_
    refine fulfils_bind.mpr ((Session.recvBatch_booked blank s le_rfl trivial buffer records
      fun _ _ => .inr trivial).mono ?_)
    intro r _ ended
    obtain ⟨_, t, rest⟩ := r
    exact (lends.putSession slot t).eventAt_eq ended.1.2
  | send slot data address =>
    exact withSession_retains slot fun s => lenient_bind fun _ _ => rfl
  | sendBatch slot data records context =>
    refine withSession_retains slot fun s => withContext?_retains context fun own lends => ?_
    refine fulfils_bind.mpr ((Session.sendBatch_booked blank s le_rfl trivial data records
      fun _ _ => .inr trivial).mono ?_)
    intro r _ ended
    obtain ⟨_, t, rest⟩ := r
    exact (lends.putSession slot t).eventAt_eq ended.1.2
  | shutdown slot how => exact withSession_retains slot fun s => lenient_bind fun _ _ => rfl
  | getParameter slot p => exact withSession_retains slot fun s => lenient_bind fun _ _ => rfl
  | setParameter slot p value =>
    exact withSession_retains slot fun s => lenient_bind fun _ _ => rfl
  | version slot => exact withSession_retains slot fun s => lenient_bind fun _ _ => rfl
  | relay slot limit options =>
    exact withSession_retains slot fun s => relay_retains slot limit options s
  | control handle code block output context =>
    exact control_retains handle code block output context

/-! ### What becomes of a slot -/

/-- The action has put a new context into the slot. -/
def Creates (k : Nat) (a : Action) (outcome : Outcome Failure Answer) : Prop :=
  (∃ slot, a = .createContext slot k) ∧ ∃ answer, outcome = .ok answer

/-- What an action makes of the context in a slot. -/
inductive Treated (c : Client) (a : Action) (k : Nat) (r : Result) : Prop
  | kept (same : r.2.eventAt k = c.eventAt k) (apart : a ≠ .releaseContext k)
    (old : ¬ Creates k a r.1)
  | released (ha : a = .releaseContext k) (without : ∀ h ∈ r.2.eventAt k, h = Handle.null)
  | created (creates : Creates k a r.1) (live : ∀ h ∈ r.2.eventAt k, h ≠ Handle.null)
  | gone (none : r.2.eventAt k = none)

theorem Retains.treated {a : Action} {r : Result} (apart : ¬ a.Moves) (retains : c.Retains r)
    (k : Nat) : Treated c a k r := by
  refine .kept (retains k) ?_ ?_
  · rintro rfl
    exact apart trivial
  · rintro ⟨⟨slot, rfl⟩, -⟩
    exact apart trivial

theorem createContext_treated (slot context k : Nat) :
    (c.step (.createContext slot context)).Fulfils lenient
      (fun r _ => Treated c (.createContext slot context) k r) () := by
  have failed (outcome : Outcome Failure Answer) (h : ∀ answer, outcome ≠ .ok answer) :
      Treated c (.createContext slot context) k (outcome, c) := by
    refine .kept rfl nofun ?_
    rintro ⟨-, answer, hanswer⟩
    exact h answer hanswer
  have succeeded (fresh : Context) (live : fresh.event ≠ Handle.null) :
      Treated c (.createContext slot context) k
        (.ok (.handle fresh.event), c.putContext context fresh) := by
    by_cases hk : k = context
    · subst hk
      refine .created ⟨⟨slot, rfl⟩, _, rfl⟩ ?_
      intro h hh
      rw [eventAt_putContext] at hh
      cases hh
      exact live
    · refine .kept (eventAt_putContext_of_ne hk c fresh) nofun ?_
      rintro ⟨⟨_, heq⟩, -⟩
      cases heq
      exact hk rfl
  rw [step, withSession]
  split
  · exact failed _ nofun
  · have shows : blank.Shows () 0 := trivial
    refine fulfils_bind.mpr ((Session.createContext_booked blank shows).mono ?_)
    intro made _ sound
    cases made with
    | error e => exact failed _ nofun
    | ok fresh =>
      have live : fresh.event ≠ Handle.null := sound.1
      dsimp only
      split
      · exact lenient_bind fun _ => succeeded fresh live
      · exact succeeded fresh live

theorem releaseContext_treated (context k : Nat) :
    (c.step (.releaseContext context)).Fulfils lenient
      (fun r _ => Treated c (.releaseContext context) k r) () := by
  have apart (h : k ≠ context) (outcome : Outcome Failure Answer) (next : Client)
      (same : next.eventAt k = c.eventAt k) :
      Treated c (.releaseContext context) k (outcome, next) := by
    refine .kept same ?_ ?_
    · intro heq
      cases heq
      exact h rfl
    · rintro ⟨⟨_, heq⟩, -⟩
      cases heq
  rw [step, withContext]
  cases hown : c.contexts.get? context with
  | none =>
    by_cases hk : k = context
    · subst hk
      exact .gone (congrArg (Option.map Context.event) hown)
    · exact apart hk _ c rfl
  | some own =>
    have shows : blank.Shows () (own.tokens + 0) := trivial
    refine fulfils_bind.mpr ((Context.release_booked blank own shows).mono ?_)
    intro r _ released
    obtain ⟨answer, rest⟩ := r
    have hevent : rest.event = Handle.null := released.1
    have treated (outcome : Outcome Failure Answer) :
        Treated c (.releaseContext context) k (outcome, c.putContext context rest) := by
      by_cases hk : k = context
      · subst hk
        refine .released rfl ?_
        intro h hh
        rw [eventAt_putContext] at hh
        cases hh
        exact hevent
      · exact apart hk _ _ (eventAt_putContext_of_ne hk c rest)
    cases answer with
    | error e => exact treated _
    | ok _ => exact treated _

theorem dropContext_treated (context k : Nat) :
    (c.step (.dropContext context)).Fulfils lenient
      (fun r _ => Treated c (.dropContext context) k r) () := by
  have apart (outcome : Outcome Failure Answer) (next : Client)
      (same : next.eventAt k = c.eventAt k) :
      Treated c (.dropContext context) k (outcome, next) := by
    refine .kept same nofun ?_
    rintro ⟨⟨_, heq⟩, -⟩
    cases heq
  rw [step, withContext]
  split
  · exact apart _ c rfl
  · refine lenient_bind fun _ => ?_
    by_cases hk : k = context
    · subst hk
      exact .gone (congrArg (Option.map Context.event) (Slots.get?_erase_self c.contexts k))
    · refine apart _ _ (congrArg (Option.map Context.event) ?_)
      exact Slots.get?_erase_of_ne hk c.contexts

theorem step_treated (a : Action) (k : Nat) :
    (c.step a).Fulfils lenient (fun r _ => Treated c a k r) () := by
  by_cases moves : a.Moves
  · cases a with
    | createContext slot context => exact createContext_treated slot context k
    | releaseContext context => exact releaseContext_treated context k
    | dropContext context => exact dropContext_treated context k
    | _ => exact absurd moves id
  · exact (step_retains moves).mono fun r _ retains => retains.treated moves k

/-! ### Released slots -/

def Deed.Creates (d : Deed) (k : Nat) : Prop := Client.Creates k d.action d.outcome

/-- The context in a slot was released, and no other one was put into the slot since. -/
def Released (k : Nat) (deeds : List Deed) : Prop :=
  Since (fun d => d.action = .releaseContext k) (fun d => d.Creates k) deeds

theorem proper_of_concat {deeds : List Deed} {d : Deed}
    (proper : ∀ e ∈ eventsOf (deeds ++ [d]), e.Proper) :
    (∀ e ∈ eventsOf deeds, e.Proper) ∧ ∀ e ∈ d.events, e.Proper := by
  rw [eventsOf_concat] at proper
  exact List.forall_mem_append.mp proper

theorem Deed.Done.treated {d : Deed} (run : d.Done) (proper : ∀ e ∈ d.events, e.Proper)
    (k : Nat) : Treated d.before d.action k (d.outcome, d.after) :=
  ((step_treated d.action k).keeps run (promises_lenient proper)).2

/-- A context of a client has no event exactly when it was released. -/
theorem null_iff_released {deeds : List Deed} {last : Client} (path : Path {} deeds last)
    (proper : ∀ e ∈ eventsOf deeds, e.Proper) {k : Nat} {h : Handle}
    (hk : last.eventAt k = some h) : h = Handle.null ↔ Released k deeds := by
  induction deeds using List.reverseRecOn generalizing last h with
  | nil =>
    cases path
    cases hk
  | append_singleton deeds d ih =>
    obtain ⟨before, run, rest⟩ := path.of_split
    cases rest
    obtain ⟨hearly, hproper⟩ := proper_of_concat proper
    rw [Released, since_concat_iff]
    cases run.treated hproper k with
    | kept same apart old =>
      have hbefore : d.before.eventAt k = some h := same.symm.trans hk
      rw [ih before hearly hbefore]
      exact ⟨fun released => .inr ⟨released, old⟩,
        fun either => (either.resolve_left apart).1⟩
    | released ha without => exact iff_of_true (without h hk) (.inl ha)
    | created creates live =>
      refine iff_of_false (live h hk) ?_
      rintro (ha | ⟨-, old⟩)
      · obtain ⟨⟨slot, hcreate⟩, -⟩ := creates
        cases hcreate.symm.trans ha
      · exact old creates
    | gone none => cases none.symm.trans hk

end Client

end PacketDiversion
