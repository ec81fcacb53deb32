import PacketDiversion.Proofs.Handles.Released

/-!
# What an action leaves alone

An action works on the session in one slot and on the context in one slot, if on any. Every other
slot is afterwards as it was before. The handle and the events of a session are the same from the
time that it is put into its slot until it is taken out (`step_framed`).
-/

namespace PacketDiversion

open Program Handles

/-- The handle and the events of a session. -/
structure Grant where
  handle : Handle
  receiving : Handle
  sending : Handle
  deriving DecidableEq, Repr

def Grant.handles (g : Grant) : List Handle := [g.handle, g.receiving, g.sending]

def Session.grant (s : Session) : Grant := ⟨s.handle, s.receiving.event, s.sending.event⟩

theorem Session.Same.grant_eq {s t : Session} (same : s.Same t) : t.grant = s.grant := by
  rw [grant, same.handle, same.receiving, same.sending, grant]

namespace Action

/-- The slot of the session that an action is an operation of. -/
def session? : Action → Option Nat
  | .close slot | .drop slot | .handle slot | .createContext slot _ => some slot
  | .recv slot .. | .recvBatch slot .. | .send slot .. | .sendBatch slot .. => some slot
  | .shutdown slot _ | .getParameter slot _ | .setParameter slot .. | .version slot => some slot
  | .relay slot .. => some slot
  | _ => none

/-- The slot that an action puts a session into or takes one out of. -/
def seat? : Action → Option Nat
  | .openSession slot .. | .close slot | .drop slot => some slot
  | _ => none

/-- The slot of the context that an action is given. -/
def context? : Action → Option Nat
  | .createContext _ k | .contextEvent k | .releaseContext k | .dropContext k => some k
  | .recvBatch _ _ _ context | .sendBatch _ _ _ context | .control _ _ _ _ context => context
  | _ => none

end Action

namespace Client

/-- The handle and the events of the session in a slot. -/
def grantAt (c : Client) (k : Nat) : Option Grant := (c.sessions.get? k).map Session.grant

variable {c : Client}

theorem grantAt_of_session {k : Nat} {s : Session} (hs : c.sessions.get? k = some s) :
    c.grantAt k = some s.grant := congrArg (Option.map Session.grant) hs

theorem grantAt_putSession (c : Client) (k : Nat) (s : Session) :
    (c.putSession k s).grantAt k = some s.grant :=
  congrArg (Option.map Session.grant) (Slots.get?_set_self c.sessions k s)

theorem withSession_of_some {k : Nat} {s : Session} (hs : c.sessions.get? k = some s)
    (act : Session → Program Result) : c.withSession k act = act s := by
  rw [withSession, hs]

theorem withContext_of_some {k : Nat} {own : Context} (hown : c.contexts.get? k = some own)
    (act : Context → Program Result) : c.withContext k act = act own := by
  rw [withContext, hown]

/-- What an action leaves alone. -/
structure Framed (c : Client) (a : Action) (r : Result) : Prop where
  sessions {k : Nat} (apart : a.session? ≠ some k) (seat : a.seat? ≠ some k) :
    r.2.sessions.get? k = c.sessions.get? k
  contexts {k : Nat} (apart : a.context? ≠ some k) : r.2.contexts.get? k = c.contexts.get? k
  grants {k : Nat} (seat : a.seat? ≠ some k) : r.2.grantAt k = c.grantAt k

variable {a : Action}

/-! ### One change at a time -/

theorem framed_of_sessions {r : Result} (hsessions : r.2.sessions = c.sessions)
    (hcontexts : ∀ k, a.context? ≠ some k → r.2.contexts.get? k = c.contexts.get? k) :
    c.Framed a r where
  sessions _ _ := by rw [hsessions]
  contexts apart := hcontexts _ apart
  grants _ := by rw [grantAt, hsessions, grantAt]

theorem framed_of_same {r : Result} (hsessions : r.2.sessions = c.sessions)
    (hcontexts : r.2.contexts = c.contexts) : c.Framed a r :=
  framed_of_sessions hsessions fun _ _ => by rw [hcontexts]

/-- A session that is put back with its handle and its events. -/
theorem framed_putSession {slot : Nat} {s t : Session} (ha : a.session? = some slot)
    (hs : c.sessions.get? slot = some s) (same : s.Same t) (outcome : Outcome Failure Answer) :
    c.Framed a (outcome, c.putSession slot t) where
  sessions := by
    intro k apart seat
    have hk : k ≠ slot := fun heq => apart (heq ▸ ha)
    exact Slots.get?_set_of_ne hk c.sessions t
  contexts _ := rfl
  grants := by
    intro k seat
    by_cases hk : k = slot
    · subst hk
      rw [grantAt_putSession, grantAt_of_session hs, same.grant_eq]
    · have hother : (c.putSession slot t).sessions.get? k = c.sessions.get? k :=
        Slots.get?_set_of_ne hk c.sessions t
      rw [grantAt, hother, grantAt]

/-- A slot that a session is put into or taken out of. -/
theorem framed_of_seat {slot : Nat} {r : Result} (ha : a.seat? = some slot)
    (hsessions : ∀ k, k ≠ slot → r.2.sessions.get? k = c.sessions.get? k)
    (hcontexts : r.2.contexts = c.contexts) : c.Framed a r := by
  have other {k : Nat} (seat : a.seat? ≠ some k) : k ≠ slot := fun heq => seat (heq ▸ ha)
  exact
    { sessions := fun _ seat => hsessions _ (other seat)
      contexts := fun _ => by rw [hcontexts]
      grants := fun seat => by rw [grantAt, hsessions _ (other seat), grantAt] }

theorem sessions_putContext? (c : Client) (context : Option Nat) (own : Option Context) :
    (c.putContext? context own).sessions = c.sessions := by
  unfold putContext?
  split
  · rfl
  · rfl

theorem grantAt_putContext? (c : Client) (context : Option Nat) (own : Option Context) (k : Nat) :
    (c.putContext? context own).grantAt k = c.grantAt k := by
  rw [grantAt, sessions_putContext?, grantAt]

theorem contexts_putContext? {context : Option Nat} {k : Nat} (h : context ≠ some k) (c : Client)
    (own : Option Context) : (c.putContext? context own).contexts.get? k = c.contexts.get? k := by
  unfold putContext?
  split
  · rename_i slot fresh
    have hk : k ≠ slot := fun heq => h (heq ▸ rfl)
    exact Slots.get?_set_of_ne hk c.contexts fresh
  · rfl

/-- A borrowed context that is put back as well. -/
theorem Framed.putContext? {context : Option Nat} {outcome : Outcome Failure Answer} {next : Client}
    (framed : c.Framed a (outcome, next)) (ha : a.context? = context) (own : Option Context) :
    c.Framed a (outcome, next.putContext? context own) where
  sessions apart seat := by
    rw [← framed.sessions apart seat]
    exact congrArg (Slots.get? · _) (sessions_putContext? next context own)
  contexts apart := by
    rw [← framed.contexts apart]
    exact contexts_putContext? (ha ▸ apart) next own
  grants seat := by
    rw [← framed.grants seat]
    exact grantAt_putContext? next context own _

theorem withSession_framed (slot : Nat) {act : Session → Program Result}
    (h : ∀ s, c.sessions.get? slot = some s →
      (act s).Fulfils lenient (fun r _ => c.Framed a r) ()) :
    (c.withSession slot act).Fulfils lenient (fun r _ => c.Framed a r) () := by
  unfold withSession
  cases hs : c.sessions.get? slot with
  | none => exact framed_of_same rfl rfl
  | some s => exact h s hs

theorem withContext_framed (slot : Nat) {act : Context → Program Result}
    (h : ∀ own, (act own).Fulfils lenient (fun r _ => c.Framed a r) ()) :
    (c.withContext slot act).Fulfils lenient (fun r _ => c.Framed a r) () := by
  unfold withContext
  split
  · exact framed_of_same rfl rfl
  · exact h _

theorem withContext?_framed (slot : Option Nat) {act : Option Context → Program Result}
    (h : ∀ own, (act own).Fulfils lenient (fun r _ => c.Framed a r) ()) :
    (c.withContext? slot act).Fulfils lenient (fun r _ => c.Framed a r) () := by
  cases slot with
  | none => exact h none
  | some slot => exact withContext_framed slot fun own => h (some own)

/-! ### Actions -/

theorem openSession_framed (slot : Nat) (filter : String) (layer : Layer) (priority : Int)
    (flags : Flags) :
    (c.openSession slot filter layer priority flags).Fulfils lenient
      (fun r _ => c.Framed (.openSession slot filter layer priority flags) r) () := by
  unfold openSession
  split
  · exact framed_of_same rfl rfl
  · refine lenient_bind fun r => ?_
    obtain ⟨outcome, driver⟩ := r
    cases outcome with
    | ok s => exact framed_of_seat rfl (fun k hk => Slots.get?_set_of_ne hk c.sessions s) rfl
    | error e => exact framed_of_same rfl rfl
    | unwound why => exact framed_of_same rfl rfl

theorem createContext_framed (slot context : Nat) :
    (c.createContext context).Fulfils lenient
      (fun r _ => c.Framed (.createContext slot context) r) () := by
  refine lenient_bind fun made => ?_
  cases made with
  | error e => exact framed_of_same rfl rfl
  | ok fresh =>
    have put : c.Framed (.createContext slot context)
        (.ok (.handle fresh.event), c.putContext context fresh) := by
      refine framed_of_sessions rfl fun k apart => ?_
      have hk : k ≠ context := fun heq => apart (heq ▸ rfl)
      exact Slots.get?_set_of_ne hk c.contexts fresh
    dsimp only
    split
    · exact lenient_bind fun _ => put
    · exact put

theorem relay_framed {slot : Nat} {s : Session} (hs : c.sessions.get? slot = some s) (limit : Nat)
    (options : Relay.Options) :
    (c.relay slot limit options s).Fulfils lenient
      (fun r _ => c.Framed (.relay slot limit options) r) () := by
  refine fulfils_bind.mpr ((Relay.run_booked blank limit s options le_rfl trivial).mono ?_)
  intro r _ kept
  obtain ⟨ending, t⟩ := r
  have put (outcome : Outcome Failure Answer) :
      c.Framed (.relay slot limit options) (outcome, c.putSession slot t) :=
    framed_putSession rfl hs kept.1 outcome
  cases ending with
  | drained stats => exact put _
  | ongoing stats => exact put _
  | failed e => exact put _
  | unwound why => exact put _

theorem control_framed (handle : Handle) (code : UInt32) (block : Block) (output : Bytes)
    (context : Option Nat) :
    (c.control handle code block output context).Fulfils lenient
      (fun r _ => c.Framed (.control handle code block output context) r) () := by
  unfold control
  refine withContext?_framed context fun own => ?_
  cases own with
  | none => exact lenient_bind fun _ => framed_of_same rfl rfl
  | some own =>
    refine lenient_bind fun ended => ?_
    have same : c.Framed (.control handle code block output context)
        (controlOutcome ended.verdict ended.memory.output, c) := framed_of_same rfl rfl
    exact same.putContext? rfl _

theorem step_framed (a : Action) :
    (c.step a).Fulfils lenient (fun r _ => c.Framed a r) () := by
  cases a with
  | check =>
    refine lenient_bind fun r => ?_
    cases r with
    | ok entry => exact framed_of_same rfl rfl
    | error reason => exact framed_of_same rfl rfl
    | unwound why => exact framed_of_same rfl rfl
  | enter =>
    refine lenient_bind fun r => ?_
    obtain ⟨entered, driver⟩ := r
    cases entered with
    | ok entry => exact framed_of_same rfl rfl
    | error why => exact framed_of_same rfl rfl
  | isChecked => exact framed_of_same rfl rfl
  | driverVersion => exact lenient_bind fun _ => framed_of_same rfl rfl
  | openSession slot filter layer priority flags =>
    exact openSession_framed slot filter layer priority flags
  | close slot =>
    refine withSession_framed slot fun s _ => lenient_bind fun _ => ?_
    exact framed_of_seat rfl (fun k hk => Slots.get?_erase_of_ne hk c.sessions) rfl
  | drop slot =>
    refine withSession_framed slot fun s _ => lenient_bind fun _ => ?_
    exact framed_of_seat rfl (fun k hk => Slots.get?_erase_of_ne hk c.sessions) rfl
  | handle slot => exact withSession_framed slot fun s _ => framed_of_same rfl rfl
  | createContext slot context =>
    exact withSession_framed slot fun s _ => createContext_framed slot context
  | contextEvent context => exact withContext_framed context fun own => framed_of_same rfl rfl
  | releaseContext context =>
    refine withContext_framed context fun own => lenient_bind fun r => ?_
    obtain ⟨answer, rest⟩ := r
    have put (outcome : Outcome Failure Answer) :
        c.Framed (.releaseContext context) (outcome, c.putContext context rest) := by
      refine framed_of_sessions rfl fun k apart => ?_
      have hk : k ≠ context := fun heq => apart (heq ▸ rfl)
      exact Slots.get?_set_of_ne hk c.contexts rest
    cases answer with
    | error e => exact put _
    | ok _ => exact put _
  | dropContext context =>
    refine withContext_framed context fun own => lenient_bind fun _ => ?_
    refine framed_of_sessions rfl fun k apart => ?_
    have hk : k ≠ context := fun heq => apart (heq ▸ rfl)
    exact Slots.get?_erase_of_ne hk c.contexts
  | recv slot buffer address =>
    refine withSession_framed slot fun s hs => ?_
    refine fulfils_bind.mpr ((Session.recv_booked blank s le_rfl trivial buffer address).mono ?_)
    intro r _ kept
    exact framed_putSession rfl hs kept.1 _
  | recvBatch slot buffer records context =>
    refine withSession_framed slot fun s hs => withContext?_framed context fun own => ?_
    refine fulfils_bind.mpr ((Session.recvBatch_booked blank s le_rfl trivial buffer records
      fun _ _ => .inr trivial).mono ?_)
    intro r _ kept
    exact (framed_putSession rfl hs kept.1.1 _).putContext? rfl _
  | send slot data address =>
    refine withSession_framed slot fun s hs => ?_
    refine fulfils_bind.mpr ((Session.send_booked blank s le_rfl trivial data address).mono ?_)
    intro r _ kept
    exact framed_putSession rfl hs kept.1 _
  | sendBatch slot data records context =>
    refine withSession_framed slot fun s hs => withContext?_framed context fun own => ?_
    refine fulfils_bind.mpr ((Session.sendBatch_booked blank s le_rfl trivial data records
      fun _ _ => .inr trivial).mono ?_)
    intro r _ kept
    exact (framed_putSession rfl hs kept.1.1 _).putContext? rfl _
  | shutdown slot how =>
    exact withSession_framed slot fun s _ => lenient_bind fun _ => framed_of_same rfl rfl
  | getParameter slot p =>
    exact withSession_framed slot fun s _ => lenient_bind fun _ => framed_of_same rfl rfl
  | setParameter slot p value =>
    exact withSession_framed slot fun s _ => lenient_bind fun _ => framed_of_same rfl rfl
  | version slot =>
    exact withSession_framed slot fun s _ => lenient_bind fun _ => framed_of_same rfl rfl
  | relay slot limit options =>
    exact withSession_framed slot fun s hs => relay_framed hs limit options
  | control handle code block output context =>
    exact control_framed handle code block output context

theorem Deed.Done.framed {d : Deed} (run : d.Done) (proper : ∀ e ∈ d.events, e.Proper) :
    d.before.Framed d.action (d.outcome, d.after) :=
  ((step_framed d.action).keeps run (promises_lenient proper)).2

end Client

end PacketDiversion
