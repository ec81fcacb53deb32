import PacketDiversion.Client.Action
import PacketDiversion.Proofs.Handles.Gate
import PacketDiversion.Proofs.Slots

/-!
# What a client holds

A client holds the handles of its open sessions and the events of its unreleased contexts. Each of
its actions keeps the books straight, whichever books they are: what is outstanding afterwards is
what the client holds afterwards (`step_booked`), and when it lets everything go nothing is
outstanding any more (`leave_booked`). The ledger of plain numbers is one case (`steps_fulfils`,
`leave_fulfils`).
-/

namespace PacketDiversion

open Program Handles

/-- A request issued by hand, on whatever handle the caller names. -/
def Action.ByHand : Action → Prop
  | .control .. => True
  | _ => False

/-- The slot of the context that a batch is to be issued on, if the caller names one. -/
def Action.batchContext? : Action → Option Nat
  | .recvBatch _ _ _ context => context
  | .sendBatch _ _ _ context => context
  | _ => none

namespace Client

/-- The handles of the sessions and the events of the unreleased contexts. -/
def handles (c : Client) : Multiset Handle :=
  c.sessions.total Session.handles + c.contexts.total Context.handles

/-- The slots are in order, and every session in them is open. -/
structure Sound (c : Client) : Prop where
  sessions : c.sessions.Ordered
  contexts : c.contexts.Ordered
  isOpen : ∀ s ∈ c.sessions.values, s.Open

/-- The books of a client are straight: what is outstanding is what it holds. -/
def Balanced (c : Client) (out : Multiset Handle) : Prop := c.Sound ∧ out = c.handles

theorem sound_start : Sound {} where
  sessions := Slots.ordered_empty
  contexts := Slots.ordered_empty
  isOpen s hs := by cases hs

/-- The tokens of what the client holds. -/
def tokens (c : Client) : Multiset Token :=
  c.sessions.total Session.tokens + c.contexts.total Context.tokens

theorem map_tokens (c : Client) : c.tokens.map Token.handle = c.handles := by
  have hsessions :=
    Slots.map_total (Multiset.mapAddMonoidHom Token.handle) Session.tokens c.sessions
  have hcontexts :=
    Slots.map_total (Multiset.mapAddMonoidHom Token.handle) Context.tokens c.contexts
  simp only [Multiset.coe_mapAddMonoidHom, Session.map_tokens, Context.map_tokens]
    at hsessions hcontexts
  rw [tokens, Multiset.map_add, hsessions, hcontexts, handles]

/-- The same under any books: they show what the client holds. -/
def Booked {σ : Type} {C : Contract σ} (B : Books C) (c : Client) (s : σ) : Prop :=
  c.Sound ∧ B.Shows s c.tokens

theorem booked_plain_iff {c : Client} {out : Multiset Handle} :
    c.Booked plain out ↔ c.Balanced out := by
  rw [Balanced, ← map_tokens]
  exact Iff.rfl

/-! ### Slots -/

section Sessions

variable {c : Client} {slot : Nat} {s t : Session}

theorem tokens_eq_of_session (sound : c.Sound) (hs : c.sessions.get? slot = some s) :
    c.tokens = s.tokens + tokens { c with sessions := c.sessions.erase slot } := by
  rw [tokens, Slots.total_erase _ sound.sessions hs, add_assoc]
  rfl

theorem session_tokens_le (sound : c.Sound) (hs : c.sessions.get? slot = some s) :
    s.tokens ≤ c.tokens := by
  rw [tokens_eq_of_session sound hs]
  exact Multiset.le_add_right _ _

theorem session_token_mem (sound : c.Sound) (hs : c.sessions.get? slot = some s) :
    ⟨.session, s.handle⟩ ∈ c.tokens :=
  s.handle_mem (session_tokens_le sound hs)

theorem sound_eraseSession (sound : c.Sound) (slot : Nat) :
    Sound { c with sessions := c.sessions.erase slot } where
  sessions := sound.sessions.erase slot
  contexts := sound.contexts
  isOpen s hs := sound.isOpen s (Slots.mem_values_erase hs)

theorem sound_putSession (sound : c.Sound) (slot : Nat) (isOpen : s.Open) :
    (c.putSession slot s).Sound where
  sessions := sound.sessions.set slot s
  contexts := sound.contexts
  isOpen t ht := by
    rcases Slots.mem_values_set ht with h | h
    · exact h ▸ isOpen
    · exact sound.isOpen t h

/-- A session that is put back as it was changes nothing. -/
theorem tokens_putSession (sound : c.Sound) (hs : c.sessions.get? slot = some s)
    (same : s.Same t) : (c.putSession slot t).tokens = c.tokens := by
  have htotal := Slots.total_set_of_some Session.tokens t sound.sessions hs
  rw [same.tokens_eq] at htotal
  exact congrArg (· + c.contexts.total Context.tokens) (add_left_cancel htotal)

theorem tokens_newSession (hslot : c.sessions.get? slot = none) (s : Session) :
    (c.putSession slot s).tokens = s.tokens + c.tokens := by
  have htotal := Slots.total_set_of_none Session.tokens s hslot
  rw [tokens, tokens, ← add_assoc, ← htotal]
  rfl

end Sessions

section Contexts

variable {c : Client} {slot : Nat} {own : Context}

theorem tokens_eq_of_context (sound : c.Sound) (hown : c.contexts.get? slot = some own) :
    c.tokens = own.tokens + tokens { c with contexts := c.contexts.erase slot } := by
  rw [tokens, Slots.total_erase _ sound.contexts hown, add_left_comm]
  rfl

theorem context_token_mem (sound : c.Sound) (hown : c.contexts.get? slot = some own) :
    ⟨.event, own.event⟩ ∈ c.tokens ∨ own.event = Handle.null := by
  by_cases released : own.event = Handle.null
  · exact .inr released
  · rw [tokens_eq_of_context sound hown, Context.tokens_of_live released]
    exact .inl (Multiset.mem_add.mpr (.inl (Multiset.mem_singleton_self _)))

theorem sound_eraseContext (sound : c.Sound) (slot : Nat) :
    Sound { c with contexts := c.contexts.erase slot } where
  sessions := sound.sessions
  contexts := sound.contexts.erase slot
  isOpen := sound.isOpen

theorem sound_putContext (sound : c.Sound) (slot : Nat) (own : Context) :
    (c.putContext slot own).Sound where
  sessions := sound.sessions
  contexts := sound.contexts.set slot own
  isOpen := sound.isOpen

/-- A context in the place of another one holds what it holds itself. -/
theorem tokens_putContext (sound : c.Sound) (hown : c.contexts.get? slot = some own)
    (fresh : Context) :
    own.tokens + (c.putContext slot fresh).tokens = fresh.tokens + c.tokens := by
  have htotal := Slots.total_set_of_some Context.tokens fresh sound.contexts hown
  rw [tokens, tokens, add_left_comm fresh.tokens, ← htotal, ← add_left_comm own.tokens]
  rfl

theorem tokens_newContext (hslot : c.contexts.get? slot = none) (fresh : Context) :
    (c.putContext slot fresh).tokens = fresh.tokens + c.tokens := by
  have htotal := Slots.total_set_of_none Context.tokens fresh hslot
  rw [tokens, tokens, add_left_comm fresh.tokens, ← htotal]
  rfl

/-- A context that is put back with the event that it had changes nothing. -/
theorem tokens_sameContext (sound : c.Sound) {rest : Context}
    (hown : c.contexts.get? slot = some own) (same : rest.event = own.event) :
    (c.putContext slot rest).tokens = c.tokens := by
  have hsame : rest.tokens = own.tokens := by simp only [Context.tokens, Context.handles, same]
  have h := tokens_putContext sound hown rest
  rw [hsame] at h
  exact add_left_cancel h

/-- A context that is released holds nothing any more. -/
theorem tokens_releasedContext (sound : c.Sound) {rest : Context}
    (hown : c.contexts.get? slot = some own) (released : rest.event = Handle.null) :
    (c.putContext slot rest).tokens = tokens { c with contexts := c.contexts.erase slot } := by
  have h := tokens_putContext sound hown rest
  rw [Context.tokens_of_released released, zero_add, tokens_eq_of_context sound hown] at h
  exact add_left_cancel h

end Contexts

/-! ### Borrowed contexts -/

/-- The context that an action borrows from a slot, if it names one. -/
inductive Lends (c : Client) : Option Nat → Option Context → Prop
  | nothing : Lends c none none
  | context {slot : Nat} {own : Context} (hown : c.contexts.get? slot = some own) :
    Lends c (some slot) (some own)

theorem Lends.putSession {c : Client} {context : Option Nat} {own : Option Context}
    (lends : c.Lends context own) (slot : Nat) (s : Session) :
    (c.putSession slot s).Lends context own := by
  cases lends with
  | nothing => exact .nothing
  | context hown => exact .context hown

section Actions

variable {σ : Type} {C : Contract σ} (B : Books C) {state : σ} {c : Client}

/-- Where a batch is to be issued on a context that is released, the books can do without its
event. -/
def Spares (c : Client) (a : Action) : Prop :=
  ∀ k ∈ a.batchContext?, ∀ own ∈ c.contexts.get? k, own.event = Handle.null → B.Spare Handle.null

theorem Lends.token_mem {slot : Option Nat} {own : Option Context} (lends : c.Lends slot own)
    (sound : c.Sound)
    (spares : ∀ k ∈ slot, ∀ x ∈ c.contexts.get? k, x.event = Handle.null → B.Spare Handle.null) :
    ∀ x ∈ own, ⟨.event, x.event⟩ ∈ c.tokens ∨ B.Spare x.event := by
  intro x hx
  cases lends with
  | nothing => cases hx
  | context hown =>
    cases hx
    refine (context_token_mem sound hown).imp_right fun released => ?_
    rw [released]
    exact spares _ rfl _ hown released

variable {B}

theorem Booked.putSession (booked : c.Booked B state) {slot : Nat} {s t : Session}
    (hs : c.sessions.get? slot = some s) (same : s.Same t) {now : σ}
    (shown : B.Shows now c.tokens) : (c.putSession slot t).Booked B now := by
  have isOpen : s.Open := booked.1.isOpen s (Slots.mem_values_of_get? hs)
  refine ⟨sound_putSession booked.1 slot (same.isOpen isOpen), ?_⟩
  rw [tokens_putSession booked.1 hs same]
  exact shown

/-- A borrowed context that comes back with the event that it had changes nothing. -/
theorem Lends.booked {slot : Option Nat} {own rest : Option Context}
    (lends : c.Lends slot own) (booked : c.Booked B state)
    (same : rest.map Context.event = own.map Context.event) :
    (c.putContext? slot rest).Booked B state := by
  cases lends with
  | nothing => exact booked
  | context hown =>
    cases rest with
    | none => cases same
    | some rest =>
      refine ⟨sound_putContext booked.1 _ rest, ?_⟩
      change B.Shows state (c.putContext _ rest).tokens
      rw [tokens_sameContext booked.1 hown (Option.some.inj same)]
      exact booked.2

/-- A session and a borrowed context that both come back as they were change nothing. -/
theorem Booked.batch (booked : c.Booked B state) {slot : Nat} {s t : Session}
    {context : Option Nat} {own rest : Option Context} (hs : c.sessions.get? slot = some s)
    (lends : c.Lends context own) (same : s.Same t)
    (hrest : rest.map Context.event = own.map Context.event) {now : σ}
    (shown : B.Shows now c.tokens) :
    ((c.putSession slot t).putContext? context rest).Booked B now :=
  (lends.putSession slot t).booked (booked.putSession hs same shown) hrest

theorem Booked.withDriver (booked : c.Booked B state) (driver : Driver) :
    Booked B { c with driver := driver } state :=
  ⟨⟨booked.1.sessions, booked.1.contexts, booked.1.isOpen⟩, booked.2⟩

/-! ### Actions -/

theorem withSession_booked (booked : c.Booked B state) (slot : Nat)
    {act : Session → Program Result}
    (h : ∀ s, c.sessions.get? slot = some s →
      (act s).Fulfils C (fun r now => r.2.Booked B now) state) :
    (c.withSession slot act).Fulfils C (fun r now => r.2.Booked B now) state := by
  unfold withSession
  cases hs : c.sessions.get? slot with
  | none => exact booked
  | some s => exact h s hs

theorem withContext_booked (booked : c.Booked B state) (slot : Nat)
    {act : Context → Program Result}
    (h : ∀ own, c.contexts.get? slot = some own →
      (act own).Fulfils C (fun r now => r.2.Booked B now) state) :
    (c.withContext slot act).Fulfils C (fun r now => r.2.Booked B now) state := by
  unfold withContext
  cases hown : c.contexts.get? slot with
  | none => exact booked
  | some own => exact h own hown

theorem withContext?_booked (booked : c.Booked B state) (slot : Option Nat)
    {act : Option Context → Program Result}
    (h : ∀ own, c.Lends slot own →
      (act own).Fulfils C (fun r now => r.2.Booked B now) state) :
    (c.withContext? slot act).Fulfils C (fun r now => r.2.Booked B now) state := by
  cases slot with
  | none => exact h none .nothing
  | some slot => exact withContext_booked booked slot fun own hown => h _ (.context hown)

theorem openSession_booked (booked : c.Booked B state) (slot : Nat) (filter : String)
    (layer : Layer) (priority : Int) (flags : Flags) :
    (c.openSession slot filter layer priority flags).Fulfils C
      (fun r now => r.2.Booked B now) state := by
  unfold openSession
  cases hslot : c.sessions.get? slot with
  | some _ => exact booked
  | none =>
    refine fulfils_bind.mpr
      ((c.driver.openSession_booked B booked.2 filter layer priority flags).mono ?_)
    intro r now opened
    obtain ⟨outcome, driver⟩ := r
    cases outcome with
    | ok s =>
      obtain ⟨isOpen, shown⟩ := opened
      rw [← tokens_newSession hslot] at shown
      exact Booked.withDriver ⟨sound_putSession booked.1 slot isOpen, shown⟩ driver
    | error e => exact Booked.withDriver ⟨booked.1, opened⟩ driver
    | unwound why => exact Booked.withDriver ⟨booked.1, opened⟩ driver

theorem createContext_booked (booked : c.Booked B state) (context : Nat) :
    (c.createContext context).Fulfils C (fun r now => r.2.Booked B now) state := by
  refine fulfils_bind.mpr ((Session.createContext_booked B booked.2).mono ?_)
  intro r now made
  cases r with
  | error e => exact ⟨booked.1, made⟩
  | ok fresh =>
    obtain ⟨-, made⟩ := made
    have sound := sound_putContext booked.1 context fresh
    dsimp only
    cases hold : c.contexts.get? context with
    | none =>
      rw [← tokens_newContext hold] at made
      exact ⟨sound, made⟩
    | some old =>
      rw [← tokens_putContext booked.1 hold fresh] at made
      exact fulfils_bind.mpr ((Context.drop_booked B old made).mono fun _ now h => ⟨sound, h⟩)

theorem releaseContext_booked (booked : c.Booked B state) (context : Nat) :
    (c.step (.releaseContext context)).Fulfils C (fun r now => r.2.Booked B now) state := by
  refine withContext_booked booked context fun own hown => ?_
  have shows := booked.2
  rw [tokens_eq_of_context booked.1 hown] at shows
  refine fulfils_bind.mpr ((Context.release_booked B own shows).mono ?_)
  intro r now released
  obtain ⟨answer, rest⟩ := r
  obtain ⟨hevent, shown⟩ := released
  rw [← tokens_releasedContext booked.1 hown hevent] at shown
  have after : (c.putContext context rest).Booked B now :=
    ⟨sound_putContext booked.1 context rest, shown⟩
  cases answer with
  | error e => exact after
  | ok _ => exact after

theorem relay_booked (booked : c.Booked B state) {slot : Nat} {s : Session}
    (hs : c.sessions.get? slot = some s) (limit : Nat) (options : Relay.Options) :
    (c.relay slot limit options s).Fulfils C (fun r now => r.2.Booked B now) state := by
  refine fulfils_bind.mpr ((Relay.run_booked B limit s options (session_tokens_le booked.1 hs)
    booked.2).mono ?_)
  intro r now ended
  obtain ⟨ending, t⟩ := r
  obtain ⟨same, shown⟩ := ended
  have after := booked.putSession hs same shown
  cases ending with
  | drained stats => exact after
  | ongoing stats => exact after
  | failed e => exact after
  | unwound why => exact after

/-- Letting a session go, in whichever way, leaves the rest of the client. -/
theorem eraseSession_booked (booked : c.Booked B state) {slot : Nat} {s : Session} {α : Type}
    {go : Program α} {answer : α → Outcome Failure Answer}
    (hs : c.sessions.get? slot = some s)
    (h : ∀ out, B.Shows state (s.tokens + out) →
      go.Fulfils C (fun _ now => B.Shows now out) state) :
    (go >>= fun value => done (answer value, { c with sessions := c.sessions.erase slot })).Fulfils
      C (fun r now => r.2.Booked B now) state := by
  have shows := booked.2
  rw [tokens_eq_of_session booked.1 hs] at shows
  refine fulfils_bind.mpr ((h _ shows).mono ?_)
  intro value now shown
  exact ⟨sound_eraseSession booked.1 slot, shown⟩

/-- Every action keeps the books straight. -/
theorem step_booked (booked : c.Booked B state) {a : Action} (hand : ¬ a.ByHand)
    (spares : c.Spares B a) :
    (c.step a).Fulfils C (fun r now => r.2.Booked B now) state := by
  have shows := booked.2
  cases a with
  | check =>
    refine fulfils_bind.mpr ((Driver.check_booked B shows).mono ?_)
    intro r now shown
    cases r with
    | ok entry => exact ⟨booked.1, shown⟩
    | error reason => exact ⟨booked.1, shown⟩
    | unwound why => exact ⟨booked.1, shown⟩
  | enter =>
    refine fulfils_bind.mpr ((c.driver.enter_booked B shows).mono ?_)
    intro r now shown
    obtain ⟨entered, driver⟩ := r
    have after := Booked.withDriver ⟨booked.1, shown⟩ driver
    cases entered with
    | ok entry => exact after
    | error why => exact after
  | isChecked => exact booked
  | driverVersion =>
    refine fulfils_bind.mpr ((c.driver.version_booked B shows).mono ?_)
    intro r now shown
    exact Booked.withDriver ⟨booked.1, shown⟩ r.2
  | openSession slot filter layer priority flags =>
    exact openSession_booked booked slot filter layer priority flags
  | close slot =>
    refine withSession_booked booked slot fun s hs => ?_
    have isOpen := booked.1.isOpen s (Slots.mem_values_of_get? hs)
    exact eraseSession_booked booked hs fun out => Session.close_booked B isOpen
  | drop slot =>
    refine withSession_booked booked slot fun s hs => ?_
    have isOpen := booked.1.isOpen s (Slots.mem_values_of_get? hs)
    exact eraseSession_booked booked hs fun out => Session.drop_booked B isOpen
  | handle slot => exact withSession_booked booked slot fun s _ => booked
  | createContext slot context =>
    exact withSession_booked booked slot fun s _ => createContext_booked booked context
  | contextEvent context => exact withContext_booked booked context fun own _ => booked
  | releaseContext context => exact releaseContext_booked booked context
  | dropContext context =>
    refine withContext_booked booked context fun own hown => ?_
    rw [tokens_eq_of_context booked.1 hown] at shows
    refine fulfils_bind.mpr ((Context.drop_booked B own shows).mono ?_)
    intro value now shown
    exact ⟨sound_eraseContext booked.1 context, shown⟩
  | recv slot buffer address =>
    refine withSession_booked booked slot fun s hs => ?_
    refine fulfils_bind.mpr ((Session.recv_booked B s (session_tokens_le booked.1 hs) shows buffer
      address).mono ?_)
    intro r now ended
    obtain ⟨same, shown⟩ := ended
    exact booked.putSession hs same shown
  | recvBatch slot buffer records context =>
    refine withSession_booked booked slot fun s hs => ?_
    refine withContext?_booked booked context fun own lends => ?_
    refine fulfils_bind.mpr ((Session.recvBatch_booked B s (session_tokens_le booked.1 hs) shows
      buffer records (lends.token_mem B booked.1 spares)).mono ?_)
    intro r now ended
    obtain ⟨⟨same, hrest⟩, shown⟩ := ended
    exact booked.batch hs lends same hrest shown
  | send slot data address =>
    refine withSession_booked booked slot fun s hs => ?_
    refine fulfils_bind.mpr ((Session.send_booked B s (session_tokens_le booked.1 hs) shows data
      address).mono ?_)
    intro r now ended
    obtain ⟨same, shown⟩ := ended
    exact booked.putSession hs same shown
  | sendBatch slot data records context =>
    refine withSession_booked booked slot fun s hs => ?_
    refine withContext?_booked booked context fun own lends => ?_
    refine fulfils_bind.mpr ((Session.sendBatch_booked B s (session_tokens_le booked.1 hs) shows
      data records (lends.token_mem B booked.1 spares)).mono ?_)
    intro r now ended
    obtain ⟨⟨same, hrest⟩, shown⟩ := ended
    exact booked.batch hs lends same hrest shown
  | shutdown slot how =>
    refine withSession_booked booked slot fun s hs => ?_
    exact fulfils_bind.mpr ((Session.shutdown_booked B s (session_token_mem booked.1 hs) shows
      how).mono fun _ now shown => ⟨booked.1, shown⟩)
  | getParameter slot p =>
    refine withSession_booked booked slot fun s hs => ?_
    exact fulfils_bind.mpr ((Session.getParameter_booked B s (session_token_mem booked.1 hs) shows
      p).mono fun _ now shown => ⟨booked.1, shown⟩)
  | setParameter slot p value =>
    refine withSession_booked booked slot fun s hs => ?_
    exact fulfils_bind.mpr ((Session.setParameter_booked B s (session_token_mem booked.1 hs) shows
      p value).mono fun _ now shown => ⟨booked.1, shown⟩)
  | version slot =>
    refine withSession_booked booked slot fun s hs => ?_
    exact fulfils_bind.mpr ((Session.version_booked B s (session_token_mem booked.1 hs)
      shows).mono fun _ now shown => ⟨booked.1, shown⟩)
  | relay slot limit options =>
    exact withSession_booked booked slot fun s hs => relay_booked booked hs limit options
  | control handle code block output context => exact absurd trivial hand

/-- So does every sequence of actions, under books that can do without the event of a context. -/
theorem steps_booked {actions : List Action} (hand : ∀ a ∈ actions, ¬ a.ByHand)
    (spare : B.Spare Handle.null) (booked : c.Booked B state) :
    (c.steps actions).Fulfils C (fun r now => r.2.Booked B now) state := by
  induction actions generalizing c state with
  | nil => exact booked
  | cons a rest ih =>
    have hfirst : ¬ a.ByHand := hand a List.mem_cons_self
    have spares : c.Spares B a := fun _ _ _ _ _ => spare
    refine fulfils_bind.mpr ((step_booked booked hfirst spares).mono ?_)
    intro r now after
    have hrest : ∀ b ∈ rest, ¬ b.ByHand := fun b hb => hand b (List.mem_cons_of_mem a hb)
    exact fulfils_bind.mpr ((ih hrest after).mono fun _ _ h => h)

/-! ### Leaving -/

theorem dropAll_booked {α : Type} {drop : α → Program Unit} {held : α → Multiset Token}
    {values : List α} {out : Multiset Token}
    (h : ∀ value ∈ values, ∀ out state, B.Shows state (held value + out) →
      (drop value).Fulfils C (fun _ now => B.Shows now out) state)
    (shows : B.Shows state ((values.map held).sum + out)) :
    (dropAll drop values).Fulfils C (fun _ now => B.Shows now out) state := by
  induction values generalizing state with
  | nil => exact (zero_add out) ▸ shows
  | cons value rest ih =>
    rw [List.map_cons, List.sum_cons, add_assoc] at shows
    refine fulfils_bind.mpr ((h value List.mem_cons_self _ _ shows).mono ?_)
    intro _ now shown
    exact ih (fun other hother => h other (List.mem_cons_of_mem value hother)) shown

/-- A client that lets everything go leaves nothing outstanding. -/
theorem leave_booked (booked : c.Booked B state) :
    c.leave.Fulfils C (fun _ now => B.Shows now 0) state := by
  refine fulfils_bind.mpr ((dropAll_booked (fun s hs out state shows =>
    Session.drop_booked B (booked.1.isOpen s hs) shows) booked.2).mono ?_)
  intro _ now shown
  have hcontexts : c.contexts.total Context.tokens
      = (c.contexts.values.map Context.tokens).sum + 0 := (add_zero _).symm
  rw [hcontexts] at shown
  exact dropAll_booked (fun own _ out state shows => Context.drop_booked B own shows) shown

end Actions

/-! ### Plain numbers -/

section Plain

variable {c : Client}

theorem steps_fulfils {actions : List Action} (hand : ∀ a ∈ actions, ¬ a.ByHand)
    (sound : c.Sound) :
    (c.steps actions).Fulfils contract (fun r now => r.2.Balanced now) c.handles := by
  have booked : c.Booked plain c.handles := booked_plain_iff.mpr ⟨sound, rfl⟩
  exact (steps_booked hand rfl booked).mono fun _ _ h => booked_plain_iff.mp h

theorem leave_fulfils (sound : c.Sound) :
    c.leave.Fulfils contract (fun _ now => now = 0) c.handles := by
  have booked : c.Booked plain c.handles := booked_plain_iff.mpr ⟨sound, rfl⟩
  exact (leave_booked booked).mono fun _ _ h => h

end Plain

end Client

end PacketDiversion
