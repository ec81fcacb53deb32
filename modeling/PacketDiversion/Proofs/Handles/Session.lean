import PacketDiversion.Proofs.Handles.Context
import PacketDiversion.Session.Tuning

/-!
# Sessions and their books

An open session owns its driver handle and the events of its two contexts. Under any books, opening
adds all three to what is outstanding or nothing, closing and dropping take all three off, and no
request moves any.
-/

namespace PacketDiversion

open Program Handles

/-! ### Owners -/

def Session.handles (s : Session) : Multiset Handle :=
  {s.handle, s.receiving.event, s.sending.event}

/-- The session is not released, and neither is one of its contexts. -/
structure Session.Open (s : Session) : Prop where
  handle : s.handle ≠ Handle.invalid
  receiving : s.receiving.event ≠ Handle.null
  sending : s.sending.event ≠ Handle.null

/-- The session is released, and so are its contexts. -/
structure Session.Released (s : Session) : Prop where
  handle : s.handle = Handle.invalid
  receiving : s.receiving.event = Handle.null
  sending : s.sending.event = Handle.null

/-- Two states of one session: the handle and the events are the same. -/
structure Session.Same (s t : Session) : Prop where
  handle : t.handle = s.handle
  receiving : t.receiving.event = s.receiving.event
  sending : t.sending.event = s.sending.event

/-- The tokens of the session's handle and events. -/
def Session.tokens (s : Session) : Multiset Token :=
  {⟨.session, s.handle⟩, ⟨.event, s.receiving.event⟩, ⟨.event, s.sending.event⟩}

theorem Session.map_tokens (s : Session) : s.tokens.map Token.handle = s.handles := by
  simp only [tokens, handles, Multiset.insert_eq_cons, Multiset.map_cons, Multiset.map_singleton]

theorem Session.tokens_of_open {s : Session} (h : s.Open) :
    s.tokens = s.receiving.tokens + (s.sending.tokens + {⟨.session, s.handle⟩}) := by
  rw [Context.tokens_of_live h.receiving, Context.tokens_of_live h.sending, Session.tokens,
    Multiset.singleton_add, Multiset.singleton_add]
  exact (Multiset.cons_swap _ _ _).trans (congrArg _ (Multiset.cons_swap _ _ _))

namespace Session.Same

theorem refl (s : Session) : s.Same s := ⟨rfl, rfl, rfl⟩

theorem trans {s t u : Session} (h : s.Same t) (h' : t.Same u) : s.Same u :=
  ⟨h'.handle.trans h.handle, h'.receiving.trans h.receiving, h'.sending.trans h.sending⟩

theorem tokens_eq {s t : Session} (h : s.Same t) : t.tokens = s.tokens := by
  simp only [Session.tokens, h.handle, h.receiving, h.sending]

theorem isOpen {s t : Session} (h : s.Same t) (hs : s.Open) : t.Open where
  handle := h.handle ▸ hs.handle
  receiving := h.receiving ▸ hs.receiving
  sending := h.sending ▸ hs.sending

end Session.Same

/-! ### Opening and releasing -/

namespace Session

theorem release_of_released {s : Session} (released : s.Released) :
    s.release
      = done (.ok (), ⟨Handle.invalid, s.receiving.withoutEvent, s.sending.withoutEvent⟩) := by
  rw [release, releaseContext, releaseContext, Context.release_of_released released.receiving,
    Context.release_of_released released.sending]
  exact if_pos released.handle

theorem drop_of_released {s : Session} (released : s.Released) : s.drop = done () := by
  rw [drop, release_of_released released]
  rfl

variable {σ : Type} {C : Contract σ} {state : σ} (B : Books C) {out : Multiset Token}

theorem createContexts_booked (shows : B.Shows state out) :
    createContexts.Fulfils C
      (B.Made (fun pair => pair.1.tokens + pair.2.tokens)
        (fun pair => pair.1.event ≠ Handle.null ∧ pair.2.event ≠ Handle.null) out) state := by
  refine fulfils_bind.mpr ((Context.create_booked B shows).mono ?_)
  intro reply now made
  cases reply with
  | error e => exact made
  | ok first =>
    obtain ⟨hfirst, made⟩ := made
    refine fulfils_bind.mpr ((Context.create_booked B made).mono ?_)
    intro reply now made
    cases reply with
    | error e => exact fulfils_bind.mpr ((Context.drop_booked B first made).mono fun _ _ h => h)
    | ok second =>
      obtain ⟨hsecond, made⟩ := made
      refine ⟨⟨hfirst, hsecond⟩, ?_⟩
      rw [← add_assoc, add_comm second.tokens] at made
      exact made

theorem openWith_booked (entry : Entry) (filter : Filter) (layer : Layer) (priority : Int)
    (flags : Flags) (shows : B.Shows state out) :
    (openWith entry filter layer priority flags).Fulfils C (B.Made tokens Open out) state := by
  refine fulfils_ask_bind.mpr ⟨B.owes shows trivial, fun reply promised => ?_⟩
  cases reply with
  | error e => exact B.keeps shows rfl rfl
  | ok handle =>
    obtain ⟨proper, granted⟩ := B.grants shows promised rfl
    refine fulfils_bind.mpr ((createContexts_booked B granted).mono ?_)
    intro contexts now made
    cases contexts with
    | error e =>
      have owed := B.owes made (c := .closeHandle handle) ⟨.session, Multiset.mem_cons_self _ _⟩
      refine fulfils_ask_bind.mpr ⟨owed, fun answer promised => ?_⟩
      have released := B.releases made promised rfl
      cases answer with
      | error kept => exact released
      | ok _ => exact released
    | ok pair =>
      obtain ⟨⟨hreceiving, hsending⟩, made⟩ := made
      have isOpen : Open ⟨handle, pair.1, pair.2⟩ := ⟨proper, hreceiving, hsending⟩
      refine ⟨isOpen, ?_⟩
      rw [tokens_of_open isOpen, add_assoc, add_assoc, Multiset.singleton_add]
      rw [add_assoc] at made
      exact made

theorem createContext_booked (shows : B.Shows state out) :
    createContext.Fulfils C
      (B.Made Context.tokens (fun c => c.event ≠ Handle.null) out) state := by
  refine fulfils_bind.mpr ((Context.create_booked B shows).mono ?_)
  intro reply now made
  cases reply with
  | error e => exact made
  | ok c => exact made

theorem releaseContext_booked (handle : Handle) (c : Context)
    (shows : B.Shows state (c.tokens + out)) :
    (releaseContext handle c).Fulfils C
      (fun r now => r.event = Handle.null ∧ B.Shows now out) state := by
  refine fulfils_bind.mpr ((Context.release_booked B c shows).mono ?_)
  intro r now released
  obtain ⟨answer, rest⟩ := r
  cases answer with
  | error e => exact released
  | ok _ => exact released

theorem release_booked {s : Session} (isOpen : s.Open) (shows : B.Shows state (s.tokens + out)) :
    s.release.Fulfils C (fun r now => r.2.Released ∧ B.Shows now out) state := by
  rw [tokens_of_open isOpen, add_assoc, add_assoc] at shows
  refine fulfils_bind.mpr ((releaseContext_booked B s.handle s.receiving shows).mono ?_)
  intro receiving now released
  obtain ⟨hreceiving, released⟩ := released
  refine fulfils_bind.mpr ((releaseContext_booked B s.handle s.sending released).mono ?_)
  intro sending now released
  obtain ⟨hsending, released⟩ := released
  rw [if_neg isOpen.handle]
  rw [Multiset.singleton_add] at released
  have owed := B.owes released (c := .closeHandle s.handle) ⟨.session, Multiset.mem_cons_self _ _⟩
  refine fulfils_ask_bind.mpr ⟨owed, fun answer promised => ?_⟩
  have closed := B.releases released promised rfl
  cases answer with
  | error e => exact ⟨⟨rfl, hreceiving, hsending⟩, closed⟩
  | ok _ => exact ⟨⟨rfl, hreceiving, hsending⟩, closed⟩

theorem drop_booked {s : Session} (isOpen : s.Open) (shows : B.Shows state (s.tokens + out)) :
    s.drop.Fulfils C (fun _ now => B.Shows now out) state := by
  refine fulfils_bind.mpr ((release_booked B isOpen shows).mono ?_)
  intro r now ended
  obtain ⟨answer, rest⟩ := r
  obtain ⟨released, shown⟩ := ended
  have hreceiving := Context.drop_of_released released.receiving
  have hsending := Context.drop_of_released released.sending
  simp only [hreceiving, hsending, done_bind]
  cases answer with
  | error e => exact shown
  | ok _ => exact shown

theorem close_booked {s : Session} (isOpen : s.Open) (shows : B.Shows state (s.tokens + out)) :
    s.close.Fulfils C (fun _ now => B.Shows now out) state := by
  refine fulfils_bind.mpr ((release_booked B isOpen shows).mono ?_)
  intro r now ended
  obtain ⟨answer, rest⟩ := r
  obtain ⟨released, shown⟩ := ended
  simp only [drop_of_released released, done_bind]
  exact shown

/-! ### Requests -/

section Requests

variable (s : Session) (hs : s.tokens ≤ out)
include hs

theorem handle_mem : ⟨.session, s.handle⟩ ∈ out := Multiset.mem_of_le hs (by simp [tokens])

theorem receiving_mem : ⟨.event, s.receiving.event⟩ ∈ out :=
  Multiset.mem_of_le hs (by simp [tokens])

theorem sending_mem : ⟨.event, s.sending.event⟩ ∈ out := Multiset.mem_of_le hs (by simp [tokens])

variable (shows : B.Shows state out)
include shows

theorem issue_receiving_booked (request : Request) (m : Memory) :
    (s.receiving.issue s.handle request m).Fulfils C
      (fun r now => s.Same { s with receiving := r.context } ∧ B.Shows now out) state := by
  refine (Context.issue_booked B s.receiving request m shows (handle_mem s hs)
    (.inl (receiving_mem s hs))).mono ?_
  intro ended now same
  obtain ⟨hevent, shown⟩ := same
  exact ⟨⟨rfl, hevent, rfl⟩, shown⟩

theorem issue_sending_booked (request : Request) (m : Memory) :
    (s.sending.issue s.handle request m).Fulfils C
      (fun r now => s.Same { s with sending := r.context } ∧ B.Shows now out) state := by
  refine (Context.issue_booked B s.sending request m shows (handle_mem s hs)
    (.inl (sending_mem s hs))).mono ?_
  intro ended now same
  obtain ⟨hevent, shown⟩ := same
  exact ⟨⟨rfl, rfl, hevent⟩, shown⟩

theorem recv_booked (buffer : Bytes) (address : Address) :
    (s.recv buffer address).Fulfils C (fun r now => s.Same r.2 ∧ B.Shows now out) state :=
  fulfils_bind.mpr (issue_receiving_booked B s hs shows _ _)

theorem send_booked (data : Bytes) (address : Address) :
    (s.send data address).Fulfils C (fun r now => s.Same r.2 ∧ B.Shows now out) state :=
  fulfils_bind.mpr (issue_sending_booked B s hs shows _ _)

/-- A batch leaves the events of the session and of the caller's context alone. -/
theorem recvBatch_booked (buffer : Bytes) (records : List Address) {context : Option Context}
    (hcontext : ∀ c ∈ context, ⟨.event, c.event⟩ ∈ out ∨ B.Spare c.event) :
    (s.recvBatch buffer records context).Fulfils C
      (fun r now => (s.Same r.2.1 ∧ r.2.2.map Context.event = context.map Context.event)
        ∧ B.Shows now out) state := by
  unfold recvBatch
  split
  · exact ⟨⟨.refl s, rfl⟩, shows⟩
  · cases context with
    | none =>
      refine fulfils_bind.mpr ((issue_receiving_booked B s hs shows _ _).mono ?_)
      intro ended now moved
      obtain ⟨same, shown⟩ := moved
      exact ⟨⟨same, rfl⟩, shown⟩
    | some own =>
      refine fulfils_bind.mpr ((Context.issue_booked B own _ _ shows (handle_mem s hs)
        (hcontext own rfl)).mono ?_)
      intro ended now moved
      obtain ⟨hevent, shown⟩ := moved
      exact ⟨⟨.refl s, congrArg some hevent⟩, shown⟩

theorem sendBatch_booked (data : Bytes) (records : List Address) {context : Option Context}
    (hcontext : ∀ c ∈ context, ⟨.event, c.event⟩ ∈ out ∨ B.Spare c.event) :
    (s.sendBatch data records context).Fulfils C
      (fun r now => (s.Same r.2.1 ∧ r.2.2.map Context.event = context.map Context.event)
        ∧ B.Shows now out) state := by
  unfold sendBatch
  split
  · exact ⟨⟨.refl s, rfl⟩, shows⟩
  · cases context with
    | none =>
      refine fulfils_bind.mpr ((issue_sending_booked B s hs shows _ _).mono ?_)
      intro ended now moved
      obtain ⟨same, shown⟩ := moved
      exact ⟨⟨same, rfl⟩, shown⟩
    | some own =>
      refine fulfils_bind.mpr ((Context.issue_booked B own _ _ shows (handle_mem s hs)
        (hcontext own rfl)).mono ?_)
      intro ended now moved
      obtain ⟨hevent, shown⟩ := moved
      exact ⟨⟨.refl s, congrArg some hevent⟩, shown⟩

end Requests

section Tuning

variable (s : Session) (hs : ⟨.session, s.handle⟩ ∈ out) (shows : B.Shows state out)
include hs shows

theorem shutdown_booked (how : Direction) :
    (s.shutdown how).Fulfils C (fun _ now => B.Shows now out) state := by
  refine fulfils_bind.mpr ((Context.issueOnce_booked B _ _ shows hs).mono ?_)
  intro ended now shown
  dsimp only
  split <;> exact shown

theorem getParameter_booked (p : Parameter) :
    (s.getParameter p).Fulfils C (fun _ now => B.Shows now out) state := by
  refine fulfils_bind.mpr ((Context.issueOnce_booked B _ _ shows hs).mono ?_)
  intro ended now shown
  dsimp only
  split <;> exact shown

theorem setParameter_booked (p : Parameter) (value : UInt64) :
    (s.setParameter p value).Fulfils C (fun _ now => B.Shows now out) state := by
  unfold setParameter
  split
  · exact shows
  · refine fulfils_bind.mpr ((Context.issueOnce_booked B _ _ shows hs).mono ?_)
    intro ended now shown
    dsimp only
    split <;> exact shown

theorem version_booked : s.version.Fulfils C (fun _ now => B.Shows now out) state := by
  refine fulfils_bind.mpr ((getParameter_booked B s hs shows _).mono ?_)
  intro major now shown
  cases major with
  | ok _ =>
    refine fulfils_bind.mpr ((getParameter_booked B s hs shown _).mono ?_)
    intro minor now shown
    cases minor with
    | ok _ => exact shown
    | error e => exact shown
    | unwound why => exact shown
  | error e => exact shown
  | unwound why => exact shown

end Tuning

end Session

end PacketDiversion
