import PacketDiversion.Gate
import PacketDiversion.Proofs.Handles.Session
import PacketDiversion.Relay.Loop

/-!
# Relays, the gate and the books

A relay works on a session that it keeps. The gate opens a session of its own and gives back all of
it, so that after each of its steps nothing more is outstanding than before; only a session that is
handed to the caller adds its handles.
-/

namespace PacketDiversion

open Program Handles

variable {σ : Type} {C : Contract σ} {state : σ} (B : Books C) {out : Multiset Token}

/-! ### Relays -/

namespace Relay

/-- The session at the end of a round. -/
def Step.session : Step → Session
  | .over _ s => s
  | .next st => st.session

theorem fulfils_reportPackets_bind {β : Type} {f : Unit → Program β} {post : β → σ → Prop}
    (records : List Address) :
    (reportPackets records >>= f).Fulfils C post state ↔ (f ()).Fulfils C post state := by
  induction records with
  | nil => exact Iff.rfl
  | cons a rest ih => exact ih

theorem passOn_booked (o : Options) (st : State) (got : Delivery) (hs : st.session.tokens ≤ out)
    (shows : B.Shows state out) :
    (passOn o st got).Fulfils C (fun r now => st.session.Same r.session ∧ B.Shows now out)
      state := by
  unfold passOn
  split
  · split
    · exact ⟨.refl _, shows⟩
    · refine fulfils_bind.mpr ((Session.sendBatch_booked B st.session hs shows _ _
        (by simp)).mono ?_)
      intro r now moved
      obtain ⟨outcome, session, rest⟩ := r
      obtain ⟨⟨same, -⟩, shown⟩ := moved
      cases outcome with
      | error e => exact ⟨same, shown⟩
      | unwound why => exact ⟨same, shown⟩
      | ok written => exact ⟨same, shown⟩
  · exact ⟨.refl _, shows⟩

theorem round_booked (o : Options) (st : State) (hs : st.session.tokens ≤ out)
    (shows : B.Shows state out) :
    (round o st).Fulfils C (fun r now => st.session.Same r.session ∧ B.Shows now out) state := by
  refine fulfils_bind.mpr ((Session.recvBatch_booked B st.session hs shows _ _ (by simp)).mono ?_)
  intro r now moved
  obtain ⟨got, session, rest⟩ := r
  obtain ⟨⟨same, -⟩, shown⟩ := moved
  have hsession : session.tokens ≤ out := same.tokens_eq ▸ hs
  dsimp only
  split
  · exact ⟨same, shown⟩
  · split
    · exact ⟨same, shown⟩
    · exact ⟨same, shown⟩
  · split
    · exact ⟨same, shown⟩
    · refine (fulfils_reportPackets_bind _).mpr ((passOn_booked B o _ _ hsession shown).mono ?_)
      intro step now moved
      obtain ⟨hstep, shown⟩ := moved
      exact ⟨same.trans hstep, shown⟩

theorem rounds_booked (o : Options) (limit : Nat) (st : State) (hs : st.session.tokens ≤ out)
    (shows : B.Shows state out) :
    (rounds o limit st).Fulfils C (fun r now => st.session.Same r.2 ∧ B.Shows now out) state := by
  induction limit generalizing st state with
  | zero => exact ⟨.refl _, shows⟩
  | succ limit ih =>
    refine fulfils_bind.mpr ((round_booked B o st hs shows).mono ?_)
    intro step now moved
    obtain ⟨same, shown⟩ := moved
    match step with
    | .over ending session => exact ⟨same, shown⟩
    | .next st' =>
      refine (ih st' (same.tokens_eq ▸ hs) shown).mono ?_
      intro r now moved
      obtain ⟨later, shown⟩ := moved
      exact ⟨same.trans later, shown⟩

/-- A relay keeps the session that it works on. -/
theorem run_booked (limit : Nat) (s : Session) (o : Options) (hs : s.tokens ≤ out)
    (shows : B.Shows state out) :
    (run limit s o).Fulfils C (fun r now => s.Same r.2 ∧ B.Shows now out) state := by
  unfold run
  split
  · exact ⟨.refl _, shows⟩
  · exact rounds_booked B o limit (.start s o) hs shows

end Relay

/-! ### The gate -/

section Gate

variable (shows : B.Shows state out)
include shows

/-- The probe gives back everything that it was given. -/
theorem Entry.probeVersion_booked (entry : Entry) :
    entry.probeVersion.Fulfils C (fun _ now => B.Shows now out) state := by
  refine fulfils_bind.mpr ((Session.openWith_booked B _ _ _ _ _ shows).mono ?_)
  intro reply now made
  cases reply with
  | error e => exact made
  | ok probe =>
    obtain ⟨isOpen, made⟩ := made
    have hmem : ⟨.session, probe.handle⟩ ∈ probe.tokens + out :=
      probe.handle_mem (Multiset.le_add_right _ _)
    refine fulfils_bind.mpr ((Session.version_booked B probe hmem made).mono ?_)
    intro version now made
    cases version with
    | ok _ =>
      refine fulfils_bind.mpr ((Session.close_booked B isOpen made).mono ?_)
      intro closed now shown
      cases closed with
      | error e => exact shown
      | ok _ => exact shown
    | error e => exact fulfils_bind.mpr ((Session.close_booked B isOpen made).mono fun _ _ h => h)
    | unwound why =>
      exact fulfils_bind.mpr ((Session.drop_booked B isOpen made).mono fun _ _ h => h)

namespace Driver

theorem check_booked : check.Fulfils C (fun _ now => B.Shows now out) state := by
  have owed := B.owes shows (c := .queryEmulation) trivial
  refine fulfils_ask_bind.mpr ⟨owed, fun emulated _ => ?_⟩
  have asked := B.keeps shows (e := ⟨.queryEmulation, emulated⟩) rfl rfl
  match emulated with
  | .error _ => exact asked
  | .ok true => exact asked
  | .ok false =>
    have owedNow := B.owes asked (c := .loadEntry) trivial
    refine fulfils_ask_bind.mpr ⟨owedNow, fun loaded _ => ?_⟩
    have tried := B.keeps asked (e := ⟨.loadEntry, loaded⟩) rfl rfl
    cases loaded with
    | error e => exact tried
    | ok entry =>
      refine fulfils_bind.mpr ((entry.probeVersion_booked B tried).mono ?_)
      intro version now shown
      cases version with
      | ok _ =>
        dsimp only
        split
        · exact shown
        · exact shown
      | error e => exact shown
      | unwound why => exact shown

theorem enter_booked (d : Driver) : d.enter.Fulfils C (fun _ now => B.Shows now out) state := by
  unfold enter
  split
  · exact shows
  · refine fulfils_bind.mpr ((check_booked B shows).mono ?_)
    intro outcome now shown
    cases outcome with
    | ok entry => exact shown
    | error reason => exact shown
    | unwound why => exact shown

theorem openSession_booked (d : Driver) (filter : String) (layer : Layer) (priority : Int)
    (flags : Flags) :
    (d.openSession filter layer priority flags).Fulfils C
      (fun r now => match r.1 with
        | .ok s => s.Open ∧ B.Shows now (s.tokens + out)
        | _ => B.Shows now out) state := by
  unfold openSession
  split
  · exact shows
  · split
    · exact shows
    · refine fulfils_bind.mpr ((d.enter_booked B shows).mono ?_)
      intro entered now shown
      match entered with
      | (.error _, _) => exact shown
      | (.ok entry, _) =>
        refine fulfils_bind.mpr ((Session.openWith_booked B _ _ _ _ _ shown).mono ?_)
        intro reply now made
        cases reply with
        | error e => exact made
        | ok s => exact made

theorem version_booked (d : Driver) :
    d.version.Fulfils C (fun _ now => B.Shows now out) state := by
  refine fulfils_bind.mpr ((d.enter_booked B shows).mono ?_)
  intro entered now shown
  match entered with
  | (.error _, _) => exact shown
  | (.ok entry, _) =>
    exact fulfils_bind.mpr ((entry.probeVersion_booked B shown).mono fun _ _ h => h)

end Driver

end Gate

end PacketDiversion
