import Mathlib.Algebra.Order.Group.Multiset
import PacketDiversion.Proofs.Handles.Ledger

/-!
# Books about handles

A token is a handle together with what it was handed out for. A contract has books if its states
show which tokens are outstanding (`Books`); what a program does under one set of books it does
under every other. The ledger of plain numbers has them (`plain`), and so has the stricter contract
of use (`usage`), under which a request needs a driver's handle for its session and an event's for
its event: a handle that was closed, or that was handed out for something else, will not do.
-/

namespace PacketDiversion

/-! ### Tokens -/

/-- What a handle is handed out for. -/
inductive Kind
  | session
  | event
  deriving DecidableEq, Repr

/-- The handle that nothing of the kind has. -/
def Kind.sentinel : Kind → Handle
  | session => Handle.invalid
  | event => Handle.null

structure Token where
  kind : Kind
  handle : Handle
  deriving DecidableEq, Repr

/-- The token that an event hands out. -/
def Event.token? : Event → Option Token
  | ⟨.openSession .., .ok h⟩ => some ⟨.session, h⟩
  | ⟨.createEvent, .ok h⟩ => some ⟨.event, h⟩
  | _ => none

theorem Event.granted?_eq (e : Event) : e.granted? = e.token?.map Token.handle := by
  obtain ⟨call, reply⟩ := e
  cases call with
  | openSession entry filter layer priority flags => cases reply <;> rfl
  | createEvent => cases reply <;> rfl
  | _ => rfl

theorem Event.Proper.sentinel {e : Event} (proper : e.Proper) {token : Token}
    (h : e.token? = some token) : token.handle ≠ token.kind.sentinel := by
  unfold token? at h
  split at h
  · cases h
    exact proper
  · cases h
    exact proper
  · cases h

theorem Event.released?_of_token? {e : Event} {token : Token} (h : e.token? = some token) :
    e.released? = none := by
  cases hreleased : e.released? with
  | none => rfl
  | some handle =>
    have hgranted := Event.granted?_of_released? hreleased
    rw [granted?_eq, h] at hgranted
    cases hgranted

/-- The handle and the event that a request is made with, or waited for with. -/
def Call.request? : Call → Option (Handle × Handle)
  | .control h _ block => some (h, block.event)
  | .result h event _ => some (h, event)
  | _ => none

/-- A call uses outstanding tokens of the right kinds; a request may be made with a spare event. -/
def Call.Backed (Spare : Handle → Prop) (out : Multiset Token) : Call → Prop
  | .closeHandle h => ∃ kind, ⟨kind, h⟩ ∈ out
  | .control h _ block =>
    ⟨.session, h⟩ ∈ out ∧ (⟨.event, block.event⟩ ∈ out ∨ Spare block.event)
  | .result h event _ => ⟨.session, h⟩ ∈ out ∧ (⟨.event, event⟩ ∈ out ∨ Spare event)
  | _ => True

theorem Call.Backed.request {Spare : Handle → Prop} {out : Multiset Token} {c : Call}
    (backed : c.Backed Spare out) {h event : Handle} (hc : c.request? = some (h, event)) :
    ⟨.session, h⟩ ∈ out ∧ (⟨.event, event⟩ ∈ out ∨ Spare event) := by
  unfold request? at hc
  split at hc
  · cases hc
    exact backed
  · cases hc
    exact backed
  · cases hc

/-! ### Books -/

/-- How the states of a contract show the tokens that are outstanding. -/
structure Books {σ : Type} (C : Contract σ) where
  Shows : σ → Multiset Token → Prop
  /-- What may stand for an event that is not there. -/
  Spare : Handle → Prop
  owes {s : σ} {out : Multiset Token} {c : Call} (shows : Shows s out)
    (backed : c.Backed Spare out) : C.Owed s c
  grants {s : σ} {out : Multiset Token} {e : Event} {token : Token} (shows : Shows s out)
    (promised : C.Promised s e) (h : e.token? = some token) :
    token.handle ≠ token.kind.sentinel ∧ Shows (C.next s e) (token ::ₘ out)
  releases {s : σ} {out : Multiset Token} {e : Event} {token : Token}
    (shows : Shows s (token ::ₘ out)) (promised : C.Promised s e)
    (h : e.released? = some token.handle) : Shows (C.next s e) out
  keeps {s : σ} {out : Multiset Token} {e : Event} (shows : Shows s out)
    (granted : e.token? = none) (released : e.released? = none) : Shows (C.next s e) out

/-- What comes of an attempt to make something: if it fails no more is outstanding than before, and
else what was made holds what is outstanding besides. -/
def Books.Made {σ ε α : Type} {C : Contract σ} (B : Books C) (holds : α → Multiset Token)
    (sound : α → Prop) (out : Multiset Token) : Except ε α → σ → Prop
  | .error _, now => B.Shows now out
  | .ok value, now => sound value ∧ B.Shows now (holds value + out)

namespace Handles

/-- The books of the ledger: it counts the numbers alone, and any event may be missing. -/
def plain : Books contract where
  Shows s out := s = out.map Token.handle
  Spare h := h = Handle.null
  owes := by
    rintro s out c rfl backed
    cases c with
    | closeHandle h =>
      obtain ⟨kind, hmem⟩ := backed
      exact Multiset.mem_map_of_mem Token.handle hmem
    | control h request block =>
      exact ⟨Multiset.mem_map_of_mem Token.handle backed.1,
        backed.2.imp_left (Multiset.mem_map_of_mem Token.handle)⟩
    | result h event wait =>
      exact ⟨Multiset.mem_map_of_mem Token.handle backed.1,
        backed.2.imp_left (Multiset.mem_map_of_mem Token.handle)⟩
    | _ => trivial
  grants := by
    rintro s out e token rfl promised h
    refine ⟨promised.1.sentinel h, ?_⟩
    have hgranted : e.granted? = some token.handle := by rw [e.granted?_eq, h]; rfl
    simp only [contract, record, hgranted, Multiset.map_cons]
  releases := by
    rintro s out e token rfl promised h
    simp only [contract, record, Event.granted?_of_released? h, h, Multiset.map_cons,
      Multiset.erase_cons_head]
  keeps := by
    rintro s out e rfl granted released
    have hgranted : e.granted? = none := by rw [e.granted?_eq, granted]; rfl
    simp only [contract, record, hgranted, released]

/-! ### The contract of use -/

/-- The outstanding tokens after an event. -/
def track (out : Multiset Token) (e : Event) : Multiset Token :=
  match e.token?, e.released? with
  | some token, _ => token ::ₘ out
  | none, some h => out.filter fun token => token.handle ≠ h
  | none, none => out

/-- The contract about the use of handles: the system hands out fresh and proper ones, so no two
tokens share a number; the program uses outstanding ones for what they were handed out for. -/
def usage (Spare : Handle → Prop) : Contract (Multiset Token) where
  next := track
  Promised out e := e.Proper ∧ (∀ h, e.granted? = some h → h ∉ out.map Token.handle)
    ∧ (out.map Token.handle).Nodup
  Owed out c := c.Backed Spare out

/-- A token that shares its number with no other goes when the number is passed back. -/
theorem filter_of_nodup {token : Token} {out : Multiset Token}
    (nodup : ((token ::ₘ out).map Token.handle).Nodup) :
    (token ::ₘ out).filter (fun other => other.handle ≠ token.handle) = out := by
  rw [Multiset.map_cons, Multiset.nodup_cons] at nodup
  rw [Multiset.filter_cons_of_neg _ (by simp), Multiset.filter_eq_self]
  intro other hother same
  exact nodup.1 (same ▸ Multiset.mem_map_of_mem Token.handle hother)

/-- The contract of use shows its tokens as they are. -/
def kinded (Spare : Handle → Prop) : Books (usage Spare) where
  Shows s out := s = out
  Spare := Spare
  owes := by
    rintro s out c rfl backed
    exact backed
  grants := by
    rintro s out e token rfl promised h
    refine ⟨promised.1.sentinel h, ?_⟩
    simp only [usage, track, h]
  releases := by
    rintro s out e token rfl promised h
    have hgranted : e.token? = none := by
      have hnone := Event.granted?_of_released? h
      rw [e.granted?_eq, Option.map_eq_none_iff] at hnone
      exact hnone
    simp only [usage, track, hgranted, h]
    exact filter_of_nodup promised.2.2
  keeps := by
    rintro s out e rfl granted released
    simp only [usage, track, granted, released]

/-- The tokens handed out and not yet passed back, after some events from the start. -/
def account (events : List Event) : Multiset Token := events.foldl track 0

theorem account_concat (events : List Event) (e : Event) :
    account (events ++ [e]) = track (account events) e := List.foldl_concat track 0 e events

theorem map_track {out : Multiset Token} (nodup : (out.map Token.handle).Nodup) (e : Event) :
    (track out e).map Token.handle = record (out.map Token.handle) e := by
  have hgranted : e.granted? = e.token?.map Token.handle := e.granted?_eq
  unfold track record
  cases htoken : e.token? with
  | some token =>
    simp only [hgranted, htoken, Option.map_some, Multiset.map_cons]
  | none =>
    cases e.released? with
    | some h =>
      simp only [hgranted, htoken, Option.map_none]
      rw [nodup.erase_eq_filter, Multiset.filter_map]
      rfl
    | none => simp only [hgranted, htoken, Option.map_none]

/-- On a system with fresh handles, the tokens have the numbers that are outstanding. -/
theorem map_account {events : List Event} (fresh : Fresh events) :
    (account events).map Token.handle = outstanding events := by
  induction events using List.reverseRecOn with
  | nil => rfl
  | append_singleton events e ih =>
    have hfresh := (fresh_concat_iff.mp fresh).1
    have nodup : ((account events).map Token.handle).Nodup := by
      rw [ih hfresh]
      exact nodup_outstanding hfresh
    rw [account_concat, map_track nodup, ih hfresh, outstanding_concat]

theorem promises_usage {events : List Event} (fresh : Fresh events) (Spare : Handle → Prop) :
    (usage Spare).Promises 0 events := by
  intro before e rest heq
  subst heq
  obtain ⟨hbefore, promised⟩ := fresh_append_iff.mp fresh
  obtain ⟨proper, granted⟩ := (Contract.throughout_cons_iff.mp promised).1
  refine ⟨proper, ?_⟩
  change (∀ h, e.granted? = some h → h ∉ (account before).map Token.handle)
    ∧ ((account before).map Token.handle).Nodup
  rw [map_account hbefore]
  exact ⟨granted, nodup_outstanding hbefore⟩

end Handles

end PacketDiversion
