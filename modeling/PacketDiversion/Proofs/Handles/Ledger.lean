import Mathlib.Data.List.Induction
import Mathlib.Data.Multiset.ZeroCons
import Mathlib.Data.Multiset.UnionInter
import PacketDiversion.Proofs.Contract

/-!
# The ledger of handles

A handle is outstanding from the moment the system hands it out until it is passed back. The ledger
follows the outstanding handles through a sequence of events. Under its contract the system hands
out no handle that is outstanding, and a program passes back, and uses, only handles that are. Then
no handle is outstanding twice (`nodup_outstanding`), and what happens to one number is an unbroken
alternation of being handed out and being passed back (`dealings_eq`).
-/

namespace PacketDiversion

/-! ### Events that move handles -/

/-- The handle that an event hands out. -/
def Event.granted? : Event → Option Handle
  | ⟨.openSession .., .ok h⟩ => some h
  | ⟨.createEvent, .ok h⟩ => some h
  | _ => none

/-- The handle that an event passes back, whatever the system answers to it. -/
def Event.released? : Event → Option Handle
  | ⟨.closeHandle h, _⟩ => some h
  | _ => none

theorem Event.granted?_of_released? {e : Event} {h : Handle} (hr : e.released? = some h) :
    e.granted? = none := by
  unfold Event.released? at hr
  split at hr
  · rfl
  · cases hr

theorem Event.call_of_released? {e : Event} {h : Handle} (hr : e.released? = some h) :
    e.call = .closeHandle h := by
  unfold Event.released? at hr
  split at hr
  · rw [Option.some.inj hr]
  · cases hr

/-- No session is given the invalid handle, and no event the null handle. -/
def Event.Proper : Event → Prop
  | ⟨.openSession .., .ok h⟩ => h ≠ Handle.invalid
  | ⟨.createEvent, .ok h⟩ => h ≠ Handle.null
  | _ => True

instance : DecidablePred Event.Proper
  | ⟨.openSession .., .ok h⟩ => inferInstanceAs (Decidable (h ≠ Handle.invalid))
  | ⟨.createEvent, .ok h⟩ => inferInstanceAs (Decidable (h ≠ Handle.null))
  | ⟨.openSession .., .error _⟩ | ⟨.createEvent, .error _⟩ => isTrue trivial
  | ⟨.queryEmulation, _⟩ | ⟨.loadEntry, _⟩ | ⟨.closeHandle _, _⟩ => isTrue trivial
  | ⟨.control .., _⟩ | ⟨.result .., _⟩ => isTrue trivial

/-- A call uses outstanding handles only; a request may also do without an event. -/
def Call.Covered (out : Multiset Handle) : Call → Prop
  | .closeHandle h => h ∈ out
  | .control h _ block => h ∈ out ∧ (block.event ∈ out ∨ block.event = Handle.null)
  | .result h event _ => h ∈ out ∧ (event ∈ out ∨ event = Handle.null)
  | _ => True

namespace Handles

/-- The outstanding handles after an event. -/
def record (out : Multiset Handle) (e : Event) : Multiset Handle :=
  match e.granted?, e.released? with
  | some h, _ => h ::ₘ out
  | none, some h => out.erase h
  | none, none => out

/-- The contract about handles: the system hands out fresh and proper ones, the program passes back
and uses outstanding ones. -/
def contract : Contract (Multiset Handle) where
  next := record
  Promised out e := e.Proper ∧ ∀ h, e.granted? = some h → h ∉ out
  Owed out c := c.Covered out

/-- The handles handed out and not yet passed back, after some events from the start. -/
def outstanding (events : List Event) : Multiset Handle := contract.after 0 events

/-- The system hands out proper handles only, and none that is outstanding. -/
def Fresh (events : List Event) : Prop := contract.Promises 0 events

instance (out : Multiset Handle) (e : Event) : Decidable (contract.Promised out e) :=
  inferInstanceAs (Decidable (e.Proper ∧ ∀ h ∈ e.granted?, h ∉ out))

instance : DecidablePred Fresh := fun events => contract.decidableThroughout _ 0 events

theorem outstanding_append (before rest : List Event) :
    outstanding (before ++ rest) = contract.after (outstanding before) rest :=
  contract.after_append 0 before rest

theorem outstanding_concat (events : List Event) (e : Event) :
    outstanding (events ++ [e]) = record (outstanding events) e :=
  outstanding_append events [e]

theorem fresh_append_iff {before rest : List Event} :
    Fresh (before ++ rest) ↔ Fresh before ∧ contract.Promises (outstanding before) rest :=
  Contract.throughout_append_iff

theorem fresh_concat_iff {events : List Event} {e : Event} :
    Fresh (events ++ [e]) ↔
      Fresh events ∧ e.Proper ∧ ∀ h, e.granted? = some h → h ∉ outstanding events := by
  rw [fresh_append_iff]
  refine and_congr_right fun _ => ?_
  exact Contract.throughout_cons_iff.trans (and_iff_left Contract.throughout_nil)

theorem proper_of_fresh {events : List Event} (fresh : Fresh events) :
    ∀ e ∈ events, e.Proper := by
  intro e he
  obtain ⟨before, rest, rfl⟩ := List.append_of_mem he
  exact (fresh before e rest rfl).1

/-! ### No handle twice -/

theorem nodup_record {out : Multiset Handle} {e : Event} (nodup : out.Nodup)
    (fresh : ∀ h, e.granted? = some h → h ∉ out) : (record out e).Nodup := by
  unfold record
  cases hgranted : e.granted? with
  | some h => exact Multiset.nodup_cons.mpr ⟨fresh h hgranted, nodup⟩
  | none =>
    cases e.released? with
    | some h => exact nodup.erase h
    | none => exact nodup

theorem nodup_after {out : Multiset Handle} {events : List Event} (nodup : out.Nodup)
    (promises : contract.Promises out events) : (contract.after out events).Nodup := by
  induction events generalizing out with
  | nil => exact nodup
  | cons e events ih =>
    obtain ⟨⟨-, granted⟩, later⟩ := Contract.throughout_cons_iff.mp promises
    exact ih (nodup_record nodup granted) later

theorem nodup_outstanding {events : List Event} (fresh : Fresh events) :
    (outstanding events).Nodup := nodup_after Multiset.nodup_zero fresh

/-! ### The dealings with one number -/

/-- What an event may do with a handle. -/
inductive Dealing
  | granted
  | released
  deriving DecidableEq, Repr

/-- What an event does with a handle. -/
def dealing? (h : Handle) (e : Event) : Option Dealing :=
  if e.granted? = some h then some .granted
  else if e.released? = some h then some .released
  else none

def dealings (h : Handle) (events : List Event) : List Dealing := events.filterMap (dealing? h)

theorem dealings_concat (h : Handle) (events : List Event) (e : Event) :
    dealings h (events ++ [e]) = dealings h events ++ (dealing? h e).toList := by
  simp only [dealings, List.filterMap_append]
  cases hd : dealing? h e with
  | none => simp [hd]
  | some d => simp [hd]

theorem mem_record_of_ne {out : Multiset Handle} {e : Event} {h : Handle}
    (hgranted : e.granted? ≠ some h) (hreleased : e.released? ≠ some h) :
    h ∈ record out e ↔ h ∈ out := by
  unfold record
  cases hg : e.granted? with
  | some other =>
    have hne : h ≠ other := by
      intro same
      exact hgranted (same ▸ hg)
    simp only [Multiset.mem_cons, hne, false_or]
  | none =>
    cases hr : e.released? with
    | some other =>
      have hne : h ≠ other := by
        intro same
        exact hreleased (same ▸ hr)
      exact Multiset.mem_erase_of_ne hne
    | none => rfl

/-- A number is handed out and passed back by turns, and has been handed out last exactly when it
is outstanding. -/
theorem dealings_eq {events : List Event} (fresh : Fresh events)
    (inTurn : ∀ before h reply rest, events = before ++ ⟨.closeHandle h, reply⟩ :: rest →
      h ∈ outstanding before) (h : Handle) :
    ∃ n, dealings h events = (List.replicate n [Dealing.granted, .released]).flatten
      ++ if h ∈ outstanding events then [.granted] else [] := by
  induction events using List.reverseRecOn with
  | nil => exact ⟨0, rfl⟩
  | append_singleton events e ih =>
    obtain ⟨hfresh, -, hgrant⟩ := fresh_concat_iff.mp fresh
    obtain ⟨n, hn⟩ := ih hfresh fun before k reply rest heq =>
      inTurn before k reply (rest ++ [e]) (by rw [heq, List.append_assoc, List.cons_append])
    rw [dealings_concat, outstanding_concat, hn]
    by_cases hg : e.granted? = some h
    · have hout : h ∉ outstanding events := hgrant h hg
      have hnow : h ∈ record (outstanding events) e := by simp [record, hg]
      refine ⟨n, ?_⟩
      simp [dealing?, hg, hout, hnow]
    · by_cases hr : e.released? = some h
      · have hout : h ∈ outstanding events := by
          obtain ⟨call, reply⟩ := e
          obtain rfl : call = .closeHandle h := Event.call_of_released? hr
          exact inTurn events h reply [] rfl
        have hnow : h ∉ record (outstanding events) e := by
          simp only [record, Event.granted?_of_released? hr, hr]
          exact (nodup_outstanding hfresh).notMem_erase
        refine ⟨n + 1, ?_⟩
        simp [dealing?, hg, hr, hout, hnow, List.replicate_succ']
      · refine ⟨n, ?_⟩
        simp [dealing?, hg, hr, mem_record_of_ne hg hr]

end Handles

end PacketDiversion
