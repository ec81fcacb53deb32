import PacketDiversion.Proofs.Runs

/-!
# Contracts between a program and its system

A contract follows the events with a state and says, in each state, what the program owes before it
calls and what the system promises with its reply. `Program.Fulfils` follows a program call by call
under such a contract: it is proved of a program from its parts (`fulfils_bind`), and it holds of
every run on a system that keeps its promises (`Fulfils.keeps`).
-/

namespace PacketDiversion

/-- A contract, over a state that follows the events. -/
structure Contract (σ : Type) where
  /-- The state after an event. -/
  next : σ → Event → σ
  /-- What the system promises with a reply. -/
  Promised : σ → Event → Prop
  /-- What the program owes before a call. -/
  Owed : σ → Call → Prop

namespace Contract

variable {σ : Type}

def after (C : Contract σ) (s : σ) (events : List Event) : σ := events.foldl C.next s

/-- A condition on the state and the next event that holds at every event of a sequence. -/
def Throughout (C : Contract σ) (R : σ → Event → Prop) (s : σ) (events : List Event) : Prop :=
  ∀ before e rest, events = before ++ e :: rest → R (C.after s before) e

/-- The system keeps its promises at every event of a sequence. -/
def Promises (C : Contract σ) (s : σ) (events : List Event) : Prop :=
  C.Throughout C.Promised s events

/-- The program gives what it owes at every event of a sequence. -/
def Keeps (C : Contract σ) (s : σ) (events : List Event) : Prop :=
  C.Throughout (fun s e => C.Owed s e.call) s events

@[simp] theorem after_nil (C : Contract σ) (s : σ) : C.after s [] = s := rfl

@[simp] theorem after_cons (C : Contract σ) (s : σ) (e : Event) (events : List Event) :
    C.after s (e :: events) = C.after (C.next s e) events := rfl

@[simp] theorem after_append (C : Contract σ) (s : σ) (before rest : List Event) :
    C.after s (before ++ rest) = C.after (C.after s before) rest :=
  List.foldl_append

variable {C : Contract σ} {R : σ → Event → Prop} {s : σ}

theorem throughout_nil : C.Throughout R s [] := by
  intro before e rest h
  simp at h

theorem throughout_cons_iff {e : Event} {events : List Event} :
    C.Throughout R s (e :: events) ↔ R s e ∧ C.Throughout R (C.next s e) events := by
  constructor
  · intro h
    refine ⟨h [] e events rfl, fun before e' rest heq => ?_⟩
    exact h (e :: before) e' rest (by rw [heq]; rfl)
  · intro h before e' rest heq
    obtain ⟨hhead, htail⟩ := h
    cases before with
    | nil =>
      obtain ⟨rfl, -⟩ := List.cons.inj heq
      exact hhead
    | cons first before =>
      obtain ⟨rfl, hrest⟩ := List.cons.inj heq
      exact htail before e' rest hrest

/-- A condition on each event can be checked by following the events. -/
instance decidableThroughout (C : Contract σ) (R : σ → Event → Prop)
    [∀ s e, Decidable (R s e)] :
    ∀ (s : σ) (events : List Event), Decidable (C.Throughout R s events)
  | _, [] => isTrue throughout_nil
  | s, e :: events =>
    have := decidableThroughout C R (C.next s e) events
    decidable_of_iff _ throughout_cons_iff.symm

theorem throughout_append_iff {before rest : List Event} :
    C.Throughout R s (before ++ rest) ↔
      C.Throughout R s before ∧ C.Throughout R (C.after s before) rest := by
  induction before generalizing s with
  | nil => simp only [List.nil_append, after_nil, throughout_nil, true_and]
  | cons e before ih =>
    simp only [List.cons_append, throughout_cons_iff, ih, after_cons, and_assoc]

end Contract

namespace Program

variable {σ α β : Type} {C : Contract σ} {post post' : α → σ → Prop} {s : σ}

/-- Started in a state, the program gives all that it owes and ends as `post` says, as long as the
system keeps its promises. -/
def Fulfils (C : Contract σ) : Program α → (α → σ → Prop) → σ → Prop
  | done value, post, s => post value s
  | call c next, post, s =>
    C.Owed s c ∧
      ∀ reply, C.Promised s ⟨c, reply⟩ → (next reply).Fulfils C post (C.next s ⟨c, reply⟩)
  | note _ rest, post, s => rest.Fulfils C post s

theorem fulfils_bind {p : Program α} {f : α → Program β} {post : β → σ → Prop} :
    (p >>= f).Fulfils C post s ↔ p.Fulfils C (fun value s => (f value).Fulfils C post s) s := by
  induction p generalizing s with
  | done value => rfl
  | call c next ih => simp only [call_bind, Fulfils, ih]
  | note n rest ih => simp only [note_bind, Fulfils, ih]

theorem fulfils_ask_bind {c : Call} {f : c.Reply → Program β} {post : β → σ → Prop} :
    (ask c >>= f).Fulfils C post s ↔
      C.Owed s c ∧
        ∀ reply, C.Promised s ⟨c, reply⟩ → (f reply).Fulfils C post (C.next s ⟨c, reply⟩) :=
  Iff.rfl

theorem fulfils_report_bind {n : Notice} {f : Unit → Program β} {post : β → σ → Prop} :
    (report n >>= f).Fulfils C post s ↔ (f ()).Fulfils C post s := Iff.rfl

theorem Fulfils.mono {p : Program α} (h : p.Fulfils C post s)
    (weaker : ∀ value s, post value s → post' value s) : p.Fulfils C post' s := by
  induction p generalizing s with
  | done value => exact weaker value s h
  | call c next ih => exact ⟨h.1, fun reply promised => ih reply (h.2 reply promised)⟩
  | note n rest ih => exact ih h

/-- What a program fulfils holds of each of its runs on a system that keeps its promises. -/
theorem Fulfils.keeps {p : Program α} {events : List Event} {value : α}
    (h : p.Fulfils C post s) (run : Runs p events value) (promises : C.Promises s events) :
    C.Keeps s events ∧ post value (C.after s events) := by
  induction run generalizing s with
  | done value => exact ⟨Contract.throughout_nil, h⟩
  | call reply rest ih =>
    obtain ⟨promised, later⟩ := Contract.throughout_cons_iff.mp promises
    obtain ⟨kept, hpost⟩ := ih (h.2 reply promised) later
    exact ⟨Contract.throughout_cons_iff.mpr ⟨h.1, kept⟩, hpost⟩
  | note rest ih => exact ih h promises

end Program

/-! ### Conditions on calls -/

/-- The contract of a program whose calls all meet a condition. The system promises nothing. -/
def Contract.each (Q : Call → Prop) : Contract Unit where
  next _ _ := ()
  Promised _ _ := True
  Owed _ c := Q c

theorem Program.Fulfils.calls {α : Type} {Q : Call → Prop} {p : Program α}
    {post : α → Unit → Prop} (h : p.Fulfils (.each Q) post ()) {events : List Event} {value : α}
    (run : Runs p events value) : (∀ e ∈ events, Q e.call) ∧ post value () := by
  obtain ⟨keeps, hpost⟩ := h.keeps run fun _ _ _ _ => trivial
  refine ⟨fun e he => ?_, hpost⟩
  obtain ⟨before, rest, heq⟩ := List.append_of_mem he
  exact keeps before e rest heq

end PacketDiversion
