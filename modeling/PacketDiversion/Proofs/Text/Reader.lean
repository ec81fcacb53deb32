import PacketDiversion.Text.Reader

/-!
# What readers give

`Gives P r` says that every value that `r` can take off a text has the property `P`. A reader that
is put together from others gives what its parts give: there is one rule for each way of putting
readers together.
-/

namespace PacketDiversion.Text.Reader

variable {α β : Type} {P : α → Prop} {Q : β → Prop} {r t : Reader α}

def Gives (P : α → Prop) (r : Reader α) : Prop :=
  ∀ (s : List Char) (a : α) (rest : List Char), r s = some (a, rest) → P a

theorem gives_any (r : Reader α) : Gives (fun _ => True) r := fun _ _ _ _ => trivial

theorem gives_pure {a : α} (h : P a) : Gives P (pure a) := by
  intro s b rest run
  cases run
  exact h

theorem gives_failure : Gives P (failure : Reader α) := by
  intro s a rest run
  cases run

/-- A reader that takes nothing and gives what is there already. -/
theorem gives_lift {o : Option α} (h : ∀ a, o = some a → P a) : Gives P (liftM o : Reader α) := by
  intro s a rest run
  obtain ⟨b, ho, hpair⟩ := Option.bind_eq_some_iff.mp run
  cases hpair
  exact h a ho

theorem Gives.bind {f : α → Reader β} (first : Gives P r) (second : ∀ a, P a → Gives Q (f a)) :
    Gives Q (r >>= f) := by
  intro s b rest run
  obtain ⟨⟨a, later⟩, hfirst, hsecond⟩ := Option.bind_eq_some_iff.mp run
  exact second a (first s a later hfirst) later b rest hsecond

/-- What comes after does not depend on what the first reader gives. -/
theorem gives_bind {f : α → Reader β} (second : ∀ a, Gives Q (f a)) : Gives Q (r >>= f) :=
  (gives_any r).bind fun a _ => second a

theorem Gives.map {f : α → β} (first : Gives P r) (h : ∀ a, P a → Q (f a)) : Gives Q (f <$> r) :=
  first.bind fun a ha => gives_pure (h a ha)

theorem gives_map {f : α → β} (h : ∀ a, Q (f a)) : Gives Q (f <$> r) :=
  (gives_any r).map fun a _ => h a

theorem Gives.seqLeft (first : Gives P r) (last : Reader β) : Gives P (r <* last) :=
  first.bind fun _ ha => gives_bind fun _ => gives_pure ha

theorem Gives.seqRight {last : Reader β} (r : Reader α) (second : Gives Q last) :
    Gives Q (r *> last) :=
  gives_bind fun _ => second

theorem Gives.orElse (first : Gives P r) (second : Gives P t) : Gives P (r <|> t) := by
  intro s a rest run
  have hcases : (r s <|> t s) = some (a, rest) := run
  cases hr : r s with
  | none =>
    rw [hr] at hcases
    exact second s a rest hcases
  | some result =>
    rw [hr] at hcases
    cases hcases
    exact first s a rest hr

theorem Gives.optional (h : Gives P r) : Gives (fun o => ∀ a ∈ o, P a) (optional r) := by
  have present : Gives (fun o => ∀ a ∈ o, P a) (some <$> r) := h.map fun a ha => by simpa using ha
  have absent : Gives (fun o => ∀ a ∈ o, P a) (pure none : Reader (Option α)) :=
    gives_pure (by simp)
  exact present.orElse absent

theorem forall_mem_items (h : Gives P r) (limit : Nat) (s : List Char) :
    ∀ a ∈ (items r limit s).1, P a := by
  induction limit generalizing s with
  | zero => simp [items]
  | succ limit ih =>
    unfold items
    cases hitem : r s with
    | none => simp
    | some result =>
      obtain ⟨first, rest⟩ := result
      simp only [List.forall_mem_cons]
      exact ⟨h s first rest hitem, ih rest⟩

theorem Gives.many (h : Gives P r) : Gives (fun values => ∀ a ∈ values, P a) (many r) := by
  intro s values rest run
  have hvalues : (items r s.length s).1 = values := congrArg Prod.fst (Option.some.inj run)
  rw [← hvalues]
  exact forall_mem_items h s.length s

theorem Gives.separated (separator : Reader Unit) (h : Gives P r) :
    Gives (fun values => ∀ a ∈ values, P a) (separated separator r) :=
  h.bind fun _ hfirst => (h.seqRight separator).many.bind fun _ hrest =>
    gives_pure (List.forall_mem_cons.mpr ⟨hfirst, hrest⟩)

theorem Gives.of_all {text : List Char} {a : α} (h : Gives P r) (run : all r text = some a) :
    P a := by
  obtain ⟨⟨b, rest⟩, hrun, hvalue⟩ := Option.map_eq_some_iff.mp run
  cases hvalue
  exact h.seqLeft atEnd text b rest hrun

end PacketDiversion.Text.Reader
