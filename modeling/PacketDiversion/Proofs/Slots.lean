import Mathlib.Algebra.BigOperators.Group.List.Basic
import PacketDiversion.Client.Slots

/-!
# Totals over numbered slots

`Slots.total f s` adds up what `f` makes of each value. Filling, replacing and emptying a slot
change a total by the values that come and go, as long as the slots are listed in order
(`Slots.Ordered`), which every operation keeps.
-/

namespace PacketDiversion.Slots

variable {α M : Type} [AddCommMonoid M]

/-- The numbers of the slots in use are listed in ascending order. -/
def Ordered (s : Slots α) : Prop := s.entries.Pairwise fun a b => a.1 < b.1

/-- What `f` makes of the values, added up. -/
def total (f : α → M) (s : Slots α) : M := (s.values.map f).sum

theorem ordered_empty : Ordered ({} : Slots α) := List.Pairwise.nil

/-! ### Entries -/

theorem mem_of_lookup {n : Nat} {value : α} {entries : List (Nat × α)}
    (h : entries.lookup n = some value) : (n, value) ∈ entries := by
  obtain ⟨before, after, rfl, -⟩ := List.lookup_eq_some_iff.mp h
  simp

theorem mem_insert {n : Nat} {value : α} {entries : List (Nat × α)} {e : Nat × α}
    (h : e ∈ insert n value entries) : e = (n, value) ∨ e ∈ entries := by
  induction entries with
  | nil => exact .inl (by simpa [insert] using h)
  | cons first rest ih =>
    obtain ⟨m, other⟩ := first
    unfold insert at h
    split at h
    · exact (List.mem_cons.mp h).imp_right id
    · split at h
      · exact (List.mem_cons.mp h).imp_right (List.mem_cons_of_mem _)
      · rcases List.mem_cons.mp h with rfl | h
        · exact .inr List.mem_cons_self
        · exact (ih h).imp_right (List.mem_cons_of_mem _)

theorem pairwise_insert {n : Nat} {value : α} {entries : List (Nat × α)}
    (h : entries.Pairwise fun a b => a.1 < b.1) :
    (insert n value entries).Pairwise fun a b => a.1 < b.1 := by
  induction entries with
  | nil => exact List.pairwise_singleton _ _
  | cons first rest ih =>
    obtain ⟨m, other⟩ := first
    obtain ⟨hfirst, hrest⟩ := List.pairwise_cons.mp h
    unfold insert
    split
    · rename_i hlt
      refine List.pairwise_cons.mpr ⟨fun e he => ?_, h⟩
      rcases List.mem_cons.mp he with rfl | he
      · exact hlt
      · exact Nat.lt_trans hlt (hfirst e he)
    · split
      · rename_i heq
        exact List.pairwise_cons.mpr ⟨fun e he => heq ▸ hfirst e he, hrest⟩
      · refine List.pairwise_cons.mpr ⟨fun e he => ?_, ih hrest⟩
        rcases mem_insert he with rfl | he
        · show m < n
          omega
        · exact hfirst e he

theorem lookup_eq_none_of_lt {n : Nat} {entries : List (Nat × α)}
    (h : ∀ e ∈ entries, n < e.1) : entries.lookup n = none := by
  rw [List.lookup_eq_none_iff]
  intro e he
  have := h e he
  simp only [bne_iff_ne, ne_eq]
  omega

theorem lookup_insert_self (n : Nat) (value : α) (entries : List (Nat × α)) :
    (insert n value entries).lookup n = some value := by
  induction entries with
  | nil => simp [insert]
  | cons first rest ih =>
    obtain ⟨m, other⟩ := first
    unfold insert
    split
    · simp
    · split
      · simp
      · rename_i hne
        rw [List.lookup_cons, beq_false_of_ne hne]
        exact ih

theorem lookup_insert_of_ne {n m : Nat} (h : m ≠ n) (value : α) (entries : List (Nat × α)) :
    (insert n value entries).lookup m = entries.lookup m := by
  induction entries with
  | nil => simp [insert, List.lookup_cons, beq_false_of_ne h]
  | cons first rest ih =>
    obtain ⟨l, other⟩ := first
    unfold insert
    split
    · rw [List.lookup_cons, beq_false_of_ne h]
    · split
      · rename_i heq
        subst heq
        simp only [List.lookup_cons, beq_false_of_ne h]
      · simp only [List.lookup_cons, ih]

theorem lookup_filter_self {κ : Type} [DecidableEq κ] (n : κ) (entries : List (κ × α)) :
    (entries.filter fun e => e.1 != n).lookup n = none := by
  rw [List.lookup_eq_none_iff]
  intro e he
  have hne : (e.1 != n) = true := (List.mem_filter.mp he).2
  rw [bne_comm]
  exact hne

theorem lookup_filter_of_ne {n m : Nat} (h : m ≠ n) (entries : List (Nat × α)) :
    (entries.filter fun e => e.1 != n).lookup m = entries.lookup m := by
  induction entries with
  | nil => rfl
  | cons first rest ih =>
    obtain ⟨l, other⟩ := first
    by_cases hl : l = n
    · subst hl
      rw [List.filter_cons_of_neg (by simp), ih, List.lookup_cons, beq_false_of_ne h]
    · rw [List.filter_cons_of_pos (by simpa using hl)]
      simp only [List.lookup_cons, ih]

/-! ### Totals -/

theorem sum_insert_of_none (f : α → M) {n : Nat} {value : α} {entries : List (Nat × α)}
    (h : entries.lookup n = none) :
    ((insert n value entries).map fun e => f e.2).sum
      = f value + (entries.map fun e => f e.2).sum := by
  induction entries with
  | nil => rfl
  | cons first rest ih =>
    obtain ⟨m, other⟩ := first
    have hne : n ≠ m := by
      intro same
      subst same
      simp at h
    have hrest : rest.lookup n = none := by
      simpa [List.lookup_cons, beq_false_of_ne hne] using h
    unfold insert
    split
    · rfl
    · rw [List.map_cons, List.sum_cons, ih hrest, List.map_cons, List.sum_cons, add_left_comm]

theorem sum_insert_of_some (f : α → M) {n : Nat} {old value : α} {entries : List (Nat × α)}
    (ordered : entries.Pairwise fun a b => a.1 < b.1) (h : entries.lookup n = some old) :
    f old + ((insert n value entries).map fun e => f e.2).sum
      = f value + (entries.map fun e => f e.2).sum := by
  induction entries with
  | nil => simp at h
  | cons first rest ih =>
    obtain ⟨m, other⟩ := first
    obtain ⟨hfirst, hordered⟩ := List.pairwise_cons.mp ordered
    unfold insert
    split
    · rename_i hlt
      -- a slot below the first one is empty
      have hnone : ((m, other) :: rest).lookup n = none :=
        lookup_eq_none_of_lt fun e he => by
          rcases List.mem_cons.mp he with rfl | he
          · exact hlt
          · exact Nat.lt_trans hlt (hfirst e he)
      rw [hnone] at h
      cases h
    · split
      · rename_i heq
        subst heq
        have hold : other = old := by simpa using h
        subst hold
        simp only [List.map_cons, List.sum_cons]
        rw [add_left_comm]
      · rename_i hne
        have hrest : rest.lookup n = some old := by
          simpa [List.lookup_cons, beq_false_of_ne hne] using h
        simp only [List.map_cons, List.sum_cons]
        rw [add_left_comm, ih hordered hrest, add_left_comm]

theorem sum_filter_of_some (f : α → M) {n : Nat} {old : α} {entries : List (Nat × α)}
    (ordered : entries.Pairwise fun a b => a.1 < b.1) (h : entries.lookup n = some old) :
    (entries.map fun e => f e.2).sum
      = f old + ((entries.filter fun e => e.1 != n).map fun e => f e.2).sum := by
  induction entries with
  | nil => simp at h
  | cons first rest ih =>
    obtain ⟨m, other⟩ := first
    obtain ⟨hfirst, hordered⟩ := List.pairwise_cons.mp ordered
    by_cases hm : n = m
    · subst hm
      have hold : other = old := by simpa using h
      have hkeep : rest.filter (fun e => e.1 != n) = rest :=
        List.filter_eq_self.mpr fun e he => bne_iff_ne.mpr (Nat.ne_of_gt (hfirst e he))
      rw [List.filter_cons_of_neg (by simp), hkeep, hold]
      rfl
    · have hrest : rest.lookup n = some old := by
        simpa [List.lookup_cons, beq_false_of_ne hm] using h
      rw [List.filter_cons_of_pos (by simpa using Ne.symm hm), List.map_cons, List.sum_cons,
        ih hordered hrest, List.map_cons, List.sum_cons, add_left_comm]

theorem total_eq (f : α → M) (s : Slots α) :
    total f s = (s.entries.map fun e => f e.2).sum := by
  simp only [total, values, List.map_map, Function.comp_def]

/-- A total carried over by an additive map is the total of what is carried over. -/
theorem map_total {N : Type} [AddCommMonoid N] (g : M →+ N) (f : α → M) (s : Slots α) :
    g (total f s) = total (fun value => g (f value)) s := by
  rw [total, map_list_sum, List.map_map]
  rfl

theorem total_set_of_none (f : α → M) (value : α) {s : Slots α} {n : Nat}
    (h : s.get? n = none) : total f (s.set n value) = f value + total f s := by
  rw [total_eq, total_eq]
  exact sum_insert_of_none f h

theorem total_set_of_some (f : α → M) (value : α) {s : Slots α} {n : Nat} {old : α}
    (ordered : s.Ordered) (h : s.get? n = some old) :
    f old + total f (s.set n value) = f value + total f s := by
  rw [total_eq, total_eq]
  exact sum_insert_of_some f ordered h

theorem total_erase (f : α → M) {s : Slots α} {n : Nat} {old : α} (ordered : s.Ordered)
    (h : s.get? n = some old) : total f s = f old + total f (s.erase n) := by
  rw [total_eq, total_eq]
  exact sum_filter_of_some f ordered h

/-! ### Slots one by one -/

theorem get?_set_self (s : Slots α) (n : Nat) (value : α) : (s.set n value).get? n = some value :=
  lookup_insert_self n value s.entries

theorem get?_set_of_ne {n m : Nat} (h : m ≠ n) (s : Slots α) (value : α) :
    (s.set n value).get? m = s.get? m := lookup_insert_of_ne h value s.entries

theorem get?_erase_self (s : Slots α) (n : Nat) : (s.erase n).get? n = none :=
  lookup_filter_self n s.entries

theorem get?_erase_of_ne {n m : Nat} (h : m ≠ n) (s : Slots α) :
    (s.erase n).get? m = s.get? m := lookup_filter_of_ne h s.entries

/-! ### Order and members -/

theorem Ordered.set {s : Slots α} (ordered : s.Ordered) (n : Nat) (value : α) :
    (s.set n value).Ordered := pairwise_insert ordered

theorem Ordered.erase {s : Slots α} (ordered : s.Ordered) (n : Nat) : (s.erase n).Ordered :=
  List.Pairwise.filter _ ordered

theorem mem_values_of_get? {s : Slots α} {n : Nat} {value : α} (h : s.get? n = some value) :
    value ∈ s.values := List.mem_map.mpr ⟨(n, value), mem_of_lookup h, rfl⟩

theorem mem_values_set {s : Slots α} {n : Nat} {value other : α}
    (h : other ∈ (s.set n value).values) : other = value ∨ other ∈ s.values := by
  obtain ⟨e, he, rfl⟩ := List.mem_map.mp h
  rcases mem_insert he with rfl | he
  · exact .inl rfl
  · exact .inr (List.mem_map.mpr ⟨e, he, rfl⟩)

theorem mem_values_erase {s : Slots α} {n : Nat} {other : α}
    (h : other ∈ (s.erase n).values) : other ∈ s.values := by
  obtain ⟨e, he, rfl⟩ := List.mem_map.mp h
  exact List.mem_map.mpr ⟨e, List.mem_of_mem_filter he, rfl⟩

end PacketDiversion.Slots
