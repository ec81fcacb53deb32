/-!
# What holds since

`Since P Q l` says of a list that `P` held of some element and `Q` of none after it: what `P`
brought about has lasted, if `Q` is what ends it.
-/

namespace PacketDiversion

variable {α : Type} {P Q : α → Prop} {l : List α}

def Since (P Q : α → Prop) (l : List α) : Prop :=
  ∃ before a after, l = before ++ a :: after ∧ P a ∧ ∀ b ∈ after, ¬ Q b

theorem not_since_nil : ¬ Since P Q [] := by
  rintro ⟨before, a, after, heq, -⟩
  simp at heq

/-- The last element decides, or leaves things as they were. -/
theorem since_concat_iff {a : α} : Since P Q (l ++ [a]) ↔ P a ∨ Since P Q l ∧ ¬ Q a := by
  constructor
  · rintro ⟨before, b, after, heq, hb, hafter⟩
    rcases List.eq_nil_or_concat after with rfl | ⟨after, c, rfl⟩
    · obtain ⟨-, hsame⟩ := List.append_inj' heq rfl
      cases hsame
      exact .inl hb
    · have hsplit : l ++ [a] = (before ++ b :: after) ++ [c] := by simpa using heq
      obtain ⟨rfl, hsame⟩ := List.append_inj' hsplit rfl
      cases hsame
      have hlast : ¬ Q a := hafter a (by simp)
      have hearly : ∀ x ∈ after, ¬ Q x := fun x hx => hafter x (by simp [hx])
      exact .inr ⟨⟨before, b, after, rfl, hb, hearly⟩, hlast⟩
  · rintro (ha | ⟨⟨before, b, after, rfl, hb, hafter⟩, ha⟩)
    · exact ⟨l, a, [], rfl, ha, nofun⟩
    · refine ⟨before, b, after ++ [a], by simp, hb, fun x hx => ?_⟩
      rcases List.mem_append.mp hx with hx | hx
      · exact hafter x hx
      · rw [List.mem_singleton.mp hx]
        exact ha

theorem Since.exists_mem (h : Since P Q l) : ∃ a ∈ l, P a := by
  obtain ⟨before, a, after, rfl, ha, -⟩ := h
  exact ⟨a, List.mem_append_right before List.mem_cons_self, ha⟩

end PacketDiversion
