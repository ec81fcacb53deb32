/-!
# Filters

A filter selects the packets that a session diverts. The driver reads it as a text that ends at its
first NUL, so a filter holds none. `Filter.parse` refuses the others and says where the first NUL
stands.
-/

namespace PacketDiversion

/-- A filter text without NUL. -/
structure Filter where
  text : String
  nul_free : '\x00' ∉ text.toList
  deriving DecidableEq

namespace Filter

/-- Offset, in bytes of UTF-8, of the first NUL of a text, or the text's length if it has none. -/
def nulOffset : List Char → Nat
  | [] => 0
  | c :: rest => if c = '\x00' then 0 else c.utf8Size + nulOffset rest

/-- The filter with a given text, or the offset of the NUL that it must not hold. -/
def parse (s : String) : Except Nat Filter :=
  if h : '\x00' ∈ s.toList then .error (nulOffset s.toList) else .ok ⟨s, h⟩

/-- The filter that matches no packet: for sessions that only ask the driver about itself. -/
def matchNothing : Filter := ⟨"false", by decide⟩

theorem parse_eq_ok_iff {s : String} {f : Filter} : parse s = .ok f ↔ f.text = s := by
  unfold parse
  constructor
  · intro h
    split at h
    · simp at h
    · simp only [Except.ok.injEq] at h
      exact h ▸ rfl
  · rintro rfl
    rw [dif_neg f.nul_free]

end Filter

end PacketDiversion
