import Mathlib.Data.List.Basic
import PacketDiversion.Version

/-!
# Versions and their texts

The gate decides by the text of a version. Decimal digits tell a number and hold no dot, so the text
tells both numbers, and the supported texts stand for the numbers 2.0 to 2.2 and for no others
(`text_decides_as_numbers`).
-/

namespace PacketDiversion.Version

/-! ### Texts -/

theorem toList_text (v : Version) :
    v.text.toList = Nat.toDigits 10 v.major.toNat ++ '.' :: Nat.toDigits 10 v.minor.toNat := by
  have htext : v.text = v.major.toNat.repr ++ "." ++ v.minor.toNat.repr := rfl
  simp [htext]

theorem dot_notMem_toDigits (n : Nat) : '.' ∉ Nat.toDigits 10 n := by
  intro dot
  have digit := Nat.isDigit_of_mem_toDigits (by omega) (by omega) dot
  exact absurd digit (by decide)

theorem toDigits_inj {m n : Nat} (h : Nat.toDigits 10 m = Nat.toDigits 10 n) : m = n := by
  have hvalue := congrArg (Nat.ofDigitChars 10 · 0) h
  simpa using hvalue

theorem text_inj {v w : Version} : v.text = w.text ↔ v = w := by
  constructor
  · intro same
    have hlists : v.text.toList = w.text.toList := by rw [same]
    rw [toList_text, toList_text, List.append_cons_inj_of_notMem (dot_notMem_toDigits _)
      (dot_notMem_toDigits _)] at hlists
    obtain ⟨hmajor, -, hminor⟩ := hlists
    have major := UInt64.toNat_inj.mp (toDigits_inj hmajor)
    have minor := UInt64.toNat_inj.mp (toDigits_inj hminor)
    cases v
    cases w
    simp_all only
  · rintro rfl
    rfl

/-! ### Order -/

theorem isLE_cmp_iff {v w : Version} :
    (cmp v w).isLE = true ↔ v.major < w.major ∨ v.major = w.major ∧ v.minor ≤ w.minor := by
  rw [cmp, Ordering.isLE_then_iff_or, Std.compare_eq_iff_eq, Std.isLE_compare,
    Std.compare_eq_lt]

/-! ### The supported versions -/

theorem supported_eq : supported = [text ⟨2, 0⟩, text ⟨2, 1⟩, text ⟨2, 2⟩] := by decide +kernel

theorem isSupported_iff_mem (v : Version) :
    v.isSupported = true ↔ v = ⟨2, 0⟩ ∨ v = ⟨2, 1⟩ ∨ v = ⟨2, 2⟩ := by
  rw [isSupported, supported_eq, List.contains_iff_mem]
  simp only [List.mem_cons, List.not_mem_nil, or_false, text_inj]

/-- Versions with the same text are equal, and the supported ones are those with the major number 2
and a minor number of at most 2: in the order of versions, those from 2.0 to 2.2. -/
theorem text_decides_as_numbers (v w : Version) :
    (v.text = w.text ↔ v = w)
      ∧ (v.isSupported = true ↔ v.major = 2 ∧ v.minor ≤ 2)
      ∧ (v.isSupported = true ↔ (cmp ⟨2, 0⟩ v).isLE = true ∧ (cmp v ⟨2, 2⟩).isLE = true) := by
  obtain ⟨major, minor⟩ := v
  have hminor : minor ≤ 2 ↔ minor = 0 ∨ minor = 1 ∨ minor = 2 := by
    simp only [UInt64.le_iff_toNat_le, ← UInt64.toNat_inj]
    change minor.toNat ≤ 2 ↔ minor.toNat = 0 ∨ minor.toNat = 1 ∨ minor.toNat = 2
    omega
  have hnumbers : isSupported ⟨major, minor⟩ = true ↔ major = 2 ∧ minor ≤ 2 := by
    rw [isSupported_iff_mem, hminor]
    simp only [Version.mk.injEq, and_or_left]
  refine ⟨text_inj, hnumbers, ?_⟩
  rw [hnumbers, isLE_cmp_iff, isLE_cmp_iff]
  constructor
  · rintro ⟨rfl, small⟩
    exact ⟨.inr ⟨rfl, UInt64.zero_le⟩, .inr ⟨rfl, small⟩⟩
  · rintro ⟨low, high⟩
    rcases high with below | ⟨rfl, small⟩
    · rcases low with above | ⟨rfl, -⟩
      · exact absurd (UInt64.lt_trans below above) (UInt64.lt_irrefl _)
      · exact absurd below (UInt64.lt_irrefl _)
    · exact ⟨rfl, small⟩

end PacketDiversion.Version
