import Mathlib.Algebra.Order.Floor.Ring
import Mathlib.Algebra.Order.Field.Basic
import Mathlib.Tactic.Linarith
import Mathlib.Tactic.Positivity
import Mathlib.Tactic.Ring

/-!
# Spacing of the integer parts of the multiples of a number

The multiples `0, σ, 2σ, ...` are `σ` apart. Their integer parts are `σ` apart
only if nothing is cut off, that is, if `σ` is itself an integer.
-/

set_option autoImplicit false

namespace FloorSpacing

variable {K : Type*} [Field K] [LinearOrder K] [IsStrictOrderedRing K] [FloorRing K]

theorem floor_mul_intCast (i : ℕ) (k : ℤ) : ⌊(i : K) * (k : K)⌋ = i * k := by
  rw [← Int.cast_natCast, ← Int.cast_mul, Int.floor_intCast]

theorem spacing_of_int {σ : K} (hσ : 0 < σ) {k : ℤ} (hk : σ = k) {i j : ℕ} (hij : i < j) :
    σ ≤ ((⌊(j : K) * σ⌋ - ⌊(i : K) * σ⌋ : ℤ) : K) := by
  subst hk
  have hk : 0 < k := by exact_mod_cast hσ
  rw [floor_mul_intCast, floor_mul_intCast, Int.cast_le, ← sub_mul]
  have hgap : (1 : ℤ) ≤ j - i := by omega
  calc k = 1 * k := (one_mul k).symm
    _ ≤ (j - i) * k := mul_le_mul_of_nonneg_right hgap hk.le

theorem eq_floor_of_spacing {σ : K}
    (h : σ ≤ ((⌊((1 : ℕ) : K) * σ⌋ - ⌊((0 : ℕ) : K) * σ⌋ : ℤ) : K)) : σ = ⌊σ⌋ := by
  have h' : σ ≤ (⌊σ⌋ : K) := by simpa using h
  exact le_antisymm h' (Int.floor_le σ)

theorem spacing_iff {σ : K} (hσ : 0 < σ) (n : ℕ) :
    (∀ i j : ℕ, i < j → j < n → σ ≤ ((⌊(j : K) * σ⌋ - ⌊(i : K) * σ⌋ : ℤ) : K)) ↔
      n ≤ 1 ∨ ∃ k : ℤ, σ = k := by
  constructor
  · intro h
    rcases Nat.lt_or_ge 1 n with hn | hn
    · exact Or.inr ⟨⌊σ⌋, eq_floor_of_spacing (h 0 1 (by omega) hn)⟩
    · exact Or.inl hn
  · rintro (hn | ⟨k, hk⟩) i j hij hj
    · omega
    · exact spacing_of_int hσ hk hij

end FloorSpacing
