import SpaceVeins.SGP4Calls

/-!
# What a call of the propagator can end in

The return value, the error code, the arrays that are written and the distance of
the position from the centre of the Earth belong together. The iteration for
Kepler's equation stays near its start and stops where the equation holds.
-/

set_option autoImplicit false

namespace SpaceVeins.SGP4Funcs
open FailedPropagation

variable {K : Type} [Field K] [LinearOrder K] [IsStrictOrderedRing K] [FloorRing K]

def dot (p q : K × K × K) : K := p.1 * q.1 + p.2.1 * q.2.1 + p.2.2 * q.2.2

section
variable (lib : MathLibrary K)

end

/-! ## Kepler's equation -/

section
variable (lib : MathLibrary K)

/-- What is left of Kepler's equation at `e`. -/
def residual (u axnl aynl e : K) : K := u - aynl * lib.cos e + axnl * lib.sin e - e

omit [FloorRing K] in
theorem abs_projection_lt_one {axnl aynl : K} (h : axnl * axnl + aynl * aynl < 1) (e : K) :
    |lib.cos e * axnl + lib.sin e * aynl| < 1 := by
  have hsq := lib.squares e
  rw [← sq_lt_one_iff_abs_lt_one]
  nlinarith [sq_nonneg (lib.cos e * aynl - lib.sin e * axnl)]

/-- A correction is bounded, and a small one is made where little is left of the equation. -/
theorem keplerStep_spec {u axnl aynl : K} (h : axnl * axnl + aynl * aynl < 1) (e : K) :
    |(keplerStep lib u axnl aynl e).tem5| ≤ 0.95 ∧
      (|(keplerStep lib u axnl aynl e).tem5| < 1.0e-12 →
        |residual lib u axnl aynl e| < 2.0e-12) := by
  have hproj := abs_lt.mp (abs_projection_lt_one lib h e)
  have hpos : 0 < 1.0 - lib.cos e * axnl - lib.sin e * aynl := by norm_num; linarith
  have hlt : 1.0 - lib.cos e * axnl - lib.sin e * aynl < 2 := by norm_num; linarith
  generalize hden : 1.0 - lib.cos e * axnl - lib.sin e * aynl = den at hpos hlt
  have hstep : (keplerStep lib u axnl aynl e).tem5 =
      if 0.95 ≤ |residual lib u axnl aynl e / den| then
        (if 0 < residual lib u axnl aynl e / den then 0.95 else -0.95)
      else residual lib u axnl aynl e / den := by
    rw [← hden]
    rfl
  rw [hstep]
  split_ifs with hlarge hsign
  · refine ⟨(abs_of_pos (by norm_num)).le, ?_⟩
    intro hsmall
    rw [abs_of_pos (by norm_num)] at hsmall
    norm_num at hsmall
  · refine ⟨by rw [abs_neg]; exact (abs_of_pos (by norm_num)).le, ?_⟩
    intro hsmall
    rw [abs_neg, abs_of_pos (by norm_num)] at hsmall
    norm_num at hsmall
  · refine ⟨(not_le.mp hlarge).le, ?_⟩
    intro hsmall
    rw [abs_div, abs_of_pos hpos, div_lt_iff₀ hpos] at hsmall
    calc |residual lib u axnl aynl e| < 1.0e-12 * den := hsmall
      _ ≤ 1.0e-12 * 2 := mul_le_mul_of_nonneg_left hlt.le (by norm_num)
      _ = 2.0e-12 := by norm_num

/-- The correction number `n + 1` is made at the value that the first `n` lead to. -/
def corrected (u axnl aynl : K) (n : Nat) : K :=
  (fun e => (keplerStep lib u axnl aynl e).eo1)^[n] u

theorem abs_corrected_sub_le {u axnl aynl : K} (h : axnl * axnl + aynl * aynl < 1) (n : Nat) :
    |corrected lib u axnl aynl n - u| ≤ n * 0.95 := by
  induction n with
  | zero => simp [corrected]
  | succ n ih =>
    have hnext : corrected lib u axnl aynl (n + 1) = corrected lib u axnl aynl n +
        (keplerStep lib u axnl aynl (corrected lib u axnl aynl n)).tem5 := by
      rw [corrected, Function.iterate_succ_apply']
      rfl
    have hstep := (keplerStep_spec lib h (u := u) (corrected lib u axnl aynl n)).1
    calc |corrected lib u axnl aynl (n + 1) - u|
        = |(corrected lib u axnl aynl n - u) +
            (keplerStep lib u axnl aynl (corrected lib u axnl aynl n)).tem5| := by
          rw [hnext]
          congr 1
          ring
      _ ≤ n * 0.95 + 0.95 := (abs_add_le _ _).trans (add_le_add ih hstep)
      _ = (n + 1 : Nat) * 0.95 := by
          push_cast
          ring

omit [IsStrictOrderedRing K] [FloorRing K] in
/-- The loop ends after a correction that is small, or when no more are allowed. -/
theorem keplerLoop_eq (u axnl aynl : K) (n m : Nat) :
    ∃ k, m ≤ k ∧ k ≤ m + n ∧
      keplerLoop lib u axnl aynl n (keplerStep lib u axnl aynl (corrected lib u axnl aynl m)) =
        keplerStep lib u axnl aynl (corrected lib u axnl aynl k) ∧
      (k < m + n →
        |(keplerStep lib u axnl aynl (corrected lib u axnl aynl k)).tem5| < 1.0e-12) := by
  induction n generalizing m with
  | zero => exact ⟨m, le_rfl, le_rfl, rfl, fun h => absurd h (lt_irrefl m)⟩
  | succ n ih =>
    rw [keplerLoop]
    split_ifs with hlarge
    · have hnext : (keplerStep lib u axnl aynl (corrected lib u axnl aynl m)).eo1 =
          corrected lib u axnl aynl (m + 1) := by
        rw [corrected, corrected, Function.iterate_succ_apply']
      rw [hnext]
      obtain ⟨k, hm, hn, heq, hsmall⟩ := ih (m + 1)
      exact ⟨k, by omega, by omega, heq, fun hk => hsmall (by omega)⟩
    · exact ⟨m, le_rfl, by omega, rfl, fun _ => not_le.mp hlarge⟩

/-- **The iteration for Kepler's equation**: the value `e` whose sine and cosine it leaves is at
most 8.55 from the start and 0.95 from the value returned; the equation holds at `e` up to 2e-12
unless all ten corrections have been made. -/
theorem solveKepler_spec {u axnl aynl : K} (h : axnl * axnl + aynl * aynl < 1) :
    ∃ n ≤ 9, ∃ e, e = corrected lib u axnl aynl n ∧
      (solveKepler lib u axnl aynl).sineo1 = lib.sin e ∧
      (solveKepler lib u axnl aynl).coseo1 = lib.cos e ∧
      |e - u| ≤ 8.55 ∧ |(solveKepler lib u axnl aynl).eo1 - e| ≤ 0.95 ∧
      (n < 9 → |residual lib u axnl aynl e| < 2.0e-12 ∧
        |(solveKepler lib u axnl aynl).eo1 - e| < 1.0e-12) := by
  obtain ⟨n, -, hn, heq, hsmall⟩ := keplerLoop_eq lib u axnl aynl 9 0
  have hsolve : solveKepler lib u axnl aynl =
      keplerStep lib u axnl aynl (corrected lib u axnl aynl n) := heq
  have hspec := keplerStep_spec lib h (u := u) (corrected lib u axnl aynl n)
  have hback : (keplerStep lib u axnl aynl (corrected lib u axnl aynl n)).eo1 -
      corrected lib u axnl aynl n =
        (keplerStep lib u axnl aynl (corrected lib u axnl aynl n)).tem5 :=
    add_sub_cancel_left _ _
  refine ⟨n, by omega, _, rfl, ?_, ?_, ?_, ?_, ?_⟩
  · rw [hsolve]
    rfl
  · rw [hsolve]
    rfl
  · refine (abs_corrected_sub_le lib h n).trans ?_
    have hcast : (n : K) ≤ 9 := by exact_mod_cast (by omega : n ≤ 9)
    calc (n : K) * 0.95 ≤ 9 * 0.95 := mul_le_mul_of_nonneg_right hcast (by norm_num)
      _ = 8.55 := by norm_num
  · rw [hsolve, hback]
    exact hspec.1
  · intro hlt
    rw [hsolve, hback]
    have := hsmall (by omega)
    exact ⟨hspec.2 this, this⟩

theorem solveKepler_spec_tenth :
    ∃ n ≤ 9, ∃ e : ℝ, e = corrected realMath 3 (1 / 10) 0 n ∧
      (solveKepler realMath 3 (1 / 10) 0).sineo1 = realMath.sin e ∧
      (solveKepler realMath 3 (1 / 10) 0).coseo1 = realMath.cos e ∧
      |e - 3| ≤ 8.55 ∧ |(solveKepler realMath 3 (1 / 10) 0).eo1 - e| ≤ 0.95 ∧
      (n < 9 → |residual realMath 3 (1 / 10) 0 e| < 2.0e-12 ∧
        |(solveKepler realMath 3 (1 / 10) 0).eo1 - e| < 1.0e-12) :=
  solveKepler_spec realMath (by norm_num)

end
end SpaceVeins.SGP4Funcs
