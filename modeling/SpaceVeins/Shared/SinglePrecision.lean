import SpaceVeins.Shared.FieldNumerals
import Mathlib.Analysis.SpecialFunctions.Pow.Real
import Mathlib.Data.Int.Log

/-!
# Rounding to single precision

The conversion of a real number to the nearest number with 24 binary digits, and what
computations with numbers of about one need to know of it.
-/

set_option autoImplicit false

namespace SinglePrecision

/-- What a rounding does to numbers of about one. Below one its numbers are `u` apart, from one to
two they are twice as far apart. -/
structure Rounds (toFloat : ℝ → ℝ) (u : ℝ) : Prop where
  small : ∀ x, |x| ≤ 1 → |toFloat x - x| ≤ u / 2
  error : ∀ x, |x| < 2 → |toFloat x - x| ≤ u
  gap : ∀ x, -1 < toFloat x → u ≤ 1 + toFloat x
  nonneg : ∀ x, 0 ≤ x → 0 ≤ toFloat x

/-- The nearest integer; of two the even one. -/
noncomputable def roundEven (x : ℝ) : ℤ :=
  if Int.fract x < 1 / 2 then ⌊x⌋
  else if 1 / 2 < Int.fract x then ⌊x⌋ + 1
  else if Even ⌊x⌋ then ⌊x⌋ else ⌊x⌋ + 1

theorem abs_roundEven_sub (x : ℝ) : |(roundEven x : ℝ) - x| ≤ 1 / 2 := by
  have hfloor := Int.floor_add_fract x
  have hnonneg := Int.fract_nonneg x
  have hlt := Int.fract_lt_one x
  rw [abs_le]
  unfold roundEven
  split_ifs with hlow hhigh heven
  · constructor <;> linarith
  · push_cast
    constructor <;> linarith
  · constructor <;> linarith
  · push_cast
    constructor <;> linarith

theorem roundEven_le {x : ℝ} {n : ℤ} (h : x ≤ n) : roundEven x ≤ n := by
  rcases h.eq_or_lt with rfl | hlt
  · simp [roundEven]
  · have hfloor : ⌊x⌋ + 1 ≤ n := Int.floor_lt.mpr hlt
    unfold roundEven
    split_ifs <;> omega

theorem roundEven_nonneg {x : ℝ} (h : 0 ≤ x) : 0 ≤ roundEven x := by
  have hfloor := Int.floor_nonneg.mpr h
  unfold roundEven
  split_ifs <;> omega

@[simp] theorem roundEven_intCast (n : ℤ) : roundEven n = n := by
  simp [roundEven]

theorem roundEven_eq {x : ℝ} {n : ℤ} (h : |x - n| < 1 / 2) : roundEven x = n := by
  obtain ⟨hlow, hhigh⟩ := abs_lt.mp h
  have herror := abs_le.mp (abs_roundEven_sub x)
  have hdiff : |(roundEven x - n : ℤ)| < 1 := by
    have hreal : |((roundEven x - n : ℤ) : ℝ)| < 1 := by
      rw [Int.cast_sub, abs_lt]
      constructor <;> linarith [herror.1, herror.2]
    exact_mod_cast hreal
  rw [Int.abs_lt_one_iff] at hdiff
  omega

/-- The distance of the numbers of the size of `x`. -/
noncomputable def ulp (x : ℝ) : ℝ := 2 ^ (max (Int.log 2 |x|) (-126) - 23)

theorem ulp_pos (x : ℝ) : 0 < ulp x := by
  unfold ulp
  positivity

/-- The conversion, of a number that is not too large for it. -/
noncomputable def toFloat (x : ℝ) : ℝ := roundEven (x / ulp x) * ulp x

theorem abs_toFloat_sub (x : ℝ) : |toFloat x - x| ≤ ulp x / 2 := by
  have hpos := ulp_pos x
  have hround := abs_roundEven_sub (x / ulp x)
  have heq : toFloat x - x = (roundEven (x / ulp x) - x / ulp x) * ulp x := by
    rw [toFloat]
    field_simp
  rw [heq, abs_mul, abs_of_pos hpos]
  linarith [mul_le_mul_of_nonneg_right hround hpos.le]

theorem ulp_le {x : ℝ} {k : ℤ} (hx : x ≠ 0) (hk : -126 ≤ k) (h : |x| < 2 ^ (k + 1)) :
    ulp x ≤ 2 ^ (k - 23) := by
  have hlog : Int.log 2 |x| < k + 1 :=
    (Int.lt_zpow_iff_log_lt (by norm_num) (abs_pos.mpr hx)).mp (by exact_mod_cast h)
  unfold ulp
  exact zpow_le_zpow_right₀ (by norm_num) (by omega)

/-- A number of the size `2 ^ k` is a multiple of the unit at that size. -/
theorem ulp_eq {x : ℝ} {k : ℤ} (hk : -126 ≤ k) (hlow : 2 ^ k ≤ |x|) (hhigh : |x| < 2 ^ (k + 1)) :
    ulp x = 2 ^ (k - 23) := by
  have hpos : 0 < |x| := lt_of_lt_of_le (by positivity) hlow
  have hle : k ≤ Int.log 2 |x| :=
    (Int.zpow_le_iff_le_log (by norm_num) hpos).mp (by exact_mod_cast hlow)
  have hlt : Int.log 2 |x| < k + 1 :=
    (Int.lt_zpow_iff_log_lt (by norm_num) hpos).mp (by exact_mod_cast hhigh)
  rw [ulp, show max (Int.log 2 |x|) (-126) = k by omega]

@[simp] theorem toFloat_zero : toFloat 0 = 0 := by
  simp [toFloat, roundEven]

theorem error_le {x : ℝ} {k : ℤ} (hk : -126 ≤ k) (h : |x| < 2 ^ (k + 1)) :
    |toFloat x - x| ≤ 2 ^ (k - 23) / 2 := by
  rcases eq_or_ne x 0 with rfl | hx
  · simp only [toFloat_zero, sub_self, abs_zero]
    positivity
  · linarith [abs_toFloat_sub x, ulp_le hx hk h]

theorem toFloat_eq {x : ℝ} {k n : ℤ} (hk : -126 ≤ k) (hlow : 2 ^ k ≤ |x|)
    (hhigh : |x| < 2 ^ (k + 1)) (hnear : |x - n * 2 ^ (k - 23)| < 2 ^ (k - 23) / 2) :
    toFloat x = n * 2 ^ (k - 23) := by
  have hpos : (0 : ℝ) < 2 ^ (k - 23) := by positivity
  have hround : roundEven (x / 2 ^ (k - 23)) = n := by
    apply roundEven_eq
    rw [show x / 2 ^ (k - 23) - n = (x - n * 2 ^ (k - 23)) / 2 ^ (k - 23) by field_simp, abs_div,
      abs_of_pos hpos, div_lt_iff₀ hpos]
    linarith
  rw [toFloat, ulp_eq hk hlow hhigh, hround]

/-- Between one half and one. -/
theorem toFloat_half {x : ℝ} {n : ℤ} (hlow : 1 / 2 ≤ |x|) (hhigh : |x| < 1)
    (hnear : |x * 16777216 - n| < 1 / 2) : toFloat x = n / 16777216 := by
  have hnum : (2 : ℝ) ^ ((-1 : ℤ) - 23) = 1 / 16777216 := by norm_num
  have heq := toFloat_eq (x := x) (k := -1) (n := n) (by norm_num) (by norm_num; linarith)
    (by norm_num; linarith) (by
      rw [hnum, show x - n * (1 / 16777216) = (x * 16777216 - n) / 16777216 by ring, abs_div]
      norm_num
      linarith)
  rw [heq, hnum]
  ring

theorem one_lt_toFloat {x : ℝ} (hlow : 1 + 1 / 16777216 < x) (hhigh : x < 2) :
    1 < toFloat x := by
  have habs : |x| = x := abs_of_pos (by linarith)
  have hulp : ulp x = 2 ^ (-23 : ℤ) := by
    simpa using ulp_eq (k := 0) (x := x) (by norm_num) (by rw [habs]; norm_num; linarith)
      (by rw [habs]; norm_num; linarith)
  have herror := (abs_le.mp (abs_toFloat_sub x)).1
  rw [hulp] at herror
  norm_num at herror
  linarith

theorem toFloat_of_abs_eq_one {x : ℝ} (h : |x| = 1) : toFloat x = x := by
  have hulp : ulp x = 2 ^ (-23 : ℤ) := by
    simpa using ulp_eq (k := 0) (x := x) (by norm_num) (by rw [h]; norm_num) (by rw [h]; norm_num)
  rcases (abs_eq zero_le_one).mp h with rfl | rfl
  · rw [toFloat, hulp, show (1 : ℝ) / 2 ^ (-23 : ℤ) = ((8388608 : ℤ) : ℝ) by norm_num,
      roundEven_intCast]
    norm_num
  · rw [toFloat, hulp, show (-1 : ℝ) / 2 ^ (-23 : ℤ) = ((-8388608 : ℤ) : ℝ) by norm_num,
      roundEven_intCast]
    norm_num

/-- Nothing up to minus one is rounded to more than that. -/
theorem toFloat_le_neg_one {x : ℝ} (h : x ≤ -1) : toFloat x ≤ -1 := by
  have habs : |x| = -x := abs_of_neg (by linarith)
  have hpos : 0 < |x| := by rw [habs]; linarith
  have hlog : 0 ≤ Int.log 2 |x| :=
    (Int.zpow_le_iff_le_log (by norm_num) hpos).mp (by rw [habs]; norm_num; linarith)
  have hle : ((2 : ℕ) : ℝ) ^ Int.log 2 |x| ≤ |x| := Int.zpow_log_le_self (by norm_num) hpos
  have hulp : (8388608 : ℝ) * ulp x = ((2 : ℕ) : ℝ) ^ Int.log 2 |x| := by
    rw [ulp, max_eq_left (by omega), zpow_sub₀ (by norm_num)]
    norm_num
    ring
  have hone : (1 : ℝ) ≤ ((2 : ℕ) : ℝ) ^ Int.log 2 |x| :=
    one_le_zpow₀ (by norm_num) hlog
  have hdiv : x / ulp x ≤ ((-8388608 : ℤ) : ℝ) := by
    rw [div_le_iff₀ (ulp_pos x)]
    push_cast
    linarith
  have hround : (roundEven (x / ulp x) : ℝ) ≤ -8388608 := by
    exact_mod_cast roundEven_le hdiv
  have hmul := mul_le_mul_of_nonneg_right hround (ulp_pos x).le
  rw [toFloat]
  linarith

/-- Between minus one and minus one half the numbers are `2 ^ (-24)` apart. -/
theorem gap_of_neg {x : ℝ} (hlow : -1 < x) (hhigh : x < -(1 / 2)) (h : -1 < toFloat x) :
    2 ^ (-24 : ℤ) ≤ 1 + toFloat x := by
  have habs : |x| = -x := abs_of_neg (by linarith)
  have hulp : ulp x = 2 ^ (-24 : ℤ) := by
    simpa using ulp_eq (k := -1) (x := x) (by norm_num) (by rw [habs]; norm_num; linarith)
      (by rw [habs]; norm_num; linarith)
  rw [toFloat, hulp] at h ⊢
  generalize roundEven (x / 2 ^ (-24 : ℤ)) = n at h ⊢
  norm_num at h ⊢
  have hn : -16777216 < n := by
    have : ((-16777216 : ℤ) : ℝ) < n := by
      push_cast
      linarith
    exact_mod_cast this
  have hn' : ((-16777215 : ℤ) : ℝ) ≤ n := by exact_mod_cast (by omega : -16777215 ≤ n)
  push_cast at hn'
  linarith

theorem toFloat_nonneg {x : ℝ} (h : 0 ≤ x) : 0 ≤ toFloat x :=
  mul_nonneg (by exact_mod_cast roundEven_nonneg (div_nonneg h (ulp_pos x).le)) (ulp_pos x).le

theorem rounds_toFloat : Rounds toFloat (2 ^ (-24 : ℤ)) where
  small x hx := by
    rcases hx.eq_or_lt with hone | hlt
    · rw [toFloat_of_abs_eq_one hone, sub_self, abs_zero]
      positivity
    · simpa using error_le (k := -1) (by norm_num) (by simpa using hlt)
  error x hx := by
    have herror := error_le (k := 0) (x := x) (by norm_num) (by simpa using hx)
    norm_num at herror ⊢
    exact herror
  gap x hx := by
    rcases le_or_gt x (-1) with hlow | hlow
    · exact absurd (toFloat_le_neg_one hlow) (not_le.mpr hx)
    · rcases lt_or_ge x (-(1 / 2)) with hhigh | hhigh
      · exact gap_of_neg hlow hhigh hx
      · rcases le_or_gt 0 x with hpos | hneg
        · have hround := toFloat_nonneg hpos
          norm_num
          linarith
        · have herror := error_le (k := -1) (x := x) (by norm_num)
            (by rw [abs_of_neg hneg]; norm_num; linarith)
          have hle := (abs_le.mp herror).1
          norm_num at hle ⊢
          linarith
  nonneg _ hx := toFloat_nonneg hx

end SinglePrecision
