import SpaceVeins.AntennaOrientation
import SpaceVeins.Shared.SinglePrecision
import SpaceVeins.Shared.FieldNumerals

/-!
# Directions as an antenna sees them

The direction of a signal is turned back by the orientation of the antenna. The scalar product of
two coordinates is a `float`, so that the cosine of the angle between the direction and the axis of
the antenna is one only up to rounding. All other operations are exact here.
-/

set_option autoImplicit false

open scoped Quaternion
open Quaternion (normSq)

namespace SpaceVeins

/-- What the antennas use of the mathematical library; `none` stands for NaN. The arc cosine is
that of a `float`, and is one. -/
structure AntennaMath (K : Type) [Field K] [LinearOrder K] extends OrientationMath K where
  acos : K → Option K
  pow : K → K → K
  log10 : K → K
  /-- The conversion from `double` to `float`. -/
  toFloat : K → K

namespace Coord
variable {K : Type} [Field K] [LinearOrder K]

def Y_AXIS : Coord K := ⟨0, 1, 0⟩

/-- The scalar product, whose result type is `float`. -/
def dot (lib : AntennaMath K) (a b : Coord K) : K :=
  lib.toFloat (a.x * b.x + a.y * b.y + a.z * b.z)

/-- The operator `%`. -/
def cross (a b : Coord K) : Coord K :=
  ⟨a.y * b.z - a.z * b.y, a.z * b.x - a.x * b.z, a.x * b.y - a.y * b.x⟩

end Coord

namespace Quaternion
variable {K : Type} [Field K] [LinearOrder K] (lib : AntennaMath K)

def mul (p q : Quaternion K) : Quaternion K where
  s := p.s * q.s - p.v.dot lib q.v
  v := ⟨p.v.y * q.v.z - p.v.z * q.v.y + p.s * q.v.x + p.v.x * q.s,
    p.v.z * q.v.x - p.v.x * q.v.z + p.s * q.v.y + p.v.y * q.s,
    p.v.x * q.v.y - p.v.y * q.v.x + p.s * q.v.z + p.v.z * q.s⟩

def div (q : Quaternion K) (scale : K) : Quaternion K := ⟨q.s / scale, q.v.div scale⟩

def lengthSquared (q : Quaternion K) : K := q.s * q.s + q.v.dot lib q.v

def length (q : Quaternion K) : K := lib.sqrt (q.lengthSquared lib)

def normalized (q : Quaternion K) : Option (Quaternion K) :=
  if q.length lib = 0 then none else some (q.div (q.length lib))

def conjugated (q : Quaternion K) : Quaternion K := ⟨q.s, -q.v.x, -q.v.y, -q.v.z⟩

def inverse (q : Quaternion K) : Option (Quaternion K) :=
  if q.lengthSquared lib = 0 then none else some (q.conjugated.div (q.lengthSquared lib))

def rotate (q : Quaternion K) (v : Coord K) : Coord K :=
  ((q.mul lib ⟨0, v⟩).mul lib q.conjugated).v

def rotationFromTo (start finish : Coord K) : Option (Quaternion K) := do
  let v0 ← start.normalize lib.toLibm
  let v1 ← finish.normalize lib.toLibm
  let d := v0.dot lib v1
  if 1 ≤ d then some ⟨1, 0, 0, 0⟩
  else if d ≤ -1 then
    let axis := Coord.X_AXIS.cross v0
    let axis := if axis.length lib.toLibm = 0 then Coord.Y_AXIS.cross v0 else axis
    normalized lib ⟨0, axis⟩
  else
    let s := lib.sqrt ((1 + d) * 2.0)
    let c := (v0.cross v1).div s
    normalized lib ⟨s * 0.5, c⟩

end Quaternion

/-- The cosine of the angle between the direction and the axis of the antenna. -/
def axisCosine {K : Type} [Field K] [LinearOrder K] (lib : AntennaMath K)
    (direction : Quaternion K) : K :=
  (direction.rotate lib Coord.X_AXIS).dot lib Coord.X_AXIS

/-- The library functions on the real numbers, with this conversion to `float`. -/
noncomputable def realAntennaMath (toFloat : ℝ → ℝ) : AntennaMath ℝ where
  toOrientationMath := realOrientationMath
  acos x := if |x| ≤ 1 then some (toFloat (Real.arccos x)) else none
  pow := Real.rpow
  log10 := Real.logb 10
  toFloat := toFloat

namespace Coord

/-- The scalar product before its rounding. -/
def exactDot (a b : Coord ℝ) : ℝ := a.x * b.x + a.y * b.y + a.z * b.z

theorem exactDot_div (a b : Coord ℝ) (n : ℝ) : a.exactDot (b.div n) = a.exactDot b / n := by
  simp only [exactDot, div]
  ring

theorem sq_exactDot_le (a b : Coord ℝ) :
    a.exactDot b ^ 2 ≤ a.squareLength * b.squareLength := by
  have hlagrange : a.squareLength * b.squareLength - a.exactDot b ^ 2 =
      (a.cross b).squareLength := by
    simp only [squareLength, exactDot, cross]
    ring
  linarith [(a.cross b).squareLength_nonneg]

end Coord

namespace Quaternion

/-- The squared length of a quaternion, without any rounding. -/
noncomputable def exactNorm (q : Quaternion ℝ) : ℝ := normSq q.toMathlib

theorem exactNorm_eq (q : Quaternion ℝ) : q.exactNorm = q.s * q.s + q.v.squareLength := by
  simp only [exactNorm, Quaternion.normSq_def', toMathlib_re, toMathlib_imI, toMathlib_imJ,
    toMathlib_imK, Coord.squareLength]
  ring

end Quaternion

section Rounding
open SinglePrecision
variable {toFloat : ℝ → ℝ} {u : ℝ}

/-- Half the sum of the angles, with the rounded cosine `d` in the place of `x`. -/
theorem halfway_estimates {x d : ℝ} (hlow : -1 ≤ x) (hhigh : x ≤ 1) (herror : |d - x| ≤ u / 2)
    (hgap : u ≤ 1 + d) (hpos : 0 < 1 + d) (hu : u ≤ 1 / 1000) {r : ℝ}
    (hr : r * (2 * (1 + d)) = 1 - x ^ 2) :
    r ≤ 3 / 2 ∧ 49 / 100 ≤ (1 + d) / 2 + r ∧
      (1 + d) / 2 + r - u / 4 ≤ x * ((1 + d) / 2 - r) + (1 - x ^ 2) ∧
      x * ((1 + d) / 2 - r) + (1 - x ^ 2) ≤ (1 + d) / 2 + r := by
  obtain ⟨e, he⟩ : ∃ e, e = d - x := ⟨_, rfl⟩
  obtain ⟨a, ha⟩ : ∃ a, a = 1 + d := ⟨_, rfl⟩
  rw [← he] at herror
  rw [← ha] at hgap hpos hr ⊢
  obtain ⟨hel, heh⟩ := abs_le.mp herror
  have hx : x = a - 1 - e := by linarith
  have hu0 : 0 ≤ u := by linarith
  have hone : 1 - x ^ 2 = (1 - x) * (a - e) := by
    rw [hx]
    ring
  have hle : (1 - x) * e ≤ a := by
    have hleft := mul_le_mul_of_nonneg_left heh (show 0 ≤ 1 - x by linarith)
    have hright := mul_le_mul_of_nonneg_right (show 1 - x ≤ 2 by linarith)
      (show 0 ≤ u / 2 by linarith)
    linarith
  have hsq : (1 - x) * e ^ 2 ≤ u * a / 2 := by
    have hprod := mul_le_mul (show 1 - x ≤ 2 by linarith)
      (sq_le_sq' (show -(u / 2) ≤ e by linarith) heh) (sq_nonneg e) zero_le_two
    have hua := mul_le_mul_of_nonneg_left hgap hu0
    linarith
  have hkey : ((a / 2 + r) - (x * (a / 2 - r) + (1 - x ^ 2))) * (2 * a) = (1 - x) * e ^ 2 := by
    rw [show e = a - 1 - x by linarith]
    linear_combination (1 + x) * hr
  refine ⟨?_, ?_, ?_, ?_⟩
  · have : r * (2 * a) ≤ 3 / 2 * (2 * a) := by
      have hright := mul_le_mul_of_nonneg_right (show 1 - x ≤ 2 by linarith)
        (show 0 ≤ a - e by linarith)
      rw [hr, hone]
      linarith
    exact le_of_mul_le_mul_right this (by linarith)
  · have : 49 / 100 * (2 * a) ≤ (a / 2 + r) * (2 * a) := by
      have hax : a * x = a ^ 2 - a - a * e := by
        rw [hx]
        ring
      have hae : 0 ≤ a * (2 / 100 + e) := mul_nonneg hpos.le (by linarith)
      rw [add_mul, hr, hone]
      linarith
    exact le_of_mul_le_mul_right this (by linarith)
  · have : ((a / 2 + r) - (x * (a / 2 - r) + (1 - x ^ 2))) * (2 * a) ≤ u / 4 * (2 * a) := by
      rw [hkey]
      linarith
    linarith [le_of_mul_le_mul_right this (by linarith)]
  · have : 0 * (2 * a) ≤ ((a / 2 + r) - (x * (a / 2 - r) + (1 - x ^ 2))) * (2 * a) := by
      rw [hkey, zero_mul]
      exact mul_nonneg (by linarith) (sq_nonneg e)
    linarith [le_of_mul_le_mul_right this (by linarith)]

theorem abs_div_sub_one_le {a n k : ℝ} (hn : 48 / 100 ≤ n) (h : |a - n| ≤ 48 / 100 * k) :
    |a / n - 1| ≤ k := by
  have hpos : 0 < n := by linarith
  have hk : 0 ≤ k := by linarith [(abs_nonneg (a - n)).trans h]
  rw [show a / n - 1 = (a - n) / n by field_simp, abs_div, abs_of_pos hpos, div_le_iff₀ hpos]
  linarith [mul_le_mul_of_nonneg_left hn hk]

namespace Quaternion

/-- Divided by a length that is rounded. -/
theorem normalized_nearly (hround : Rounds toFloat u) (hu : u ≤ 1 / 1000) {q : Quaternion ℝ}
    (hvector : q.v.squareLength < 2) (hnorm : 49 / 100 ≤ q.exactNorm) :
    ∃ p n, normalized (realAntennaMath toFloat) q = some p ∧ |n - q.exactNorm| ≤ u ∧
      48 / 100 ≤ n ∧ p.exactNorm = q.exactNorm / n ∧ p.turnedAxis = q.turnedAxis.div n := by
  have hsplit := q.exactNorm_eq
  have hlength : q.lengthSquared (realAntennaMath toFloat) =
      q.s * q.s + toFloat q.v.squareLength := rfl
  have herror := hround.error q.v.squareLength
    (by rwa [abs_of_nonneg q.v.squareLength_nonneg])
  obtain ⟨n, hn⟩ : ∃ n, n = q.lengthSquared (realAntennaMath toFloat) := ⟨_, rfl⟩
  have hclose : |n - q.exactNorm| ≤ u := by
    rw [hn, hlength, hsplit, add_sub_add_left_eq_sub]
    exact herror
  have hpos : 48 / 100 ≤ n := by linarith [(abs_le.mp hclose).1]
  have hsqrt : Real.sqrt n ≠ 0 := Real.sqrt_ne_zero'.mpr (by linarith)
  have hsquare : Real.sqrt n * Real.sqrt n = n := Real.mul_self_sqrt (by linarith)
  have hsome : normalized (realAntennaMath toFloat) q = some (q.div (Real.sqrt n)) := by
    rw [normalized, length, ← hn]
    exact if_neg hsqrt
  refine ⟨_, n, hsome, hclose, hpos, ?_, ?_⟩
  · generalize Real.sqrt n = m at hsqrt hsquare
    subst hsquare
    simp only [exactNorm, Quaternion.normSq_def', toMathlib_re, toMathlib_imI, toMathlib_imJ,
      toMathlib_imK, div, Coord.div]
    field_simp
  · generalize Real.sqrt n = m at hsqrt hsquare
    subst hsquare
    apply Coord.ext <;> simp only [turnedAxis, div, Coord.div] <;> field_simp

/-- The half turn for a direction that is next to the opposite of the x axis. -/
theorem halfTurn_nearly (hround : Rounds toFloat u) (hu : u ≤ 1 / 1000) {w : Coord ℝ}
    (hlow : -1 ≤ w.x) (hhigh : w.x ≤ -1 + u / 2) :
    ∃ q, normalized (realAntennaMath toFloat) ⟨0, Coord.Y_AXIS.cross Coord.X_AXIS⟩ = some q ∧
      |q.exactNorm - 1| ≤ 3 * u ∧ |w.exactDot q.turnedAxis - 1| ≤ 4 * u := by
  have hvector : (⟨0, Coord.Y_AXIS.cross Coord.X_AXIS⟩ : Quaternion ℝ).v.squareLength = 1 := by
    simp [Coord.cross, Coord.X_AXIS, Coord.Y_AXIS, Coord.squareLength]
  have hnorm : (⟨0, Coord.Y_AXIS.cross Coord.X_AXIS⟩ : Quaternion ℝ).exactNorm = 1 := by
    rw [exactNorm_eq, hvector]
    norm_num
  obtain ⟨q, n, hq, hn, hpos, hqn, haxis⟩ := normalized_nearly hround hu
    (hvector.trans_lt one_lt_two) (by rw [hnorm]; norm_num)
  rw [hnorm] at hn hqn
  obtain ⟨hnl, hnh⟩ := abs_le.mp hn
  refine ⟨q, hq, ?_, ?_⟩
  · rw [hqn]
    exact abs_div_sub_one_le hpos (by rw [abs_le]; constructor <;> linarith)
  · rw [haxis, Coord.exactDot_div]
    refine abs_div_sub_one_le hpos ?_
    simp only [Coord.exactDot, turnedAxis, Coord.cross, Coord.X_AXIS, Coord.Y_AXIS]
    rw [abs_le]
    constructor <;> norm_num <;> linarith

/-- Half the sum of the angles, for all other directions. -/
theorem halfway_nearly (hround : Rounds toFloat u) (hu : u ≤ 1 / 1000) {w : Coord ℝ}
    (hw : w.squareLength = 1) (hx : |w.x| ≤ 1) (hopposite : -1 < toFloat w.x) {s : ℝ}
    (hne : s ≠ 0) (hsquare : s * s = 2 * (1 + toFloat w.x)) :
    ∃ q, normalized (realAntennaMath toFloat) ⟨s * 0.5, (Coord.X_AXIS.cross w).div s⟩ = some q ∧
      |q.exactNorm - 1| ≤ 3 * u ∧ |w.exactDot q.turnedAxis - 1| ≤ 4 * u := by
  obtain ⟨r, hr⟩ : ∃ r, r = (1 - w.x ^ 2) / (s * s) := ⟨_, rfl⟩
  have hrest : w.y ^ 2 + w.z ^ 2 = 1 - w.x ^ 2 := by
    simp only [Coord.squareLength] at hw
    linarith
  obtain ⟨hrle, hnle, hlower, hupper⟩ := halfway_estimates (abs_le.mp hx).1 (abs_le.mp hx).2
    (hround.small w.x hx) (hround.gap w.x hopposite) (by linarith) hu (r := r)
    (by rw [hr, ← hsquare]; field_simp)
  have hvector : (⟨s * 0.5, (Coord.X_AXIS.cross w).div s⟩ : Quaternion ℝ).v.squareLength = r := by
    rw [hr, ← hrest]
    simp only [Coord.cross, Coord.X_AXIS, Coord.squareLength, Coord.div]
    field_simp
    ring
  have hnorm : (⟨s * 0.5, (Coord.X_AXIS.cross w).div s⟩ : Quaternion ℝ).exactNorm =
      (1 + toFloat w.x) / 2 + r := by
    rw [exactNorm_eq, hvector]
    norm_num
    linear_combination hsquare / 4
  have hfaces : w.exactDot
      (⟨s * 0.5, (Coord.X_AXIS.cross w).div s⟩ : Quaternion ℝ).turnedAxis =
      w.x * ((1 + toFloat w.x) / 2 - r) + (1 - w.x ^ 2) := by
    rw [hr, ← hrest, show 1 + toFloat w.x = s * s / 2 by linarith]
    simp only [Coord.exactDot, turnedAxis, Coord.cross, Coord.X_AXIS, Coord.div]
    norm_num
    field_simp
    ring
  obtain ⟨q, n, hq, hn, hpos, hqn, haxis⟩ := normalized_nearly hround hu
    (q := ⟨s * 0.5, (Coord.X_AXIS.cross w).div s⟩) (by rw [hvector]; linarith)
    (by rw [hnorm]; linarith)
  rw [hnorm] at hn hqn
  obtain ⟨hnl, hnh⟩ := abs_le.mp hn
  refine ⟨q, hq, ?_, ?_⟩
  · rw [hqn]
    exact abs_div_sub_one_le hpos (by rw [abs_le]; constructor <;> linarith)
  · rw [haxis, Coord.exactDot_div, hfaces]
    exact abs_div_sub_one_le hpos (by rw [abs_le]; constructor <;> linarith)

/-- From the x axis. -/
theorem rotationFromTo_eq (toFloat : ℝ → ℝ) {finish : Coord ℝ} (hfinish : finish ≠ ⟨0, 0, 0⟩) :
    rotationFromTo (realAntennaMath toFloat) Coord.X_AXIS finish =
      if 1 ≤ toFloat finish.direction.x then some ⟨1, 0, 0, 0⟩
      else if toFloat finish.direction.x ≤ -1 then
        normalized (realAntennaMath toFloat) ⟨0, Coord.Y_AXIS.cross Coord.X_AXIS⟩
      else
        normalized (realAntennaMath toFloat)
          ⟨Real.sqrt (2 * (1 + toFloat finish.direction.x)) * 0.5,
            (Coord.X_AXIS.cross finish.direction).div
              (Real.sqrt (2 * (1 + toFloat finish.direction.x)))⟩ := by
  have hnormalize : finish.normalize (realAntennaMath toFloat).toLibm = some finish.direction :=
    Coord.normalize_eq hfinish
  have hstart : (Coord.X_AXIS : Coord ℝ).normalize (realAntennaMath toFloat).toLibm =
      some Coord.X_AXIS := by
    rw [show (realAntennaMath toFloat).toLibm = RadioMedium.realLibm from rfl,
      Coord.normalize_eq (by simp [Coord.X_AXIS])]
    simp [Coord.direction, Coord.div, Coord.X_AXIS, Coord.length, Coord.squareLength,
      RadioMedium.realLibm]
  have hdot : Coord.X_AXIS.dot (realAntennaMath toFloat) finish.direction =
      toFloat finish.direction.x := by
    simp [Coord.dot, Coord.X_AXIS, realAntennaMath]
  have hzero : (Coord.X_AXIS.cross Coord.X_AXIS : Coord ℝ).length
      (realAntennaMath toFloat).toLibm = 0 := by
    simp [Coord.cross, Coord.X_AXIS, Coord.length, Coord.squareLength, realAntennaMath,
      realOrientationMath, RadioMedium.realLibm]
  have hroot : (realAntennaMath toFloat).sqrt ((1 + toFloat finish.direction.x) * 2.0) =
      Real.sqrt (2 * (1 + toFloat finish.direction.x)) := by
    norm_num [mul_comm, realAntennaMath, realOrientationMath, RadioMedium.realLibm]
  simp only [rotationFromTo, hstart, hnormalize, Option.bind_eq_bind, Option.bind_some,
    hdot, hzero, if_true, hroot]

/-- The rotation from the x axis to a direction, up to the rounding of the scalar products. -/
theorem rotationFromTo_nearly (hround : Rounds toFloat u) (hu : u ≤ 1 / 1000)
    {finish : Coord ℝ} (hfinish : finish ≠ ⟨0, 0, 0⟩) :
    ∃ q, rotationFromTo (realAntennaMath toFloat) Coord.X_AXIS finish = some q ∧
      |q.exactNorm - 1| ≤ 3 * u ∧ |finish.direction.exactDot q.turnedAxis - 1| ≤ 4 * u := by
  have hw := Coord.squareLength_direction hfinish
  rw [rotationFromTo_eq toFloat hfinish]
  generalize finish.direction = w at hw ⊢
  have hx : |w.x| ≤ 1 := by
    rw [← sq_le_one_iff_abs_le_one]
    simp only [Coord.squareLength] at hw
    linarith [mul_self_nonneg w.y, mul_self_nonneg w.z]
  obtain ⟨hlow, hhigh⟩ := abs_le.mp hx
  obtain ⟨hel, heh⟩ := abs_le.mp (hround.small w.x hx)
  split_ifs with hsame hopposite
  · -- The direction is so near to the axis that nothing is turned.
    refine ⟨_, rfl, ?_, ?_⟩
    · simp [exactNorm, Quaternion.normSq_def']
      linarith
    · simp only [Coord.exactDot, turnedAxis]
      rw [abs_le]
      constructor <;> norm_num <;> linarith
  · exact halfTurn_nearly hround hu hlow (by linarith)
  · exact halfway_nearly hround hu hw hx (not_le.mp hopposite)
      (Real.sqrt_ne_zero'.mpr (by linarith)) (Real.mul_self_sqrt (by linarith))

/-- The inverse of an orientation, up to the rounding of its length. -/
theorem inverse_nearly (hround : Rounds toFloat u) (hu : u ≤ 1 / 1000) {q : Quaternion ℝ}
    (hq : q.exactNorm = 1) : ∃ l, |l - 1| ≤ u / 2 ∧
      q.inverse (realAntennaMath toFloat) = some (q.conjugated.div l) := by
  have hsplit := q.exactNorm_eq
  have hvector : |q.v.squareLength| ≤ 1 := by
    rw [abs_of_nonneg q.v.squareLength_nonneg]
    linarith [mul_self_nonneg q.s]
  have hlength : q.lengthSquared (realAntennaMath toFloat) =
      q.s * q.s + toFloat q.v.squareLength := rfl
  have hclose : |q.lengthSquared (realAntennaMath toFloat) - 1| ≤ u / 2 := by
    rw [hlength, ← hq, hsplit, add_sub_add_left_eq_sub]
    exact hround.small _ hvector
  refine ⟨_, hclose, if_neg fun hzero => ?_⟩
  rw [hzero] at hclose
  norm_num at hclose
  linarith

end Quaternion

theorem sq_length_nearly (hu : u ≤ 1 / 1000) {l : ℝ} (hl : |l - 1| ≤ u / 2) :
    999 / 1000 ≤ l ^ 2 := by
  have hle := pow_le_pow_left₀ (show (0 : ℝ) ≤ 9995 / 10000 by norm_num)
    (show 9995 / 10000 ≤ l by linarith [(abs_le.mp hl).1]) 2
  norm_num at hle
  linarith

/-- What is left of the angle after the roundings of a product and a rotation. -/
theorem cosine_estimate (hu0 : 0 ≤ u) (hu : u ≤ 1 / 1000) {G n l p b c e₁ e₂ : ℝ}
    (hG : |G - 1| ≤ 4 * u) (hn : |n - 1| ≤ 3 * u) (hl : |l - 1| ≤ u / 2)
    (hbc : b ^ 2 + c ^ 2 ≤ n / l ^ 2) (he₁ : |e₁| ≤ u) (he₂ : |e₂| ≤ u)
    (hp : p = G / l ^ 2 - 2 * b * e₁ + e₁ ^ 2 + e₂ * c) : |p - 1| ≤ 9 * u := by
  obtain ⟨hGl, hGh⟩ := abs_le.mp hG
  obtain ⟨hnl, hnh⟩ := abs_le.mp hn
  obtain ⟨hll, hlh⟩ := abs_le.mp hl
  have hl2 := sq_length_nearly hu hl
  have hpos : 0 < l ^ 2 := by linarith
  have hdiff : |l ^ 2 - 1| ≤ 101 / 100 * u := by
    have hsum : |l + 1| ≤ 202 / 100 := by
      rw [abs_le]
      constructor <;> linarith
    rw [show l ^ 2 - 1 = (l - 1) * (l + 1) by ring, abs_mul]
    linarith [mul_le_mul hl hsum (abs_nonneg _) (by linarith)]
  obtain ⟨hdl, hdh⟩ := abs_le.mp hdiff
  have hg : |G / l ^ 2 - 1| ≤ 51 / 10 * u := by
    rw [show G / l ^ 2 - 1 = (G - l ^ 2) / l ^ 2 by rw [sub_div, div_self hpos.ne'], abs_div,
      abs_of_pos hpos, div_le_iff₀ hpos]
    have : |G - l ^ 2| ≤ 502 / 100 * u := by
      rw [abs_le]
      constructor <;> linarith
    linarith [mul_le_mul_of_nonneg_left hl2 (show 0 ≤ 51 / 10 * u by linarith)]
  have hsum : b ^ 2 + c ^ 2 ≤ (101 / 100) ^ 2 := by
    refine hbc.trans ?_
    rw [div_le_iff₀ hpos]
    linarith
  have hb : |b| ≤ 101 / 100 := abs_le_of_sq_le_sq (by linarith [sq_nonneg c]) (by norm_num)
  have hc : |c| ≤ 101 / 100 := abs_le_of_sq_le_sq (by linarith [sq_nonneg b]) (by norm_num)
  have hbe : |b * e₁| ≤ 101 / 100 * u := by
    rw [abs_mul]
    exact mul_le_mul hb he₁ (abs_nonneg _) (by norm_num)
  have hce : |e₂ * c| ≤ 101 / 100 * u := by
    rw [abs_mul, mul_comm]
    exact mul_le_mul hc he₂ (abs_nonneg _) (by norm_num)
  have hsq : e₁ ^ 2 ≤ u / 1000 := by
    rw [← sq_abs, pow_two]
    have hprod := mul_le_mul he₁ he₁ (abs_nonneg _) hu0
    linarith [mul_le_mul_of_nonneg_left hu hu0]
  obtain ⟨h1, h2⟩ := abs_le.mp hg
  obtain ⟨h3, h4⟩ := abs_le.mp hbe
  obtain ⟨h5, h6⟩ := abs_le.mp hce
  rw [hp, abs_le]
  constructor <;> linarith [sq_nonneg e₁]

/-- The scalar product in the product of two quaternions of about unit length. -/
theorem vector_parts {o d : Quaternion ℝ} {l : ℝ} (hl : 999 / 1000 ≤ l ^ 2)
    (ho : o.exactNorm = 1) (hd : d.exactNorm ≤ 2) :
    |(o.conjugated.div l).v.exactDot d.v| < 2 := by
  have hcauchy := (o.conjugated.div l).v.sq_exactDot_le d.v
  have hinverse : (o.conjugated.div l).v.squareLength = o.v.squareLength / l ^ 2 := by
    simp only [Quaternion.conjugated, Quaternion.div, Coord.div, Coord.squareLength]
    ring
  have hole : o.v.squareLength ≤ 1 := by
    linarith [o.exactNorm_eq, mul_self_nonneg o.s]
  have hdle : d.v.squareLength ≤ 2 := by
    linarith [d.exactNorm_eq, mul_self_nonneg d.s]
  have hle : o.v.squareLength / l ^ 2 ≤ 3 / 2 := by
    rw [div_le_iff₀ (by linarith)]
    linarith
  refine abs_lt_of_sq_lt_sq ?_ zero_le_two
  rw [hinverse] at hcauchy
  linarith [mul_le_mul hle hdle d.v.squareLength_nonneg (by norm_num)]

theorem axisCosine_eq (q : Quaternion ℝ) : axisCosine (realAntennaMath toFloat) q =
    toFloat (q.s ^ 2 + toFloat q.v.x * q.v.x - q.v.y ^ 2 - q.v.z ^ 2) := by
  have hdot : ∀ a b : Coord ℝ, a.dot (realAntennaMath toFloat) b = toFloat (a.exactDot b) :=
    fun _ _ => rfl
  rw [axisCosine, hdot]
  congr 1
  simp only [Quaternion.rotate, Quaternion.mul, Quaternion.conjugated, hdot, Coord.exactDot,
    Coord.X_AXIS]
  ring_nf

/-- The product is the exact one up to the rounding of a scalar product. -/
theorem axisCosine_mul (toFloat : ℝ → ℝ) {o d : Quaternion ℝ} {l t : ℝ} {m : ℍ[ℝ]}
    (hm : m = star o.toMathlib * d.toMathlib)
    (ht : t = (o.conjugated.div l).v.exactDot d.v) :
    axisCosine (realAntennaMath toFloat)
      ((o.conjugated.div l).mul (realAntennaMath toFloat) d) =
      toFloat ((m.re / l - (toFloat t - t)) ^ 2 + toFloat (m.imI / l) * (m.imI / l) -
        (m.imJ / l) ^ 2 - (m.imK / l) ^ 2) := by
  have hdot : (o.conjugated.div l).v.dot (realAntennaMath toFloat) d.v = toFloat t := by
    rw [ht]
    rfl
  have hs : ((o.conjugated.div l).mul (realAntennaMath toFloat) d).s =
      m.re / l - (toFloat t - t) := by
    rw [hm]
    simp only [Quaternion.mul, hdot, ht]
    simp [Quaternion.conjugated, Quaternion.div, Coord.div, Coord.exactDot]
    ring
  have hv : ((o.conjugated.div l).mul (realAntennaMath toFloat) d).v =
      ⟨m.imI / l, m.imJ / l, m.imK / l⟩ := by
    rw [hm]
    simp [Quaternion.mul, Quaternion.conjugated, Quaternion.div, Coord.div]
    refine ⟨?_, ?_, ?_⟩ <;> ring
  rw [axisCosine_eq, hs, hv]

/-- Seen from an antenna that faces the target, the direction is that of the axis up to rounding. -/
theorem axisCosine_nearly (hround : Rounds toFloat u) (hu : u ≤ 1 / 1000) {o d : Quaternion ℝ}
    {l : ℝ} (ho : o.exactNorm = 1) (hl : |l - 1| ≤ u / 2) (hd : |d.exactNorm - 1| ≤ 3 * u)
    (hfaces : |o.turnedAxis.exactDot d.turnedAxis - 1| ≤ 4 * u) :
    |axisCosine (realAntennaMath toFloat)
      ((o.conjugated.div l).mul (realAntennaMath toFloat) d) - 1| ≤ 10 * u := by
  have hu0 : 0 ≤ u := by linarith [(abs_nonneg (l - 1)).trans hl]
  obtain ⟨hll, hlh⟩ := abs_le.mp hl
  obtain ⟨hnl, hnh⟩ := abs_le.mp hd
  have hl2 := sq_length_nearly hu hl
  have hlne : l ≠ 0 := by
    rintro rfl
    norm_num at hl2
  -- The product as it is without rounding.
  obtain ⟨m, hm⟩ : ∃ m, m = star o.toMathlib * d.toMathlib := ⟨_, rfl⟩
  have hnorm : m.re ^ 2 + m.imI ^ 2 + m.imJ ^ 2 + m.imK ^ 2 = d.exactNorm := by
    rw [Quaternion.exactNorm] at ho
    rw [← Quaternion.normSq_def', hm, map_mul, Quaternion.normSq_star, ho, one_mul,
      Quaternion.exactNorm]
  have haxis : m.re ^ 2 + m.imI ^ 2 - m.imJ ^ 2 - m.imK ^ 2 =
      o.turnedAxis.exactDot d.turnedAxis := by
    rw [hm]
    simp [Coord.exactDot, Quaternion.turnedAxis]
    ring
  obtain ⟨t, ht⟩ : ∃ t, t = (o.conjugated.div l).v.exactDot d.v := ⟨_, rfl⟩
  have herror := hround.error t (ht ▸ vector_parts hl2 ho (by linarith))
  have hx2 : |m.imI / l| < 2 := by
    refine abs_lt_of_sq_lt_sq ?_ zero_le_two
    rw [div_pow, div_lt_iff₀ (by linarith)]
    linarith [sq_nonneg m.re, sq_nonneg m.imJ, sq_nonneg m.imK]
  have herror' := hround.error (m.imI / l) hx2
  rw [axisCosine_mul toFloat hm ht]
  obtain ⟨p, hp⟩ : ∃ p, p = (m.re / l - (toFloat t - t)) ^ 2 + toFloat (m.imI / l) * (m.imI / l) -
        (m.imJ / l) ^ 2 - (m.imK / l) ^ 2 := ⟨_, rfl⟩
  rw [← hp]
  have hclose : |p - 1| ≤ 9 * u := by
    refine cosine_estimate hu0 hu hfaces hd hl (b := m.re / l) (c := m.imI / l) ?_ herror herror'
      ?_
    · rw [div_pow, div_pow, ← add_div, ← hnorm]
      refine div_le_div_of_nonneg_right ?_ (by linarith)
      linarith [sq_nonneg m.imJ, sq_nonneg m.imK]
    · rw [hp, ← haxis]
      field_simp
      ring
  obtain ⟨hpl, hph⟩ := abs_le.mp hclose
  have hlast := hround.error p (by rw [abs_lt]; constructor <;> linarith)
  calc |toFloat p - 1| ≤ |toFloat p - p| + |p - 1| := abs_sub_le _ _ _
    _ ≤ u + 9 * u := add_le_add hlast hclose
    _ = 10 * u := by ring

end Rounding

end SpaceVeins
