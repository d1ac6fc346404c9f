import Mathlib.Algebra.Order.Floor.Ring
import Mathlib.Analysis.Complex.Trigonometric
import Mathlib.Tactic.LinearCombination
import SpaceVeins.Shared.CxxVector
import SpaceVeins.Shared.FieldNumerals

/-!
# From the frame of SGP4 to the frame of the Earth

`TEME_to_ITRF` turns a position and a velocity by the angle of the Earth and, if
there is one, by the polar motion. Numbers are elements of a field `K`; the
cosine and the sine are known by what is used of them.
-/

set_option autoImplicit false

namespace SpaceVeins
open CxxVector

/-- What the module uses of the mathematical library. -/
structure Trigonometry (K : Type) [Field K] where
  cos : K → K
  sin : K → K
  squares : ∀ theta, cos theta * cos theta + sin theta * sin theta = 1
  cos_zero : cos 0 = 1
  sin_zero : sin 0 = 0

namespace TEME2ITRF
variable {K : Type} [Field K] (trig : Trigonometry K)

def multiply_outer (a : List K) (b : K) : Except VectorError (List K) := do
  cassert "a.size() > 0" (decide (0 < a.length))
  forLoop a.length (List.replicate a.length 0) fun i r => do
    set r i ((← get a i) * b)

def rot_x (theta : K) : List (List K) :=
  let c := trig.cos theta
  let s := trig.sin theta
  [[1, 0, 0], [0, c, -1 * s], [0, s, c]]

def rot_y (theta : K) : List (List K) :=
  let c := trig.cos theta
  let s := trig.sin theta
  [[c, 0, s], [0, 1, 0], [-1 * s, 0, c]]

def rot_z (theta : K) : List (List K) :=
  let c := trig.cos theta
  let s := trig.sin theta
  [[c, -s, 0], [s, c, 0], [0, 0, 1]]

/-- The product of two matrices. Every row of the result is created with `tmp(0, n)`, a vector of
size 0. -/
def dot (a b : List (List K)) : Except VectorError (List (List K)) := do
  cassert "a[0].size() == b.size()" (decide ((← get a 0).length = b.length))
  let r ← forLoop a.length [] fun _ r => do
    let n := (← get b 0).length
    let tmp := List.replicate 0 (n : K)
    pure (r ++ [tmp])
  forLoop a.length r fun i r => do
    forLoop (← get b 0).length r fun j r =>
      forLoop a.length r fun k r => do
        let row ← addAt (← get r i) j ((← get (← get a i) k) * (← get (← get b k) j))
        set r i row

def mxv (m : List (List K)) (v : List K) : Except VectorError (List K) := do
  cassert "m[0].size() == v.size()" (decide ((← get m 0).length = v.length))
  forLoop m.length (List.replicate v.length 0) fun row r =>
    forLoop v.length r fun col r => do
      addAt r row ((← get (← get m row) col) * (← get v col))

def v_plus_v (v1 v2 : List K) : Except VectorError (List K) := do
  cassert "v1.size() == v2.size()" (decide (v1.length = v2.length))
  forLoop v1.length (List.replicate v1.length 0) fun row r => do
    set r row ((← get v1 row) + (← get v2 row))

def _cross (a b : List K) : Except VectorError (List K) := do
  cassert "a.size() == b.size()" (decide (a.length = b.length))
  let r := List.replicate a.length 0
  let r ← set r 0 ((← get a 1) * (← get b 2) - (← get a 2) * (← get b 1))
  let r ← set r 1 ((← get a 2) * (← get b 0) - (← get a 0) * (← get b 2))
  set r 2 ((← get a 0) * (← get b 1) - (← get a 1) * (← get b 0))

/-- The branch of `TEME_to_ITRF` for a polar motion. -/
def polarMotion (xp yp : K) (rPEF vPEF : List K) : Except VectorError (List K × List K) := do
  let W ← dot (rot_x trig yp) (rot_y trig xp)
  pure (← mxv W rPEF, ← mxv W vPEF)

section
variable [LinearOrder K] [FloorRing K]

def pythonFmod (a b : K) : K := a - b * ⌊a / b⌋

def T0 : K := 2451545

def DAY_S : K := 86400

def TAU : K := 6283185307179586476925287 / 1000000000000000000000000

/-- The angle of Greenwich Mean Standard Time and its velocity. -/
def theta_GMST1982 (jd_ut1 fraction_ut1 : K) : K × K :=
  let t := (jd_ut1 - T0 + fraction_ut1) / 36525
  let g := 6731054841 / 100000 +
    (8640184812866 / 1000000 + (93104 / 1000000 + -62 / 10000000 * t) * t) * t
  let dg := 8640184812866 / 1000000 +
    (93104 / 1000000 * 2 + -62 / 10000000 * 3 * t) * t
  let theta :=
    pythonFmod (pythonFmod jd_ut1 1 + fraction_ut1 + pythonFmod (g / DAY_S) 1) 1 * TAU
  let theta_dot := (1 + dg / (DAY_S * 36525)) * TAU
  (theta, theta_dot)

def TEME_to_ITRF (jd_ut1 : K) (rTEME vTEME : List K) (xp yp fraction_ut1 : K) :
    Except VectorError (List K × List K) := do
  let theta := theta_GMST1982 jd_ut1 fraction_ut1
  let angular_velocity ← multiply_outer [0, 0, -1] theta.2
  let R := rot_z trig (-1 * theta.1)
  let rPEF ← mxv R rTEME
  let vPEF ← mxv R vTEME
  let vPEF ← v_plus_v vPEF (← _cross angular_velocity rPEF)
  if xp = 0 ∧ yp = 0 then pure (rPEF, vPEF)
  else polarMotion trig xp yp rPEF vPEF

end

/-! What the functions do on vectors with three elements. -/

theorem multiply_outer_three (x y z b : K) :
    multiply_outer [x, y, z] b = .ok [x * b, y * b, z * b] := by
  simp [multiply_outer, cassert, forLoop, loopFrom, List.replicate, Except.map]

theorem mxv_rot_z (theta x y z : K) :
    mxv (rot_z trig theta) [x, y, z] =
      .ok [trig.cos theta * x - trig.sin theta * y,
        trig.sin theta * x + trig.cos theta * y, z] := by
  simp [mxv, rot_z, cassert, forLoop, loopFrom, List.replicate, Except.map, sub_eq_add_neg]

theorem cross_three (a b c x y z : K) :
    _cross [a, b, c] [x, y, z] = .ok [b * z - c * y, c * x - a * z, a * y - b * x] := by
  simp [_cross, cassert, List.replicate, Except.map]

theorem v_plus_v_three (a b c x y z : K) :
    v_plus_v [a, b, c] [x, y, z] = .ok [a + x, b + y, c + z] := by
  simp [v_plus_v, cassert, forLoop, loopFrom, List.replicate, Except.map]

/-- A list of rows is an `n` x `m` matrix. -/
structure IsMatrix (n m : Nat) (a : List (List K)) : Prop where
  rows : a.length = n
  columns : ∀ row ∈ a, row.length = m

def entry (a : List (List K)) (i j : Nat) : K := (a.getD i []).getD j 0

/-- `dot` yields the product of an `n` x `m` and an `m` x `p` matrix. -/
def DotIsProduct (n m p : Nat) (a b : List (List K)) : Prop :=
  ∃ r, dot a b = .ok r ∧ IsMatrix n p r ∧
    ∀ i < n, ∀ j < p, entry r i j = ∑ k ∈ Finset.range m, entry a i k * entry b k j

omit [Field K] in
theorem IsMatrix.first_row {n m : Nat} {a : List (List K)} (h : IsMatrix n m a) (hn : 0 < n) :
    ∃ row, get a 0 = .ok row ∧ row.length = m := by
  cases a with
  | nil => exact absurd h.rows (by simp; omega)
  | cons row rest => exact ⟨row, get_cons_zero row rest, h.columns row List.mem_cons_self⟩

/-- Whatever the sizes are, the very first element that is added to is not there. -/
theorem dot_outOfBounds {n m p : Nat} {a b : List (List K)} (hn : 0 < n) (hm : 0 < m)
    (hp : 0 < p) (ha : IsMatrix n m a) (hb : IsMatrix m p b) : dot a b = .error .outOfBounds := by
  obtain ⟨arow, harow, hcolumns⟩ := ha.first_row hn
  obtain ⟨brow, hbrow, hbcolumns⟩ := hb.first_row hm
  have hrows : forLoop a.length ([] : List (List K)) (fun _ r => do
      let n := (← get b 0).length
      let tmp := List.replicate 0 (n : K)
      pure (r ++ [tmp])) = .ok (List.replicate a.length []) :=
    forLoop_push _ fun i r => by rw [hbrow]; rfl
  have hassert : cassert "a[0].size() == b.size()" (decide (arow.length = b.length)) = .ok () := by
    rw [cassert, hcolumns, hb.rows, decide_eq_true rfl, if_pos rfl]
  obtain ⟨x, arest, rfl⟩ := List.exists_cons_of_length_pos (hcolumns ▸ hm)
  obtain ⟨y, brest, rfl⟩ := List.exists_cons_of_length_pos (hbcolumns ▸ hp)
  have hfirst : get (List.replicate a.length ([] : List K)) 0 = .ok [] := by
    obtain ⟨n, hlength⟩ := Nat.exists_eq_succ_of_ne_zero (n := a.length) (by rw [ha.rows]; omega)
    rw [hlength]
    rfl
  have hbody : (do
      let row ← addAt (← get (List.replicate a.length ([] : List K)) 0) 0
        ((← get (← get a 0) 0) * (← get (← get b 0) 0))
      set (List.replicate a.length []) 0 row) = .error .outOfBounds := by
    simp only [hfirst, harow, hbrow, ok_bind, get_cons_zero, addAt_nil, error_bind]
  have hlength : 0 < a.length := ha.rows ▸ hn
  unfold dot
  simp only [harow, hassert, ok_bind]
  rw [hrows, ok_bind]
  apply forLoop_error hlength
  rw [hbrow, ok_bind]
  apply forLoop_error (Nat.succ_pos _)
  apply forLoop_error hlength
  exact hbody

/-- There are no sizes for which `dot` multiplies two matrices. -/
theorem dot_not_product {n m p : Nat} {a b : List (List K)} (hn : 0 < n) (hm : 0 < m)
    (hp : 0 < p) (ha : IsMatrix n m a) (hb : IsMatrix m p b) : ¬ DotIsProduct n m p a b := by
  rintro ⟨r, hr, -⟩
  rw [dot_outOfBounds hn hm hp ha hb] at hr
  cases hr

theorem dot_not_product_row_column :
    ¬ DotIsProduct 1 2 1 [[1, 2]] ([[3], [4]] : List (List ℚ)) :=
  dot_not_product Nat.one_pos Nat.two_pos Nat.one_pos ⟨rfl, by simp⟩ ⟨rfl, by simp⟩

/-- Two numbers as matrices. -/
theorem one_by_one_not_product : ¬ DotIsProduct 1 1 1 [[2]] ([[3]] : List (List ℚ)) := by
  rintro ⟨r, hr, -⟩
  rw [show dot [[2]] ([[3]] : List (List ℚ)) = .error .outOfBounds from rfl] at hr
  cases hr

theorem dot_rot (yp xp : K) : dot (rot_x trig yp) (rot_y trig xp) = .error .outOfBounds :=
  dot_outOfBounds (Nat.succ_pos 2) (Nat.succ_pos 2) (Nat.succ_pos 2)
    ⟨rfl, by simp [rot_x]⟩ ⟨rfl, by simp [rot_y]⟩

theorem polarMotion_outOfBounds (xp yp : K) (rPEF vPEF : List K) :
    polarMotion trig xp yp rPEF vPEF = .error .outOfBounds := by
  rw [polarMotion, dot_rot, error_bind]

/-- The square of the distance of two positions. -/
def squareDistance : List K → List K → K
  | x :: r, y :: r' => (x - y) ^ 2 + squareDistance r r'
  | _, _ => 0

theorem squareDistance_mxv (theta x y z x' y' z' : K) (r r' : List K)
    (hr : mxv (rot_z trig theta) [x, y, z] = .ok r)
    (hr' : mxv (rot_z trig theta) [x', y', z'] = .ok r') :
    squareDistance r r' = squareDistance [x, y, z] [x', y', z'] := by
  rw [mxv_rot_z] at hr hr'
  cases hr
  cases hr'
  have hsquares := trig.squares theta
  simp only [squareDistance]
  linear_combination ((x - x') ^ 2 + (y - y') ^ 2) * hsquares

variable [LinearOrder K] [FloorRing K]

/-! The angle of the Earth. -/

section
variable [IsStrictOrderedRing K]

omit [IsStrictOrderedRing K] in
theorem pythonFmod_one (a : K) : pythonFmod a 1 = Int.fract a := by
  rw [pythonFmod, div_one, one_mul, Int.self_sub_floor]

theorem fract_fract_add_add (a b c : K) :
    Int.fract (Int.fract a + b + c) = Int.fract (a + b + c) := by
  have hwhole : Int.fract a + b + c = a + b + c - (⌊a⌋ : K) := by
    rw [← Int.self_sub_floor]
    ring
  rw [hwhole, Int.fract_sub_intCast]

omit [FloorRing K] in
theorem TAU_pos : (0 : K) < TAU := by
  unfold TAU
  positivity

theorem theta_GMST1982_range (jd_ut1 fraction_ut1 : K) :
    0 ≤ (theta_GMST1982 jd_ut1 fraction_ut1).1 ∧
      (theta_GMST1982 jd_ut1 fraction_ut1).1 < TAU := by
  simp only [theta_GMST1982, pythonFmod_one]
  constructor
  · exact mul_nonneg (Int.fract_nonneg _) TAU_pos.le
  · calc _ < 1 * TAU := mul_lt_mul_of_pos_right (Int.fract_lt_one _) TAU_pos
      _ = TAU := one_mul _

/-- The angle and its velocity depend on the instant only, and the angle is reduced. -/
theorem theta_GMST1982_of_instant (jd_ut1 fraction_ut1 d : K) :
    theta_GMST1982 (jd_ut1 + d) (fraction_ut1 - d) = theta_GMST1982 jd_ut1 fraction_ut1 ∧
      0 ≤ (theta_GMST1982 jd_ut1 fraction_ut1).1 ∧
      (theta_GMST1982 jd_ut1 fraction_ut1).1 < TAU := by
  refine ⟨?_, theta_GMST1982_range jd_ut1 fraction_ut1⟩
  have hdate : jd_ut1 + d - T0 + (fraction_ut1 - d) = jd_ut1 - T0 + fraction_ut1 := by ring
  simp only [theta_GMST1982, hdate, pythonFmod_one]
  generalize Int.fract (_ / (DAY_S : K)) = earlier
  have hday : jd_ut1 + d + (fraction_ut1 - d) + earlier = jd_ut1 + fraction_ut1 + earlier := by ring
  rw [fract_fract_add_add, fract_fract_add_add, hday]

end

theorem theta_GMST1982_half_a_day :
    theta_GMST1982 (2459580 + 1 / 2) (3 / 4 - 1 / 2 : ℝ) = theta_GMST1982 2459580 (3 / 4) ∧
      0 ≤ (theta_GMST1982 2459580 (3 / 4) : ℝ × ℝ).1 ∧
      (theta_GMST1982 2459580 (3 / 4) : ℝ × ℝ).1 < TAU :=
  theta_GMST1982_of_instant 2459580 (3 / 4) (1 / 2)

/-- Only without polar motion does the transformation come to an end, and then the position is the
input, turned by the angle of the Earth. -/
theorem TEME_to_ITRF_eq (jd_ut1 xp yp fraction_ut1 x y z u v w : K) :
    ∃ velocity, TEME_to_ITRF trig jd_ut1 [x, y, z] [u, v, w] xp yp fraction_ut1 =
      if xp = 0 ∧ yp = 0 then do
        let r ← mxv (rot_z trig (-1 * (theta_GMST1982 jd_ut1 fraction_ut1).1)) [x, y, z]
        .ok (r, velocity)
      else .error .outOfBounds := by
  unfold TEME_to_ITRF
  generalize theta_GMST1982 jd_ut1 fraction_ut1 = theta
  simp only [multiply_outer_three, mxv_rot_z, cross_three, v_plus_v_three, ok_bind,
    polarMotion_outOfBounds, pure_eq_ok]
  exact ⟨_, rfl⟩

/-- The transformation yields positions, with their distances kept, exactly if there is no polar
motion; the general branch yields nothing even there, where the shortcut is taken. -/
theorem TEME_to_ITRF_rotation_iff :
    (∀ jd_ut1 xp yp fraction_ut1 x y z u v w x' y' z' u' v' w' : K,
      (∃ r velocity r' velocity',
        TEME_to_ITRF trig jd_ut1 [x, y, z] [u, v, w] xp yp fraction_ut1 = .ok (r, velocity) ∧
        TEME_to_ITRF trig jd_ut1 [x', y', z'] [u', v', w'] xp yp fraction_ut1 =
          .ok (r', velocity') ∧
        squareDistance r r' = squareDistance [x, y, z] [x', y', z']) ↔ xp = 0 ∧ yp = 0) ∧
    ∀ jd_ut1 fraction_ut1 x y z u v w : K, ∃ rPEF vPEF,
      TEME_to_ITRF trig jd_ut1 [x, y, z] [u, v, w] 0 0 fraction_ut1 = .ok (rPEF, vPEF) ∧
      polarMotion trig 0 0 rPEF vPEF ≠ .ok (rPEF, vPEF) := by
  constructor
  · intro jd_ut1 xp yp fraction_ut1 x y z u v w x' y' z' u' v' w'
    obtain ⟨velocity, h⟩ := TEME_to_ITRF_eq trig jd_ut1 xp yp fraction_ut1 x y z u v w
    obtain ⟨velocity', h'⟩ := TEME_to_ITRF_eq trig jd_ut1 xp yp fraction_ut1 x' y' z' u' v' w'
    generalize -1 * (theta_GMST1982 jd_ut1 fraction_ut1).1 = theta at h h'
    constructor
    · rintro ⟨r, _, _, _, hr, -⟩
      apply Decidable.byContradiction
      intro hmotion
      rw [h, if_neg hmotion] at hr
      cases hr
    · intro hmotion
      rw [if_pos hmotion, mxv_rot_z] at h h'
      exact ⟨_, _, _, _, h, h', squareDistance_mxv trig theta _ _ _ _ _ _ _ _ (mxv_rot_z ..)
        (mxv_rot_z ..)⟩
  · intro jd_ut1 fraction_ut1 x y z u v w
    obtain ⟨velocity, h⟩ := TEME_to_ITRF_eq trig jd_ut1 0 0 fraction_ut1 x y z u v w
    generalize -1 * (theta_GMST1982 jd_ut1 fraction_ut1).1 = theta at h
    rw [if_pos ⟨rfl, rfl⟩, mxv_rot_z] at h
    refine ⟨_, _, h, ?_⟩
    rw [polarMotion_outOfBounds]
    intro hok
    cases hok

noncomputable def realTrigonometry : Trigonometry ℝ where
  cos := Real.cos
  sin := Real.sin
  squares theta := by
    have h := Real.cos_sq_add_sin_sq theta
    rwa [pow_two, pow_two] at h
  cos_zero := Real.cos_zero
  sin_zero := Real.sin_zero

/-- A polar motion of one radian, and the general branch without any. -/
theorem polar_motion_of_one_radian :
    (∀ r velocity,
      TEME_to_ITRF realTrigonometry 0 [7000, 0, 0] [0, 7, 0] 1 0 0 ≠ .ok (r, velocity)) ∧
    polarMotion realTrigonometry 0 0 [7000, 0, 0] [0, 7, 0] ≠ .ok ([7000, 0, 0], [0, 7, 0]) := by
  constructor
  · intro r velocity
    obtain ⟨_, h⟩ := TEME_to_ITRF_eq realTrigonometry 0 1 0 0 7000 0 0 0 7 0
    rw [h, if_neg (fun hmotion => one_ne_zero hmotion.1)]
    intro hok
    cases hok
  · rw [polarMotion_outOfBounds]
    intro hok
    cases hok

end TEME2ITRF
end SpaceVeins
