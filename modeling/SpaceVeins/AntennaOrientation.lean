import SpaceVeins.RadioMediumFilters
import SpaceVeins.TEME2ITRF
import Mathlib.Algebra.Quaternion

/-!
# The orientation of the satellite antennas

The antenna of a vehicle turns towards the satellite. Its orientation is a
quaternion, made from Euler angles. What divides zero by zero is `none`.
-/

set_option autoImplicit false

open scoped Quaternion
open Quaternion (normSq)

namespace SpaceVeins

/-- What the orientation uses of the mathematical library. -/
structure OrientationMath (K : Type) [Field K] [LinearOrder K] extends Libm K,
    Trigonometry K where
  atan2 : K → K → K

namespace Coord
variable {K : Type} [Field K]

def X_AXIS : Coord K := ⟨1, 0, 0⟩

def div (a : Coord K) (f : K) : Coord K := ⟨a.x / f, a.y / f, a.z / f⟩

def normalize [LinearOrder K] (libm : Libm K) (a : Coord K) : Option (Coord K) :=
  if a.length libm = 0 then none else some (a.div (a.length libm))

end Coord

structure EulerAngles (K : Type) where
  alpha : K
  beta : K
  gamma : K

@[ext] structure Quaternion (K : Type) where
  s : K
  v : Coord K

namespace Quaternion
variable {K : Type} [Field K]

def ofEulerAngles [LinearOrder K] (lib : OrientationMath K) (angles : EulerAngles K) : Quaternion K :=
  let cos_z_2 := lib.cos (0.5 * angles.alpha)
  let cos_y_2 := lib.cos (0.5 * angles.beta)
  let cos_x_2 := lib.cos (0.5 * angles.gamma)
  let sin_z_2 := lib.sin (0.5 * angles.alpha)
  let sin_y_2 := lib.sin (0.5 * angles.beta)
  let sin_x_2 := lib.sin (0.5 * angles.gamma)
  { s := cos_z_2 * cos_y_2 * cos_x_2 + sin_z_2 * sin_y_2 * sin_x_2
    v := ⟨cos_z_2 * cos_y_2 * sin_x_2 - sin_z_2 * sin_y_2 * cos_x_2,
      cos_z_2 * sin_y_2 * cos_x_2 + sin_z_2 * cos_y_2 * sin_x_2,
      sin_z_2 * cos_y_2 * cos_x_2 - cos_z_2 * sin_y_2 * sin_x_2⟩ }

end Quaternion

/-- What `getCurrentAngularPosition` computes and keeps. -/
structure Facing (K : Type) where
  lastOrientation : Quaternion K
  azimuthDeg : K
  elevationDeg : K
  distanceMeter : K

/-- The orientation of `SatelliteFacingAntennaMobility`. -/
def getCurrentAngularPosition {K : Type} [Field K] [LinearOrder K] (lib : OrientationMath K)
    (source target : Coord K) : Option (Facing K) := do
  let direction := target.sub source
  let distanceMeter := direction.length lib.toLibm
  let direction ← direction.normalize lib.toLibm
  let alpha := lib.atan2 direction.y direction.x
  let beta := -lib.asin direction.z
  some
    { lastOrientation := .ofEulerAngles lib ⟨alpha, beta, 0⟩
      azimuthDeg := alpha * (180.0 / lib.pi)
      elevationDeg := -beta * (180.0 / lib.pi)
      distanceMeter := distanceMeter }

/-- The library functions on the real numbers. -/
noncomputable def realOrientationMath : OrientationMath ℝ where
  toLibm := RadioMedium.realLibm
  toTrigonometry := TEME2ITRF.realTrigonometry
  atan2 y x := Complex.arg ⟨x, y⟩

namespace Coord

section
variable {K : Type} [Field K]

/-- A vector as a quaternion without a real part. -/
def toPure (a : Coord K) : ℍ[K] := ⟨0, a.x, a.y, a.z⟩

@[simp] theorem toPure_re (a : Coord K) : a.toPure.re = 0 := rfl
@[simp] theorem toPure_imI (a : Coord K) : a.toPure.imI = a.x := rfl
@[simp] theorem toPure_imJ (a : Coord K) : a.toPure.imJ = a.y := rfl
@[simp] theorem toPure_imK (a : Coord K) : a.toPure.imK = a.z := rfl

end

theorem squareLength_nonneg (a : Coord ℝ) : 0 ≤ a.squareLength := by
  unfold squareLength
  linarith [mul_self_nonneg a.x, mul_self_nonneg a.y, mul_self_nonneg a.z]

theorem eq_zero_of_squareLength {a : Coord ℝ} (h : a.squareLength ≤ 0) : a = ⟨0, 0, 0⟩ := by
  unfold squareLength at h
  apply Coord.ext <;> nlinarith [mul_self_nonneg a.x, mul_self_nonneg a.y, mul_self_nonneg a.z]

theorem length_mul_self (a : Coord ℝ) :
    a.length RadioMedium.realLibm * a.length RadioMedium.realLibm = a.squareLength :=
  Real.mul_self_sqrt a.squareLength_nonneg

/-- The direction of a vector. -/
noncomputable def direction (a : Coord ℝ) : Coord ℝ := a.div (a.length RadioMedium.realLibm)

theorem eq_zero_of_length {a : Coord ℝ} (h : a.length RadioMedium.realLibm = 0) :
    a = ⟨0, 0, 0⟩ := by
  have hsquare := a.length_mul_self
  rw [h, mul_zero] at hsquare
  exact eq_zero_of_squareLength hsquare.ge

theorem length_ne_zero {a : Coord ℝ} (h : a ≠ ⟨0, 0, 0⟩) :
    a.length RadioMedium.realLibm ≠ 0 := fun hzero => h (eq_zero_of_length hzero)

theorem normalize_eq {a : Coord ℝ} (h : a ≠ ⟨0, 0, 0⟩) :
    a.normalize RadioMedium.realLibm = some a.direction :=
  if_neg (length_ne_zero h)

theorem squareLength_direction {a : Coord ℝ} (h : a ≠ ⟨0, 0, 0⟩) :
    a.direction.squareLength = 1 := by
  have hne := length_ne_zero h
  have hsquare := a.length_mul_self
  simp only [direction, div, squareLength] at hsquare ⊢
  field_simp
  linarith

theorem length_mul_direction {a : Coord ℝ} (h : a ≠ ⟨0, 0, 0⟩) :
    a = ⟨a.length RadioMedium.realLibm * a.direction.x,
      a.length RadioMedium.realLibm * a.direction.y,
      a.length RadioMedium.realLibm * a.direction.z⟩ := by
  have hne := length_ne_zero h
  apply Coord.ext
  · exact (mul_div_cancel₀ _ hne).symm
  · exact (mul_div_cancel₀ _ hne).symm
  · exact (mul_div_cancel₀ _ hne).symm

end Coord

namespace Quaternion

section
variable {K : Type} [Field K]

def toMathlib (q : Quaternion K) : ℍ[K] := ⟨q.s, q.v.x, q.v.y, q.v.z⟩

@[simp] theorem toMathlib_re (q : Quaternion K) : q.toMathlib.re = q.s := rfl
@[simp] theorem toMathlib_imI (q : Quaternion K) : q.toMathlib.imI = q.v.x := rfl
@[simp] theorem toMathlib_imJ (q : Quaternion K) : q.toMathlib.imJ = q.v.y := rfl
@[simp] theorem toMathlib_imK (q : Quaternion K) : q.toMathlib.imK = q.v.z := rfl

/-- Where the rotation takes the x axis, without any rounding. -/
def turnedAxis (q : Quaternion K) : Coord K :=
  ⟨q.s * q.s + q.v.x * q.v.x - q.v.y * q.v.y - q.v.z * q.v.z,
    2 * (q.v.x * q.v.y + q.s * q.v.z), 2 * (q.v.x * q.v.z - q.s * q.v.y)⟩

theorem toPure_turnedAxis (q : Quaternion K) :
    q.turnedAxis.toPure = q.toMathlib * Coord.X_AXIS.toPure * star q.toMathlib := by
  ext <;> simp [turnedAxis, Coord.X_AXIS] <;> ring

end

/-- The rotations about the z axis and then about the new y axis. -/
theorem ofEulerAngles_rotates (alpha beta : ℝ) :
    normSq (ofEulerAngles realOrientationMath ⟨alpha, beta, 0⟩).toMathlib = 1 ∧
      (ofEulerAngles realOrientationMath ⟨alpha, beta, 0⟩).turnedAxis =
        ⟨Real.cos alpha * Real.cos beta, Real.sin alpha * Real.cos beta, -Real.sin beta⟩ := by
  have hcos : ∀ x, realOrientationMath.cos x = Real.cos x := fun _ => rfl
  have hsin : ∀ x, realOrientationMath.sin x = Real.sin x := fun _ => rfl
  have hdouble : ∀ x : ℝ, Real.cos x = Real.cos (0.5 * x) ^ 2 - Real.sin (0.5 * x) ^ 2 ∧
      Real.sin x = 2 * Real.sin (0.5 * x) * Real.cos (0.5 * x) := by
    intro x
    rw [← Real.cos_two_mul', ← Real.sin_two_mul, show 2 * (0.5 * x) = x by ring]
    exact ⟨rfl, rfl⟩
  have ha := Real.sin_sq_add_cos_sq (0.5 * alpha)
  have hb := Real.sin_sq_add_cos_sq (0.5 * beta)
  simp only [ofEulerAngles, hcos, hsin, mul_zero, Real.cos_zero, Real.sin_zero]
  rw [(hdouble alpha).1, (hdouble alpha).2, (hdouble beta).1, (hdouble beta).2]
  generalize Real.cos (0.5 * alpha) = ca at *
  generalize Real.sin (0.5 * alpha) = sa at *
  generalize Real.cos (0.5 * beta) = cb at *
  generalize Real.sin (0.5 * beta) = sb at *
  refine ⟨?_, ?_⟩
  · simp only [Quaternion.normSq_def', toMathlib_re, toMathlib_imI, toMathlib_imJ, toMathlib_imK]
    linear_combination (sb ^ 2 + cb ^ 2) * ha + hb
  · simp only [turnedAxis, Coord.mk.injEq]
    refine ⟨?_, ?_, ?_⟩
    · ring
    · ring
    · linear_combination (-2 * sb * cb) * ha

end Quaternion

theorem norm_horizontal {u : Coord ℝ} (hu : u.squareLength = 1) :
    Real.cos (Real.arcsin u.z) = ‖(⟨u.x, u.y⟩ : ℂ)‖ := by
  rw [Real.cos_arcsin, Complex.norm_def, Complex.normSq_mk]
  congr 1
  simp only [Coord.squareLength] at hu
  linarith

/-- A direction by its elevation and its azimuth. -/
theorem direction_spherical {u : Coord ℝ} (hu : u.squareLength = 1) :
    (⟨Real.cos (Real.arcsin u.z) * Real.cos (Complex.arg ⟨u.x, u.y⟩),
      Real.cos (Real.arcsin u.z) * Real.sin (Complex.arg ⟨u.x, u.y⟩),
      Real.sin (Real.arcsin u.z)⟩ : Coord ℝ) = u := by
  have hz : u.z ^ 2 ≤ 1 := by
    simp only [Coord.squareLength] at hu
    nlinarith [mul_self_nonneg u.x, mul_self_nonneg u.y]
  obtain ⟨hlow, hhigh⟩ := abs_le.mp ((sq_le_one_iff_abs_le_one u.z).mp hz)
  rw [norm_horizontal hu, Complex.norm_mul_cos_arg, Complex.norm_mul_sin_arg,
    Real.sin_arcsin hlow hhigh]

theorem degrees_radians (a : ℝ) : a * (180.0 / Real.pi) * (Real.pi / 180) = a := by
  have hpi := Real.pi_ne_zero
  norm_num
  field_simp

theorem angularPosition_eq {source target : Coord ℝ} (h : target.sub source ≠ ⟨0, 0, 0⟩) :
    ∃ f, getCurrentAngularPosition realOrientationMath source target = some f ∧
      normSq f.lastOrientation.toMathlib = 1 ∧
      f.lastOrientation.turnedAxis = (target.sub source).direction := by
  have hsphere := direction_spherical (Coord.squareLength_direction h)
  have hnormalize : (target.sub source).normalize realOrientationMath.toLibm =
      some (target.sub source).direction := Coord.normalize_eq h
  simp only [getCurrentAngularPosition, hnormalize, Option.bind_eq_bind, Option.bind_some]
  obtain ⟨hunit, hrotate⟩ := Quaternion.ofEulerAngles_rotates
    (realOrientationMath.atan2 (target.sub source).direction.y (target.sub source).direction.x)
    (-realOrientationMath.asin (target.sub source).direction.z)
  refine ⟨_, rfl, hunit, hrotate.trans (Eq.trans ?_ hsphere)⟩
  simp only [realOrientationMath, RadioMedium.realLibm, Real.cos_neg, Real.sin_neg, neg_neg,
    mul_comm]

/-- In exact arithmetic the antenna faces the satellite, and the angles and the distance that it
records are its direction and distance; the elevation is that of the radio medium. -/
theorem faces_target {source target : Coord ℝ} (h : target.sub source ≠ ⟨0, 0, 0⟩) :
    ∃ f, getCurrentAngularPosition realOrientationMath source target = some f ∧
      normSq f.lastOrientation.toMathlib = 1 ∧
      f.lastOrientation.toMathlib * Coord.X_AXIS.toPure * star f.lastOrientation.toMathlib =
        (target.sub source).direction.toPure ∧
      target.sub source =
        ⟨f.distanceMeter * (Real.cos (f.elevationDeg * (Real.pi / 180)) *
            Real.cos (f.azimuthDeg * (Real.pi / 180))),
          f.distanceMeter * (Real.cos (f.elevationDeg * (Real.pi / 180)) *
            Real.sin (f.azimuthDeg * (Real.pi / 180))),
          f.distanceMeter * Real.sin (f.elevationDeg * (Real.pi / 180))⟩ ∧
      some f.elevationDeg = elevation RadioMedium.realLibm (target.sub source) := by
  have hsphere := direction_spherical (Coord.squareLength_direction h)
  have hnormalize : (target.sub source).normalize realOrientationMath.toLibm =
      some (target.sub source).direction := Coord.normalize_eq h
  obtain ⟨f, hf, hunit, hfaces⟩ := angularPosition_eq h
  refine ⟨f, hf, hunit, by rw [← Quaternion.toPure_turnedAxis, hfaces], ?_⟩
  simp only [getCurrentAngularPosition, hnormalize, Option.bind_eq_bind, Option.bind_some,
    Option.some.injEq] at hf
  subst hf
  constructor
  · have hx := congrArg Coord.x hsphere
    have hy := congrArg Coord.y hsphere
    have hz := congrArg Coord.z hsphere
    simp only at hx hy hz
    simp only [realOrientationMath, RadioMedium.realLibm, neg_neg, degrees_radians, hx, hy, hz]
    exact Coord.length_mul_direction h
  · rw [elevation, Coord.normalizedZ, if_neg (Coord.length_ne_zero h), neg_neg]
    norm_num
    rfl

/-- A satellite in the zenith. -/
theorem faces_target_zenith :
    ∃ f, getCurrentAngularPosition realOrientationMath ⟨10, 20, 0⟩ ⟨10, 20, 550000⟩ = some f ∧
      normSq f.lastOrientation.toMathlib = 1 ∧
      f.lastOrientation.toMathlib * Coord.X_AXIS.toPure * star f.lastOrientation.toMathlib =
        (Coord.sub ⟨10, 20, 550000⟩ ⟨10, 20, 0⟩ : Coord ℝ).direction.toPure ∧
      Coord.sub ⟨10, 20, 550000⟩ ⟨10, 20, 0⟩ =
        (⟨f.distanceMeter * (Real.cos (f.elevationDeg * (Real.pi / 180)) *
            Real.cos (f.azimuthDeg * (Real.pi / 180))),
          f.distanceMeter * (Real.cos (f.elevationDeg * (Real.pi / 180)) *
            Real.sin (f.azimuthDeg * (Real.pi / 180))),
          f.distanceMeter * Real.sin (f.elevationDeg * (Real.pi / 180))⟩ : Coord ℝ) ∧
      some f.elevationDeg =
        elevation RadioMedium.realLibm (Coord.sub ⟨10, 20, 550000⟩ ⟨10, 20, 0⟩) :=
  faces_target (by simp [Coord.sub])

end SpaceVeins
