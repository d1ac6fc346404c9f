import SpaceVeins.AntennaDirection

/-!
# The gain of the satellite antennas

The gain of a signal depends on the angle between its direction and the axis of the antenna. An
antenna that faces the satellite does not always find a number for this angle.
-/

set_option autoImplicit false

namespace SpaceVeins

/-- What the computation of a gain can end in. -/
inductive GainOutcome (K : Type) where
  | gain (g : K)
  | nan
  /-- `ASSERT(deg(0) <= alpha && alpha <= deg(360))`. -/
  | assertFailed
  /-- The iterator before the first entry of the table is used. -/
  | undefined

/-- The gain of an antenna for a signal, by the direction as the antenna sees it. -/
structure AntennaGain (K : Type) where
  minGain : K
  maxGain : K
  computeGain : Quaternion K → GainOutcome K

section
variable {K : Type} [Field K] [LinearOrder K] (lib : AntennaMath K)

def computeAntennaGain (antennaGain : AntennaGain K) (startPosition endPosition : Coord K)
    (startOrientation : Quaternion K) : Option (GainOutcome K) :=
  if antennaGain.minGain = antennaGain.maxGain then some (.gain antennaGain.minGain)
  else do
    let direction ←
      Quaternion.rotationFromTo lib Coord.X_AXIS (endPosition.sub startPosition)
    let inverse ← startOrientation.inverse lib
    some (antennaGain.computeGain (inverse.mul lib direction))

def dB2fraction (dB : K) : K := lib.pow 10.0 (dB / 10.0)

/-- A NaN fails the assertion, as all its comparisons are false, and `std::max` leaves it out.
Without `debug` the assertion is not tested. -/
def ParabolicAntenna (debug : Bool) (maxGain minGain beamWidth : K) : AntennaGain K where
  minGain := minGain
  maxGain := maxGain
  computeGain direction :=
    match lib.acos (axisCosine lib direction) with
    | none => if debug then .assertFailed else .gain minGain
    | some angle =>
      let alpha := angle * (180.0 / lib.pi)
      if debug ∧ ¬ (0 ≤ alpha ∧ alpha ≤ 360.0) then .assertFailed
      else
        let alpha := if 180.0 < alpha then 360.0 - alpha else alpha
        .gain (max minGain
          (maxGain * dB2fraction lib (-12.0 * lib.pow (alpha / beamWidth) 2.0)))

/-- The exponent for a beam width in degrees. -/
def cosineExponent (beamWidth : K) : K :=
  -3.0 / (20.0 * lib.log10 (lib.cos (beamWidth * lib.pi / 180.0 / 4.0)))

def CosineAntenna (maxGain beamWidth : K) : AntennaGain K where
  minGain := 0
  maxGain := maxGain
  computeGain direction :=
    match lib.acos (axisCosine lib direction) with
    | none => .nan
    | some angle =>
      .gain (maxGain * lib.pow |lib.cos (angle / 2.0)| (cosineExponent lib beamWidth))

/-- The gain between two entries of the table; `lower_bound` and `upper_bound` are positions. -/
def tableGain (gainMap : List (K × K)) (angle : K) : Option K := do
  let lowerBound := gainMap.findIdx fun entry => angle ≤ entry.1
  let upperBound := gainMap.findIdx fun entry => angle < entry.1
  let lowerBound := if (← gainMap[lowerBound]?).1 ≠ angle then lowerBound - 1 else lowerBound
  let upperBound := if upperBound = gainMap.length then upperBound - 1 else upperBound
  let lower ← gainMap[lowerBound]?
  let upper ← gainMap[upperBound]?
  if upperBound = lowerBound then some lower.2
  else
    let alpha := (angle - lower.1) / (upper.1 - lower.1)
    some ((1 - alpha) * lower.2 + alpha * upper.2)

/-- For a NaN `lower_bound` is the first entry of the table. -/
def AxiallySymmetricAntenna (minGain maxGain : K) (gainMap : List (K × K)) : AntennaGain K where
  minGain := minGain
  maxGain := maxGain
  computeGain direction :=
    match (lib.acos (axisCosine lib direction)).bind (tableGain gainMap) with
    | none => .undefined
    | some g => .gain g

/-- The gain towards the target that the antenna faces. -/
def gainTowards (gain : AntennaGain K) (source target : Coord K) : Option (GainOutcome K) := do
  let facing ← getCurrentAngularPosition lib.toOrientationMath source target
  computeAntennaGain lib gain source target facing.lastOrientation

end

section Rounding
open SinglePrecision
variable {toFloat : ℝ → ℝ} {u : ℝ}

/-- The angle in degrees is at most a tenth. -/
theorem acos_nearly (hround : Rounds toFloat u) (hu : u ≤ 2 ^ (-24 : ℤ)) {c : ℝ}
    (hlow : 1 - 10 * u ≤ c) (hhigh : c ≤ 1) : ∃ angle,
      (realAntennaMath toFloat).acos c = some angle ∧ 0 ≤ angle ∧
        angle ≤ 0.1 * (Real.pi / 180) := by
  norm_num at hu
  have habs : |c| ≤ 1 := by
    rw [abs_le]
    constructor <;> linarith
  have hnonneg := Real.arccos_nonneg c
  have hcos := Real.cos_arccos (abs_le.mp habs).1 hhigh
  have hquadratic := Real.cos_le_one_sub_mul_cos_sq
    (by rw [abs_of_nonneg hnonneg]; exact Real.arccos_le_pi c)
  have hpi := Real.pi_gt_three
  have hpi4 := Real.pi_le_four
  have hsq : Real.arccos c ^ 2 ≤ (0.099 * (Real.pi / 180)) ^ 2 := by
    rw [hcos] at hquadratic
    have hle : 2 / Real.pi ^ 2 * Real.arccos c ^ 2 ≤ 10 * u := by linarith
    have hpos : 0 < Real.pi ^ 2 := by positivity
    rw [div_mul_eq_mul_div, div_le_iff₀ hpos] at hle
    norm_num
    linarith [mul_le_mul_of_nonneg_right hu hpos.le]
  have hangle : Real.arccos c ≤ 0.099 * (Real.pi / 180) :=
    abs_le_of_sq_le_sq' hsq (by positivity) |>.2
  have herror := hround.small (Real.arccos c) (by
    rw [abs_of_nonneg hnonneg]
    norm_num at hangle
    linarith)
  refine ⟨_, if_pos habs, hround.nonneg _ hnonneg, ?_⟩
  have hle := (abs_le.mp herror).2
  norm_num at hangle ⊢
  linarith

theorem acos_none {c : ℝ} (hc : 1 < c) : (realAntennaMath toFloat).acos c = none :=
  if_neg (not_le.mpr (lt_of_lt_of_le hc (le_abs_self c)))

end Rounding

section
variable {toFloat : ℝ → ℝ} {direction : Quaternion ℝ} {angle : ℝ}

theorem ParabolicAntenna_gain (debug : Bool) {maxGain minGain beamWidth : ℝ}
    (hbeam : 0 < beamWidth) (hmax : 0 ≤ maxGain) (hmin : minGain ≤ maxGain)
    (hacos : (realAntennaMath toFloat).acos
      (axisCosine (realAntennaMath toFloat) direction) = some angle)
    (hlow : 0 ≤ angle) (hhigh : angle ≤ 0.1 * (Real.pi / 180)) : ∃ g,
      (ParabolicAntenna (realAntennaMath toFloat) debug maxGain minGain beamWidth).computeGain
        direction = .gain g ∧
      maxGain * (10 : ℝ) ^ (-0.012 / beamWidth ^ 2) ≤ g ∧ g ≤ maxGain := by
  obtain ⟨alpha, halpha⟩ : ∃ alpha, alpha = angle * (180.0 / Real.pi) := ⟨_, rfl⟩
  have hpi := Real.pi_pos
  have hnonneg : 0 ≤ alpha := by
    rw [halpha]
    positivity
  have htenth : alpha ≤ 0.1 := by
    rw [halpha, ← mul_div_assoc, div_le_iff₀ hpi]
    norm_num at hhigh ⊢
    linarith
  have hrange : 0 ≤ alpha ∧ alpha ≤ 360.0 := ⟨hnonneg, htenth.trans (by norm_num)⟩
  have hturn : ¬ 180.0 < alpha := not_lt.mpr (htenth.trans (by norm_num))
  have hgain : (ParabolicAntenna (realAntennaMath toFloat) debug maxGain minGain
      beamWidth).computeGain direction = .gain (max minGain
        (maxGain * dB2fraction (realAntennaMath toFloat)
          (-12.0 * (realAntennaMath toFloat).pow (alpha / beamWidth) 2.0))) := by
    have hpi : (realAntennaMath toFloat).pi = Real.pi := rfl
    simp only [ParabolicAntenna, hacos, hpi, ← halpha, hrange, hturn, and_self, not_true, and_false,
      if_false]
  have hpow : dB2fraction (realAntennaMath toFloat)
      (-12.0 * (realAntennaMath toFloat).pow (alpha / beamWidth) 2.0) =
      (10 : ℝ) ^ (-1.2 * (alpha / beamWidth) ^ 2) := by
    simp only [dB2fraction, realAntennaMath]
    norm_num
    congr 1
    ring
  rw [hgain, hpow]
  refine ⟨_, rfl, le_max_of_le_right ?_, max_le hmin ?_⟩
  · refine mul_le_mul_of_nonneg_left (Real.rpow_le_rpow_of_exponent_le (by norm_num) ?_) hmax
    have hsq : alpha ^ 2 ≤ 0.1 ^ 2 := pow_le_pow_left₀ hnonneg htenth 2
    rw [div_pow, mul_div_assoc', div_le_div_iff_of_pos_right (by positivity)]
    norm_num at hsq ⊢
    linarith
  · refine mul_le_of_le_one_right hmax (Real.rpow_le_one_of_one_le_of_nonpos (by norm_num) ?_)
    norm_num
    positivity

theorem CosineAntenna_gain {maxGain beamWidth : ℝ} (hbeam : 0 < beamWidth)
    (hcircle : beamWidth < 360) (hmax : 0 ≤ maxGain)
    (hacos : (realAntennaMath toFloat).acos
      (axisCosine (realAntennaMath toFloat) direction) = some angle)
    (hlow : 0 ≤ angle) (hhigh : angle ≤ 0.1 * (Real.pi / 180)) : ∃ g,
      (CosineAntenna (realAntennaMath toFloat) maxGain beamWidth).computeGain direction =
        .gain g ∧
      maxGain * Real.cos (0.05 * (Real.pi / 180)) ^
        cosineExponent (realAntennaMath toFloat) beamWidth ≤ g ∧ g ≤ maxGain := by
  have hpi := Real.pi_pos
  have hexponent : 0 ≤ cosineExponent (realAntennaMath toFloat) beamWidth := by
    have hquarter : 0 < beamWidth * Real.pi / 180 / 4 := by positivity
    have hright : beamWidth * Real.pi / 180 / 4 < Real.pi / 2 := by
      rw [div_div, div_lt_div_iff₀ (by norm_num) zero_lt_two]
      linarith [mul_lt_mul_of_pos_right hcircle hpi]
    have hcos : 0 < Real.cos (beamWidth * Real.pi / 180 / 4) :=
      Real.cos_pos_of_mem_Ioo ⟨by linarith, hright⟩
    have hlog : Real.logb 10 (Real.cos (beamWidth * Real.pi / 180 / 4)) ≤ 0 :=
      Real.logb_nonpos (by norm_num) hcos.le (Real.cos_le_one _)
    simp only [cosineExponent, realAntennaMath, realOrientationMath, RadioMedium.realLibm,
      TEME2ITRF.realTrigonometry]
    norm_num at hlog ⊢
    exact div_nonneg_of_nonpos (by norm_num) (by linarith)
  have hgain : (CosineAntenna (realAntennaMath toFloat) maxGain beamWidth).computeGain direction =
      .gain (maxGain * |Real.cos (angle / 2)| ^
        cosineExponent (realAntennaMath toFloat) beamWidth) := by
    simp only [CosineAntenna, hacos]
    norm_num [realAntennaMath, realOrientationMath, TEME2ITRF.realTrigonometry]
  norm_num at hhigh
  have hhalf : Real.cos (0.05 * (Real.pi / 180)) ≤ Real.cos (angle / 2) := by
    refine Real.cos_le_cos_of_nonneg_of_le_pi (by linarith) ?_ ?_
    · norm_num
      linarith
    · norm_num
      linarith
  have hpos : 0 ≤ Real.cos (0.05 * (Real.pi / 180)) := by
    refine Real.cos_nonneg_of_mem_Icc ⟨?_, ?_⟩
    · norm_num
      linarith
    · norm_num
      linarith
  rw [hgain, abs_of_nonneg (hpos.trans hhalf)]
  refine ⟨_, rfl, ?_, ?_⟩
  · exact mul_le_mul_of_nonneg_left (Real.rpow_le_rpow hpos hhalf hexponent) hmax
  · exact mul_le_of_le_one_right hmax
      (Real.rpow_le_one (hpos.trans hhalf) (Real.cos_le_one _) hexponent)

/-- Between the first two entries of a table. -/
theorem tableGain_first {b g₀ g₁ : ℝ} {rest : List (ℝ × ℝ)} (hlow : 0 ≤ angle)
    (hhigh : angle < b) : tableGain ((0, g₀) :: (b, g₁) :: rest) angle =
      some ((1 - angle / b) * g₀ + angle / b * g₁) := by
  rcases hlow.eq_or_lt with rfl | hpos
  · simp [tableGain, List.findIdx_cons, hhigh]
  · simp [tableGain, List.findIdx_cons, hhigh, hhigh.le, hhigh.ne', not_le.mpr hpos,
      not_lt.mpr hlow]

/-- A cosine above one, so that the angle is not a number. -/
structure NoAngle (lib : AntennaMath ℝ) (direction : Quaternion ℝ) : Prop where
  parabolic : ∀ debug maxGain minGain beamWidth,
    (ParabolicAntenna lib debug maxGain minGain beamWidth).computeGain direction =
      if debug then .assertFailed else .gain minGain
  cosine : ∀ maxGain beamWidth, (CosineAntenna lib maxGain beamWidth).computeGain direction = .nan
  axiallySymmetric : ∀ minGain maxGain gainMap,
    (AxiallySymmetricAntenna lib minGain maxGain gainMap).computeGain direction = .undefined

/-- The gain of an angle of at most a tenth of a degree. -/
structure NearlyFullGain (lib : AntennaMath ℝ) (direction : Quaternion ℝ) : Prop where
  parabolic : ∀ debug {maxGain minGain beamWidth : ℝ}, 0 < beamWidth → 0 ≤ maxGain →
    minGain ≤ maxGain → ∃ g,
      (ParabolicAntenna lib debug maxGain minGain beamWidth).computeGain direction = .gain g ∧
        maxGain * (10 : ℝ) ^ (-0.012 / beamWidth ^ 2) ≤ g ∧ g ≤ maxGain
  cosine : ∀ {maxGain beamWidth : ℝ}, 0 < beamWidth → beamWidth < 360 → 0 ≤ maxGain → ∃ g,
    (CosineAntenna lib maxGain beamWidth).computeGain direction = .gain g ∧
      maxGain * Real.cos (0.05 * (Real.pi / 180)) ^ cosineExponent lib beamWidth ≤ g ∧
        g ≤ maxGain
  axiallySymmetric : ∃ angle, 0 ≤ angle ∧ angle ≤ 0.1 * (Real.pi / 180) ∧
    ∀ minGain maxGain {b : ℝ} (g₀ g₁ : ℝ) rest, angle < b →
      (AxiallySymmetricAntenna lib minGain maxGain ((0, g₀) :: (b, g₁) :: rest)).computeGain
        direction = .gain ((1 - angle / b) * g₀ + angle / b * g₁)

theorem noAngle (h : 1 < axisCosine (realAntennaMath toFloat) direction) :
    NoAngle (realAntennaMath toFloat) direction where
  parabolic debug maxGain minGain beamWidth := by simp only [ParabolicAntenna, acos_none h]
  cosine maxGain beamWidth := by simp only [CosineAntenna, acos_none h]
  axiallySymmetric minGain maxGain gainMap := by
    simp only [AxiallySymmetricAntenna, acos_none h, Option.bind_none]

theorem nearlyFullGain (hacos : (realAntennaMath toFloat).acos
      (axisCosine (realAntennaMath toFloat) direction) = some angle)
    (hlow : 0 ≤ angle) (hhigh : angle ≤ 0.1 * (Real.pi / 180)) :
    NearlyFullGain (realAntennaMath toFloat) direction where
  parabolic debug _ _ _ hbeam hmax hmin :=
    ParabolicAntenna_gain debug hbeam hmax hmin hacos hlow hhigh
  cosine hbeam hcircle hmax := CosineAntenna_gain hbeam hcircle hmax hacos hlow hhigh
  axiallySymmetric := by
    refine ⟨angle, hlow, hhigh, fun minGain maxGain b g₀ g₁ rest hb => ?_⟩
    simp only [AxiallySymmetricAntenna, hacos, Option.bind_some, tableGain_first hlow hb]

end

/-- The library functions with conversions to `float`. -/
noncomputable def floatAntennaMath : AntennaMath ℝ := realAntennaMath SinglePrecision.toFloat

/-- Towards the target that the antenna faces the cosine is one up to the rounding of the scalar
products. Where it comes out above one the angle is not a number; else the gain is nearly that of
the axis. -/
theorem gain_towards_target {source target : Coord ℝ} (h : target.sub source ≠ ⟨0, 0, 0⟩) :
    ∃ direction,
      (∀ gain, gainTowards floatAntennaMath gain source target =
        some (if gain.minGain = gain.maxGain then .gain gain.minGain
          else gain.computeGain direction)) ∧
      |axisCosine floatAntennaMath direction - 1| ≤ 10 * 2 ^ (-24 : ℤ) ∧
      (1 < axisCosine floatAntennaMath direction → NoAngle floatAntennaMath direction) ∧
      (axisCosine floatAntennaMath direction ≤ 1 → NearlyFullGain floatAntennaMath direction) := by
  have hround := SinglePrecision.rounds_toFloat
  have hu : (2 : ℝ) ^ (-24 : ℤ) ≤ 1 / 1000 := by norm_num
  obtain ⟨f, hf, hunit, hfaces⟩ := angularPosition_eq h
  obtain ⟨toTarget, hrotation, hnorm, haxis⟩ := Quaternion.rotationFromTo_nearly hround hu h
  obtain ⟨l, hl, hinverse⟩ := Quaternion.inverse_nearly hround hu hunit
  have hcosine := axisCosine_nearly hround hu hunit hl hnorm (hfaces ▸ haxis)
  refine ⟨_, fun gain => ?_, hcosine, noAngle, fun hle => ?_⟩
  · have hposition : getCurrentAngularPosition floatAntennaMath.toOrientationMath source target =
        some f := hf
    simp only [gainTowards, hposition, Option.bind_eq_bind, Option.bind_some]
    simp only [floatAntennaMath, computeAntennaGain, hrotation, hinverse, Option.bind_eq_bind,
      Option.bind_some]
    split_ifs <;> rfl
  · have hle' : axisCosine (realAntennaMath SinglePrecision.toFloat) _ ≤ 1 := hle
    obtain ⟨angle, hacos, hlow, hhigh⟩ := acos_nearly hround le_rfl
      (by linarith [(abs_le.mp hcosine).1]) hle'
    exact nearlyFullGain hacos hlow hhigh

section
open SinglePrecision

/-- A satellite at the horizon; the cosine and the sine of half its azimuth are 5/13 and 12/13. -/
def atHorizon : Coord ℝ := ⟨-1190000, 1200000, 0⟩

theorem atHorizon_ne : atHorizon.sub ⟨0, 0, 0⟩ ≠ ⟨0, 0, 0⟩ := by norm_num [Coord.sub, atHorizon]

theorem atHorizon_direction : (atHorizon.sub ⟨0, 0, 0⟩).direction = ⟨-119 / 169, 120 / 169, 0⟩ := by
  have hlength : (atHorizon.sub ⟨0, 0, 0⟩).length RadioMedium.realLibm = 1690000 := by
    simp only [Coord.length, Coord.squareLength, Coord.sub, atHorizon, RadioMedium.realLibm]
    rw [Real.sqrt_eq_iff_mul_self_eq] <;> norm_num
  rw [Coord.direction, hlength]
  simp only [Coord.div, Coord.sub, atHorizon, Coord.mk.injEq]
  norm_num

theorem atHorizon_facing : ∃ f, getCurrentAngularPosition realOrientationMath ⟨0, 0, 0⟩ atHorizon =
    some f ∧ f.lastOrientation = ⟨5 / 13, 0, 0, 12 / 13⟩ := by
  have hnormalize : (atHorizon.sub ⟨0, 0, 0⟩).normalize realOrientationMath.toLibm =
      some ⟨-119 / 169, 120 / 169, 0⟩ := by
    rw [← atHorizon_direction]
    exact Coord.normalize_eq atHorizon_ne
  simp only [getCurrentAngularPosition, hnormalize, Option.bind_eq_bind, Option.bind_some]
  refine ⟨_, rfl, ?_⟩
  have hatan : realOrientationMath.atan2 (120 / 169) (-119 / 169) =
      Complex.arg ⟨-119 / 169, 120 / 169⟩ := rfl
  have hasin : realOrientationMath.asin 0 = 0 := Real.arcsin_zero
  have hnorm : ‖(⟨-119 / 169, 120 / 169⟩ : ℂ)‖ = 1 := by
    rw [Complex.norm_def, Complex.normSq_mk]
    norm_num
  have hcos : Real.cos (Complex.arg ⟨-119 / 169, 120 / 169⟩) = -119 / 169 := by
    have h := Complex.norm_mul_cos_arg ⟨-119 / 169, 120 / 169⟩
    rwa [hnorm, one_mul] at h
  have hpos : 0 ≤ Complex.arg ⟨-119 / 169, 120 / 169⟩ := Complex.arg_nonneg_iff.mpr (by norm_num)
  have hpi := Complex.arg_le_pi ⟨-119 / 169, 120 / 169⟩
  generalize Complex.arg ⟨-119 / 169, 120 / 169⟩ = alpha at *
  have hc : Real.cos (0.5 * alpha) = 5 / 13 := by
    rw [show 0.5 * alpha = alpha / 2 by norm_num; ring, Real.cos_half (by linarith) hpi, hcos,
      Real.sqrt_eq_iff_mul_self_eq] <;> norm_num
  have hs : Real.sin (0.5 * alpha) = 12 / 13 := by
    rw [show 0.5 * alpha = alpha / 2 by norm_num; ring,
      Real.sin_half_eq_sqrt hpos (by linarith), hcos, Real.sqrt_eq_iff_mul_self_eq] <;> norm_num
  rw [hatan, hasin]
  have hlibcos : realOrientationMath.cos = Real.cos := rfl
  have hlibsin : realOrientationMath.sin = Real.sin := rfl
  simp only [Quaternion.ofEulerAngles, neg_zero, mul_zero, hlibcos, hlibsin, hc, hs, Real.cos_zero,
    Real.sin_zero, mul_one, add_zero, sub_zero]

/-- The length of the rotation to the satellite, before it is divided by it. -/
theorem atHorizon_length {s : ℝ} (hpos : 0 < s) (hsquare : s * s = 4963673 / 8388608) :
    Quaternion.lengthSquared (realAntennaMath toFloat)
      ⟨s * 0.5, (Coord.X_AXIS.cross ⟨-119 / 169, 120 / 169, 0⟩).div s⟩ =
      33554433 / 33554432 := by
  have hfloat : toFloat ((120 / 169) ^ 2 / (4963673 / 8388608)) = 14295380 / 16777216 := by
    have := toFloat_half (x := (120 / 169) ^ 2 / (4963673 / 8388608)) (n := 14295380)
      (by rw [abs_of_pos] <;> norm_num) (by rw [abs_of_pos] <;> norm_num)
      (by rw [abs_lt]; constructor <;> norm_num)
    rw [this]
    norm_num
  have hvector : Coord.exactDot ((Coord.X_AXIS.cross ⟨-119 / 169, 120 / 169, 0⟩).div s)
      ((Coord.X_AXIS.cross ⟨-119 / 169, 120 / 169, 0⟩).div s) =
      (120 / 169) ^ 2 / (4963673 / 8388608) := by
    rw [← hsquare]
    simp only [Coord.exactDot, Coord.cross, Coord.X_AXIS, Coord.div]
    field_simp
    ring
  have hdot : Coord.dot (realAntennaMath toFloat)
      ((Coord.X_AXIS.cross ⟨-119 / 169, 120 / 169, 0⟩).div s)
      ((Coord.X_AXIS.cross ⟨-119 / 169, 120 / 169, 0⟩).div s) = 14295380 / 16777216 := by
    rw [← hfloat, ← hvector]
    rfl
  rw [Quaternion.lengthSquared, hdot, show s * 0.5 * (s * 0.5) = s * s / 4 by norm_num; ring,
    hsquare]
  norm_num

/-- The rotation to the satellite. -/
theorem atHorizon_rotation : ∃ p d, 1.300000029 < p ∧ p < 1.30000003 ∧
    Quaternion.rotationFromTo floatAntennaMath Coord.X_AXIS (atHorizon.sub ⟨0, 0, 0⟩) = some d ∧
    d = ⟨4963673 / 16777216 * p, 0, 0, 120 / 169 * p⟩ := by
  have hfloat : toFloat (-119 / 169) = -11813543 / 16777216 := by
    have := toFloat_half (x := -119 / 169) (n := -11813543) (by rw [abs_of_neg] <;> norm_num)
      (by rw [abs_of_neg] <;> norm_num) (by rw [abs_lt]; constructor <;> norm_num)
    exact_mod_cast this
  rw [floatAntennaMath, Quaternion.rotationFromTo_eq _ atHorizon_ne, atHorizon_direction]
  simp only [hfloat]
  rw [if_neg (by norm_num), if_neg (by norm_num),
    show 2 * (1 + -11813543 / 16777216) = (4963673 / 8388608 : ℝ) by norm_num]
  have hpos : (0 : ℝ) < Real.sqrt (4963673 / 8388608) := Real.sqrt_pos.mpr (by norm_num)
  have hsquare := Real.mul_self_sqrt (show (0 : ℝ) ≤ 4963673 / 8388608 by norm_num)
  generalize Real.sqrt (4963673 / 8388608) = s at hpos hsquare ⊢
  have hlength : Quaternion.length (realAntennaMath toFloat)
      ⟨s * 0.5, (Coord.X_AXIS.cross ⟨-119 / 169, 120 / 169, 0⟩).div s⟩ =
      Real.sqrt (33554433 / 33554432) := by
    rw [Quaternion.length, atHorizon_length hpos hsquare]
    rfl
  have hpos' : (0 : ℝ) < Real.sqrt (33554433 / 33554432) := Real.sqrt_pos.mpr (by norm_num)
  have hsquare' := Real.mul_self_sqrt (show (0 : ℝ) ≤ 33554433 / 33554432 by norm_num)
  rw [Quaternion.normalized, hlength, if_neg hpos'.ne']
  generalize Real.sqrt (33554433 / 33554432) = m at hpos' hsquare' ⊢
  have hp : 0 < 1 / (s * m) := by positivity
  have hp2 : (1 / (s * m)) ^ 2 = 281474976710656 / 166553233112409 := by
    rw [div_pow, one_pow, mul_pow, pow_two, pow_two, hsquare, hsquare']
    norm_num
  refine ⟨1 / (s * m), _, ?_, ?_, rfl, ?_⟩
  · refine lt_of_pow_lt_pow_left₀ 2 hp.le ?_
    rw [hp2]
    norm_num
  · refine lt_of_pow_lt_pow_left₀ 2 (by norm_num) ?_
    rw [hp2]
    norm_num
  · simp only [Quaternion.div, Coord.div, Coord.cross, Coord.X_AXIS, Quaternion.mk.injEq,
      Coord.mk.injEq]
    refine ⟨?_, by norm_num, by norm_num, ?_⟩
    · rw [show (4963673 / 16777216 : ℝ) = s * s / 2 by rw [hsquare]; norm_num]
      norm_num
      field_simp
    · field_simp
      ring

theorem atHorizon_cosine {l p : ℝ} {o d : Quaternion ℝ} (ho : o = ⟨5 / 13, 0, 0, 12 / 13⟩)
    (hl : l = 25 / 169 + 14295379 / 16777216) (hlow : 1.300000029 < p) (hhigh : p < 1.30000003)
    (hd : d = ⟨4963673 / 16777216 * p, 0, 0, 120 / 169 * p⟩) :
    1 < axisCosine floatAntennaMath ((o.conjugated.div l).mul floatAntennaMath d) := by
  have hlength : l = 2835349451 / 2835349504 := by
    rw [hl]
    norm_num
  norm_num at hlow hhigh
  obtain ⟨t, ht⟩ : ∃ t, t = -(24159191040 / 36859542863 * p) := ⟨_, rfl⟩
  have hdot : t = (o.conjugated.div l).v.exactDot d.v := by
    rw [ht, ho, hd, hlength]
    simp only [Quaternion.conjugated, Quaternion.div, Coord.div, Coord.exactDot]
    ring
  have hfloat : toFloat t = -14295380 / 16777216 := by
    have habs : |t| = 24159191040 / 36859542863 * p := by
      rw [ht, abs_neg, abs_of_pos (by linarith)]
    have := toFloat_half (x := t) (n := -14295380) (by rw [habs]; linarith)
      (by rw [habs]; linarith) (by
        rw [ht, abs_lt]
        push_cast
        constructor <;> linarith)
    exact_mod_cast this
  rw [floatAntennaMath, axisCosine_mul toFloat rfl hdot, hfloat, ht, ho, hd, hlength]
  have hleft : (1 + 357 / 10000000000) ^ 2 <
      (29330795 / 257759041 * p + 14295380 / 16777216) ^ 2 :=
    pow_lt_pow_left₀ (by linarith) (by norm_num) two_ne_zero
  have hright : (756 / 36859542863 * p) ^ 2 < (3 / 100000000) ^ 2 :=
    pow_lt_pow_left₀ (by linarith) (by linarith) two_ne_zero
  have hupper : (29330795 / 257759041 * p + 14295380 / 16777216) ^ 2 < (11 / 10) ^ 2 :=
    pow_lt_pow_left₀ (by linarith) (by linarith) two_ne_zero
  have hvalue : ∀ x : ℝ, x = (29330795 / 257759041 * p + 14295380 / 16777216) ^ 2 -
      (756 / 36859542863 * p) ^ 2 → 1 < toFloat x := by
    rintro x rfl
    refine one_lt_toFloat ?_ ?_
    · norm_num at hleft hright
      linarith
    · norm_num at hupper
      linarith [sq_nonneg (756 / 36859542863 * p)]
  apply hvalue
  simp
  ring

theorem atHorizon_direction_seen : ∃ direction,
    (∀ gain : AntennaGain ℝ, gain.minGain ≠ gain.maxGain →
      gainTowards floatAntennaMath gain ⟨0, 0, 0⟩ atHorizon =
        some (gain.computeGain direction)) ∧
    1 < axisCosine floatAntennaMath direction := by
  obtain ⟨f, hf, horientation⟩ := atHorizon_facing
  obtain ⟨p, d, hlow, hhigh, hrotation, hd⟩ := atHorizon_rotation
  have hfloat : toFloat (144 / 169) = 14295379 / 16777216 := by
    have := toFloat_half (x := 144 / 169) (n := 14295379) (by rw [abs_of_pos] <;> norm_num)
      (by rw [abs_of_pos] <;> norm_num) (by rw [abs_lt]; constructor <;> norm_num)
    rw [this]
    norm_num
  have hlength : f.lastOrientation.lengthSquared floatAntennaMath =
      25 / 169 + 14295379 / 16777216 := by
    have hdot : f.lastOrientation.v.dot floatAntennaMath f.lastOrientation.v =
        toFloat (144 / 169) := by
      rw [horientation]
      simp only [Coord.dot, floatAntennaMath, realAntennaMath]
      norm_num
    rw [Quaternion.lengthSquared, hdot, hfloat, horientation]
    norm_num
  have hinverse : f.lastOrientation.inverse floatAntennaMath =
      some (f.lastOrientation.conjugated.div (25 / 169 + 14295379 / 16777216)) := by
    rw [Quaternion.inverse, hlength]
    norm_num
  refine ⟨_, fun gain hgain => ?_, atHorizon_cosine horientation rfl hlow hhigh hd⟩
  have hposition : getCurrentAngularPosition floatAntennaMath.toOrientationMath ⟨0, 0, 0⟩
      atHorizon = some f := hf
  simp only [gainTowards, hposition, computeAntennaGain, hrotation, hinverse, hgain, if_false,
    Option.bind_eq_bind, Option.bind_some]

/-- The antenna that faces this satellite finds no number for the angle. -/
theorem gain_towards_target_atHorizon : ∃ direction,
    (∀ gain, gainTowards floatAntennaMath gain ⟨0, 0, 0⟩ atHorizon =
      some (if gain.minGain = gain.maxGain then .gain gain.minGain
        else gain.computeGain direction)) ∧
    1 < axisCosine floatAntennaMath direction ∧
    axisCosine floatAntennaMath direction ≤ 1 + 10 * 2 ^ (-24 : ℤ) ∧
    NoAngle floatAntennaMath direction := by
  obtain ⟨direction, hgain, hclose, hno, _⟩ := gain_towards_target atHorizon_ne
  obtain ⟨seen, hseen, hone⟩ := atHorizon_direction_seen
  -- An antenna whose gain is the cosine tells that both are the same direction.
  have hsame : axisCosine floatAntennaMath direction = axisCosine floatAntennaMath seen := by
    have hboth := (hgain ⟨0, 1, fun q => .gain (axisCosine floatAntennaMath q)⟩).symm.trans
      (hseen ⟨0, 1, fun q => .gain (axisCosine floatAntennaMath q)⟩ zero_ne_one)
    simpa using hboth
  rw [← hsame] at hone
  exact ⟨direction, hgain, hone, by linarith [(abs_le.mp hclose).2], hno hone⟩

end

end SpaceVeins
