import SpaceVeins.SGP4

/-!
# Two computations of the sidereal time

The propagator computes the sidereal time of its epoch in radians from the whole
polynomial; the turn to the frame of the Earth computes it in parts of a turn, with
the days taken out of the polynomial. For every date both are the same part of a
turn.
-/

set_option autoImplicit false

namespace SpaceVeins.SGP4Funcs
open SGP4Mobility TEME2ITRF

variable {K : Type} [Field K] [LinearOrder K] [IsStrictOrderedRing K] [FloorRing K]

def gstime_SGP4 (jdut1 : K) : K :=
  let tut1 := (jdut1 - 2451545.0) / 36525.0
  let temp := -6.2e-6 * tut1 * tut1 * tut1 + 0.093104 * tut1 * tut1 +
    (876600.0 * 3600.0 + 8640184.812866) * tut1 + 67310.54841
  let temp := fmod (temp * deg2rad / 240.0) twopi
  if temp < 0 then temp + twopi else temp

omit [FloorRing K] in
theorem twopi_pos : (0 : K) < twopi := by
  norm_num [twopi, pi]

/-- The remainder of C, made positive. -/
theorem fmod_positive {x y : K} (hy : 0 < y) :
    (if fmod x y < 0 then fmod x y + y else fmod x y) = y * Int.fract (x / y) := by
  have hx : x = y * (x / y) := by
    field_simp
  have hfmod : fmod x y = y * (x / y - trunc (x / y)) := by
    rw [fmod, mul_sub, ← hx]
  rw [hfmod]
  generalize x / y = q
  rcases le_or_gt 0 q with hq | hq
  · have htrunc : q - trunc q = Int.fract q := by
      rw [trunc, if_pos hq, Int.self_sub_floor]
    rw [htrunc, if_neg (not_lt.mpr (mul_nonneg hy.le (Int.fract_nonneg q)))]
  · have htrunc : trunc q = (⌈q⌉ : K) := by
      rw [trunc, if_neg (not_le.mpr hq)]
    rw [htrunc]
    by_cases hint : Int.fract q = 0
    · obtain ⟨n, rfl⟩ := Int.fract_eq_zero_iff.mp hint
      simp
    · have hceil : q - ⌈q⌉ = Int.fract q - 1 := by
        have h := Int.ceil_sub_self_eq hint
        linarith
      have hneg : y * (Int.fract q - 1) < 0 :=
        mul_neg_of_pos_of_neg hy (sub_neg.mpr (Int.fract_lt_one q))
      rw [hceil, if_pos hneg]
      ring

/-- The seconds of a turn, without the turns of the days. -/
def siderealSeconds (tut1 : K) : K :=
  67310.54841 + (8640184.812866 + (0.093104 + -6.2e-6 * tut1) * tut1) * tut1

omit [FloorRing K] in
/-- Seconds as a part of a turn; a century has 36525 days of one turn each. -/
theorem seconds_div_twopi (jdut1 : K) {tut1 : K} (h : tut1 = (jdut1 - 2451545.0) / 36525.0) :
    (-6.2e-6 * tut1 * tut1 * tut1 + 0.093104 * tut1 * tut1 +
      (876600.0 * 3600.0 + 8640184.812866) * tut1 + 67310.54841) * deg2rad / 240.0 / twopi =
      siderealSeconds tut1 / 86400.0 + (jdut1 - 2451545.0) := by
  have hpi : (pi : K) ≠ 0 := by
    norm_num [pi]
  have hunit : ∀ x : K, x * deg2rad / 240.0 / twopi = x / 86400.0 := by
    intro x
    rw [deg2rad, twopi]
    field_simp
    norm_num
    ring
  have hdays : jdut1 - 2451545.0 = tut1 * 36525.0 := by
    rw [h, div_mul_cancel₀ _ (by norm_num)]
  rw [hunit, hdays, siderealSeconds]
  norm_num
  ring

theorem gstime_eq (jdut1 : K) :
    gstime_SGP4 jdut1 = twopi * Int.fract
      (siderealSeconds ((jdut1 - 2451545.0) / 36525.0) / 86400.0 + (jdut1 - 2451545.0)) := by
  simp only [gstime_SGP4]
  rw [fmod_positive twopi_pos, seconds_div_twopi jdut1 rfl]

/-- **The propagator and the turn to the frame of the Earth agree on the sidereal time.** -/
theorem gstime_eq_theta (jd fraction : K) :
    gstime_SGP4 (jd + fraction) / twopi = (theta_GMST1982 jd fraction).1 / TAU := by
  have htau : (TAU : K) ≠ 0 := by
    norm_num [TAU]
  have hcentury : (jd - T0 + fraction) / 36525 = (jd + fraction - 2451545.0) / 36525.0 := by
    have hepoch : (2451545.0 : K) = T0 := by
      norm_num [T0]
    have hdays : (36525.0 : K) = 36525 := by
      norm_num
    rw [hepoch, hdays]
    ring
  have hseconds : ∀ t : K, 6731054841 / 100000 + (8640184812866 / 1000000 +
      (93104 / 1000000 + -62 / 10000000 * t) * t) * t = siderealSeconds t := by
    intro t
    rw [siderealSeconds]
    norm_num
  rw [gstime_eq, mul_div_cancel_left₀ _ twopi_pos.ne']
  simp only [theta_GMST1982, hcentury, hseconds, pythonFmod, mul_div_cancel_right₀ _ htau, div_one,
    one_mul]
  generalize siderealSeconds ((jd + fraction - 2451545.0) / 36525.0) = g
  rw [← Int.fract, Int.fract_eq_fract]
  refine ⟨⌊jd⌋ + ⌊g / DAY_S⌋ - 2451545, ?_⟩
  have hday : (86400.0 : K) = DAY_S := by
    norm_num [DAY_S]
  have hepoch : (2451545.0 : K) = 2451545 := by
    norm_num
  rw [hday, hepoch]
  push_cast
  ring

theorem gstime_eq_theta_noon : gstime_SGP4 (2460310.5 + 0.5) / twopi =
    (theta_GMST1982 (2460310.5 : ℚ) 0.5).1 / TAU :=
  gstime_eq_theta 2460310.5 0.5

end SpaceVeins.SGP4Funcs
