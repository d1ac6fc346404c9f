import SpaceVeins.RadioMediumFilters
import SpaceVeins.TEME2ITRF
import SpaceVeins.Shared.SteppedCache
import Mathlib.Algebra.Order.ToIntervalMod

/-!
# Headings

A heading of the simulation is an angle in radians, from east counterclockwise; one
of the road traffic is an angle in degrees, from north clockwise. Both conversions
end with two loops that bring the angle into one turn. The arithmetic is exact here;
beside doubles from about 1e17 on a turn is lost, and the loops do not end.
-/

set_option autoImplicit false

namespace SpaceVeins
open SteppedCache

structure Heading (K : Type) where
  rad : K

namespace TraCICoordinateTransformation
variable {K : Type} [Field K] [LinearOrder K]

/-- The two loops at the end of the conversions; `none` if `fuel` tests do not end one. -/
def normalizeAngle (half full : K) (fuel : Nat) (angle : K) : Option K := do
  let angle ← advanceUntil (fun a => decide (¬ a < -half)) (fun a => a + full) fuel angle
  advanceUntil (fun a => decide (¬ half ≤ a)) (fun a => a - full) fuel angle

def omnet2traciHeading (libm : Libm K) (fuel : Nat) (o : Heading K) : Option K :=
  let angle := o.rad * 180.0 / libm.pi
  let angle := 90.0 - angle
  normalizeAngle 180.0 360.0 fuel angle

def traci2omnetHeading (libm : Libm K) (fuel : Nat) (o : K) : Option (Heading K) := do
  let angle := 90.0 - o
  let angle := angle * libm.pi / 180.0
  let angle ← normalizeAngle libm.pi (2.0 * libm.pi) fuel angle
  some ⟨angle⟩

end TraCICoordinateTransformation

/-- `Heading::toCoord`, with x pointing east and y pointing south. -/
def Heading.toCoord {K : Type} [Field K] (trig : Trigonometry K) (h : Heading K) (length : K) :
    Coord K :=
  ⟨trig.cos h.rad * length, -trig.sin h.rad * length, 0⟩

namespace TraCICoordinateTransformation

/-- The loop that stops at once. -/
theorem advanceUntil_stopped {σ : Type} {near : σ → Bool} {advance : σ → σ} {angle : σ}
    {fuel : Nat} (hfuel : 0 < fuel) (h : near angle = true) :
    advanceUntil near advance fuel angle = some angle :=
  @advanceUntil_iterate σ near advance 0 fuel angle (fun i hi => absurd hi (Nat.not_lt_zero i))
    h hfuel

section
variable {K : Type} [Field K]

theorem iterate_add (d a : K) (n : Nat) : (fun a => a + d)^[n] a = a + n * d := by
  rw [add_right_iterate, nsmul_eq_mul]

theorem iterate_sub (d a : K) (n : Nat) : (fun a => a - d)^[n] a = a - n * d := by
  simp only [sub_eq_add_neg]
  rw [iterate_add, mul_neg]

variable [LinearOrder K] [IsStrictOrderedRing K]

/-- Up into the turn. -/
theorem raise {half full m : K} (hfull : full = half + half) (hpos : 0 < full) (hlow : -half ≤ m)
    (hhigh : m < half) {k fuel : Nat} (hfuel : k < fuel) :
    normalizeAngle half full fuel (m - k * full) = some m := by
  have hloop : advanceUntil (fun a => decide (¬ a < -half)) (fun a => a + full) fuel
      (m - k * full) = some m := by
    have h := @advanceUntil_iterate K (fun a => decide (¬ a < -half)) (fun a => a + full) k fuel
      (m - k * full) ?_ ?_ hfuel
    · rwa [iterate_add, sub_add_cancel] at h
    · intro i hi
      have hle : ((i : K) + 1) * full ≤ k * full :=
        mul_le_mul_of_nonneg_right (by exact_mod_cast hi) hpos.le
      rw [iterate_add, decide_eq_false_iff_not, not_not]
      linarith
    · rw [iterate_add, sub_add_cancel]
      simpa using hlow
  have hstop := @advanceUntil_stopped K (fun a => decide (¬ half ≤ a)) (fun a => a - full) m fuel
    (Nat.zero_lt_of_lt hfuel) (by simpa using hhigh)
  simp only [normalizeAngle, hloop, Option.bind_eq_bind, Option.bind_some, hstop]

/-- Down into the turn. -/
theorem lower {half full m : K} (hfull : full = half + half) (hpos : 0 < full) (hlow : -half ≤ m)
    (hhigh : m < half) {k fuel : Nat} (hfuel : k < fuel) :
    normalizeAngle half full fuel (m + k * full) = some m := by
  have hnonneg : 0 ≤ (k : K) * full := mul_nonneg k.cast_nonneg hpos.le
  have hstop := @advanceUntil_stopped K (fun a => decide (¬ a < -half)) (fun a => a + full)
    (m + k * full) fuel (Nat.zero_lt_of_lt hfuel) (by simp only [decide_eq_true_eq]; linarith)
  have hloop : advanceUntil (fun a => decide (¬ half ≤ a)) (fun a => a - full) fuel
      (m + k * full) = some m := by
    have h := @advanceUntil_iterate K (fun a => decide (¬ half ≤ a)) (fun a => a - full) k fuel
      (m + k * full) ?_ ?_ hfuel
    · rwa [iterate_sub, add_sub_cancel_right] at h
    · intro i hi
      have hle : ((i : K) + 1) * full ≤ k * full :=
        mul_le_mul_of_nonneg_right (by exact_mod_cast hi) hpos.le
      rw [iterate_sub, decide_eq_false_iff_not, not_not]
      linarith
    · rw [iterate_sub, add_sub_cancel_right]
      simpa using hhigh
  simp only [normalizeAngle, hstop, Option.bind_eq_bind, Option.bind_some, hloop]

/-- The loops bring every angle into the turn around zero. -/
theorem normalizeAngle_eq [Archimedean K] {half full : K} (hfull : full = half + half)
    (hpos : 0 < full) (angle : K) : ∃ n, ∀ fuel, n < fuel →
      normalizeAngle half full fuel angle = some (toIcoMod hpos (-half) angle) := by
  have hlow := left_le_toIcoMod hpos (-half) angle
  have hhigh : toIcoMod hpos (-half) angle < half := by
    linarith [toIcoMod_lt_right hpos (-half) angle]
  have hangle := toIcoMod_add_toIcoDiv_zsmul hpos (-half) angle
  rw [zsmul_eq_mul] at hangle
  obtain ⟨k, hk | hk⟩ := Int.eq_nat_or_neg (toIcoDiv hpos (-half) angle)
  · refine ⟨k, fun fuel hfuel => ?_⟩
    have h := lower hfull hpos hlow hhigh hfuel
    rw [hk, Int.cast_natCast] at hangle
    rwa [hangle] at h
  · refine ⟨k, fun fuel hfuel => ?_⟩
    have h := raise hfull hpos hlow hhigh hfuel
    rw [hk, Int.cast_neg, Int.cast_natCast] at hangle
    rwa [sub_eq_add_neg, ← neg_mul, hangle] at h

end

theorem full_turn : (360.0 : ℝ) = 180.0 + 180.0 := by norm_num

theorem full_turn_pos : (0 : ℝ) < 360.0 := by norm_num

theorem full_turn_rad : 2.0 * Real.pi = Real.pi + Real.pi := by
  norm_num
  ring

theorem full_turn_rad_pos : 0 < 2.0 * Real.pi := by
  have := Real.pi_pos
  norm_num
  linarith

/-- The conversions end, with the angle in the turn around zero. -/
theorem omnet2traciHeading_eq (o : Heading ℝ) : ∃ n, ∀ fuel, n < fuel →
    omnet2traciHeading RadioMedium.realLibm fuel o =
      some (toIcoMod full_turn_pos (-180.0) (90.0 - o.rad * 180.0 / Real.pi)) :=
  normalizeAngle_eq full_turn full_turn_pos _

theorem traci2omnetHeading_eq (o : ℝ) : ∃ n, ∀ fuel, n < fuel →
    traci2omnetHeading RadioMedium.realLibm fuel o =
      some ⟨toIcoMod full_turn_rad_pos (-Real.pi) ((90.0 - o) * Real.pi / 180.0)⟩ := by
  obtain ⟨n, hn⟩ := normalizeAngle_eq full_turn_rad full_turn_rad_pos
    ((90.0 - o) * Real.pi / 180.0)
  refine ⟨n, fun fuel hfuel => ?_⟩
  have h := hn fuel hfuel
  simp only [traci2omnetHeading, RadioMedium.realLibm] at h ⊢
  rw [h]
  rfl

/-- To the road traffic and back a heading changes by whole turns, in exact arithmetic. -/
theorem heading_round_trip (o : Heading ℝ) : ∃ n, ∀ fuel, n < fuel →
    ∃ angle, omnet2traciHeading RadioMedium.realLibm fuel o = some angle ∧
      traci2omnetHeading RadioMedium.realLibm fuel angle =
        some ⟨toIcoMod full_turn_rad_pos (-Real.pi) o.rad⟩ := by
  obtain ⟨n, hn⟩ := omnet2traciHeading_eq o
  obtain ⟨m, hm⟩ := traci2omnetHeading_eq
    (toIcoMod full_turn_pos (-180.0) (90.0 - o.rad * 180.0 / Real.pi))
  refine ⟨max n m, fun fuel hfuel => ⟨_, hn fuel (by omega), ?_⟩⟩
  rw [hm fuel (by omega)]
  congr 2
  have hpi := Real.pi_ne_zero
  rw [← self_sub_toIcoDiv_zsmul full_turn_pos (-180.0) (90.0 - o.rad * 180.0 / Real.pi)]
  generalize toIcoDiv full_turn_pos (-180.0) (90.0 - o.rad * 180.0 / Real.pi) = k
  have hturns : (90.0 - (90.0 - o.rad * 180.0 / Real.pi - k • (360.0 : ℝ))) * Real.pi / 180.0 =
      o.rad + k • (2.0 * Real.pi) := by
    simp only [zsmul_eq_mul]
    norm_num
    field_simp
    ring
  rw [hturns, toIcoMod_add_zsmul]

theorem heading_round_trip_back (angle : ℝ) : ∃ n, ∀ fuel, n < fuel →
    ∃ o, traci2omnetHeading RadioMedium.realLibm fuel angle = some o ∧
      omnet2traciHeading RadioMedium.realLibm fuel o =
        some (toIcoMod full_turn_pos (-180.0) angle) := by
  obtain ⟨n, hn⟩ := traci2omnetHeading_eq angle
  obtain ⟨m, hm⟩ := omnet2traciHeading_eq
    ⟨toIcoMod full_turn_rad_pos (-Real.pi) ((90.0 - angle) * Real.pi / 180.0)⟩
  refine ⟨max n m, fun fuel hfuel => ⟨_, hn fuel (by omega), ?_⟩⟩
  rw [hm fuel (by omega)]
  congr 1
  have hpi := Real.pi_ne_zero
  simp only
  rw [← self_sub_toIcoDiv_zsmul full_turn_rad_pos (-Real.pi) ((90.0 - angle) * Real.pi / 180.0)]
  generalize toIcoDiv full_turn_rad_pos (-Real.pi) ((90.0 - angle) * Real.pi / 180.0) = k
  have hturns : 90.0 - ((90.0 - angle) * Real.pi / 180.0 - k • (2.0 * Real.pi)) * 180.0 / Real.pi =
      angle + k • (360.0 : ℝ) := by
    simp only [zsmul_eq_mul]
    norm_num
    field_simp
    ring
  rw [hturns, toIcoMod_add_zsmul]

/-- Along the heading in the road network, and then to the canvas, is along the converted heading
on the canvas. -/
theorem motion_commutes (c : TraCICoordinateTransformation ℝ) (p : TraCICoord ℝ)
    (angle length : ℝ) : ∃ n, ∀ fuel, n < fuel →
    ∃ o, traci2omnetHeading RadioMedium.realLibm fuel angle = some o ∧
      c.traci2omnet ⟨p.x + Real.sin (angle * (Real.pi / 180)) * length,
        p.y + Real.cos (angle * (Real.pi / 180)) * length⟩ =
      ⟨(c.traci2omnet p).x + (o.toCoord TEME2ITRF.realTrigonometry length).x,
        (c.traci2omnet p).y + (o.toCoord TEME2ITRF.realTrigonometry length).y, 0⟩ := by
  obtain ⟨n, hn⟩ := traci2omnetHeading_eq angle
  refine ⟨n, fun fuel hfuel => ⟨_, hn fuel hfuel, ?_⟩⟩
  rw [← self_sub_toIcoDiv_zsmul]
  generalize toIcoDiv full_turn_rad_pos (-Real.pi) ((90.0 - angle) * Real.pi / 180.0) = k
  have hangle : (90.0 - angle) * Real.pi / 180.0 - k • (2.0 * Real.pi) =
      (Real.pi / 2 - angle * (Real.pi / 180)) - k * (2 * Real.pi) := by
    simp only [zsmul_eq_mul]
    norm_num
    ring
  rw [hangle]
  simp only [Heading.toCoord, TEME2ITRF.realTrigonometry, Real.cos_sub_int_mul_two_pi,
    Real.sin_sub_int_mul_two_pi, Real.cos_pi_div_two_sub, Real.sin_pi_div_two_sub, traci2omnet,
    dimensions, Coord.mk.injEq, and_true]
  constructor
  · ring
  · ring

end TraCICoordinateTransformation
end SpaceVeins
