import SpaceVeins.SGP4Mobility

/-!
# Propagations that fail

A call of `sgp4` reports an error by its return value, with some components of
its arrays not written. The update of the position is given here with the
coordinates it hands to the statistics; for a propagation that never fails it is
the update of the mobility.
-/

set_option autoImplicit false

namespace SpaceVeins.FailedPropagation
open CxxVector TEME2ITRF

/-- What a call of `sgp4` returns, and what it writes to the arrays. -/
structure Propagation (K : Type) where
  ret : Bool
  r_array : Option K × Option K × Option K
  v_array : Option K × Option K × Option K

inductive UpdateError where
  /-- A component of an array that nobody has written is used. -/
  | indeterminate
  | vector (e : VectorError)
deriving DecidableEq, Repr

/-- What `vehicleStatistics` records. -/
inductive Record (K : Type) where
  | WGS84Coord (c : WGS84Coord K)
  | WGS84CartCoord (c : PJ_COORD K)
  | SopRelativeCoord (c : Coord K)
  | OmnetCoord (c : Coord K)

def ofVector {α : Type} : Except VectorError α → Except UpdateError α :=
  Except.mapError UpdateError.vector

def copyArray {K : Type} : Option K × Option K × Option K → Except UpdateError (List K)
  | (some x, some y, some z) => .ok [x, y, z]
  | _ => .error .indeterminate

variable {K Elements : Type} [Field K] [LinearOrder K] [FloorRing K] (trig : Trigonometry K)

/-- `updateSatellitePosition` from the copies of the arrays on. -/
def placeSatellite (m : SGP4Mobility K Elements) (simTime : K) (r_TEME v_TEME : List K) :
    Except VectorError (SGP4Mobility K Elements × List (Record K)) := do
  let daysToAdd := SGP4Mobility.trunc ((m.wall_clock_sim_start_time_frac + simTime) / 86400)
  let current_frac := m.wall_clock_sim_start_time_frac + simTime / 86400
  let current_jd := m.wall_clock_sim_start_time_jd + daysToAdd
  let itrf ← TEME_to_ITRF trig current_jd r_TEME v_TEME 0 0 current_frac
  let geo := m.itrf2008_to_wgs84_projection
    ⟨(← get itrf.1 0) * 1000, (← get itrf.1 1) * 1000, (← get itrf.1 2) * 1000, 0⟩
  let sat_pos_wgs84 : WGS84Coord K := ⟨geo.phi, geo.lam, geo.z⟩
  let geo_cart := m.wgs84_to_wgs84cartesian_projection
    ⟨sat_pos_wgs84.lon * (SatelliteObservationPoint.PI / 180),
      sat_pos_wgs84.lat * (SatelliteObservationPoint.PI / 180), sat_pos_wgs84.alt, 0⟩
  let topo_cart := m.wgs84cartesian_to_topocentric_projection geo_cart
  let satellitePosition : Coord K := ⟨topo_cart.e + m.sop_omnet_coord.x,
    -topo_cart.n + m.sop_omnet_coord.y, topo_cart.u + m.sop_omnet_coord.z⟩
  pure ({ m with
    current_wall_clock_time_jd := current_jd
    current_wall_clock_time_frac := current_frac
    lastPosition := satellitePosition },
    [.WGS84Coord sat_pos_wgs84, .WGS84CartCoord geo_cart,
      .SopRelativeCoord ⟨topo_cart.e, -topo_cart.n, topo_cart.u⟩, .OmnetCoord satellitePosition])

/-- The return value of the call is kept in a variable that is not read again. -/
def updateSatellitePosition (sgp4 : Elements → K → Propagation K) (m : SGP4Mobility K Elements)
    (simTime : K) : Except UpdateError (SGP4Mobility K Elements × List (Record K)) := do
  let t := m.diffTleEpochWctMin + simTime / 60
  let p := sgp4 m.satrec.elements t
  let r_TEME ← copyArray p.r_array
  let v_TEME ← copyArray p.v_array
  ofVector (placeSatellite trig { m with satrec := { m.satrec with t := t } } simTime r_TEME v_TEME)

/-- An update that leaves the satellite where it is, tells the statistics nothing and uses
nothing that was not written. -/
def LeavesInPlace (m : SGP4Mobility K Elements)
    (result : Except UpdateError (SGP4Mobility K Elements × List (Record K))) : Prop :=
  ∃ m', result = .ok (m', []) ∧ m'.lastPosition = m.lastPosition

@[simp] theorem ok_bind {α β : Type} (a : α) (f : α → Except UpdateError β) :
    (Except.ok a >>= f) = f a := rfl

@[simp] theorem error_bind {α β : Type} (e : UpdateError) (f : α → Except UpdateError β) :
    ((Except.error e : Except UpdateError α) >>= f) = .error e := rfl

@[simp] theorem ofVector_ok {α : Type} (a : α) : ofVector (.ok a) = .ok a := rfl

/-- The propagation whose calls succeed. -/
def succeeding (sgp4 : Sgp4 K Elements) (elements : Elements) (t : K) : Propagation K :=
  let ((x, y, z), (u, v, w)) := sgp4 elements t
  ⟨true, (some x, some y, some z), (some u, some v, some w)⟩

theorem exists_ITRF (jd_ut1 fraction_ut1 x y z u v w : K) : ∃ x' y' velocity,
    TEME_to_ITRF trig jd_ut1 [x, y, z] [u, v, w] 0 0 fraction_ut1 =
      .ok ([x', y', z], velocity) := by
  obtain ⟨velocity, h⟩ := TEME_to_ITRF_eq trig jd_ut1 0 0 fraction_ut1 x y z u v w
  generalize -1 * (theta_GMST1982 jd_ut1 fraction_ut1).1 = theta at h
  rw [if_pos ⟨rfl, rfl⟩, mxv_rot_z, CxxVector.ok_bind] at h
  exact ⟨_, _, _, h⟩

theorem placeSatellite_spec (m : SGP4Mobility K Elements) (simTime x y z u v w : K) :
    ∃ m' records, placeSatellite trig m simTime [x, y, z] [u, v, w] = .ok (m', records) ∧
      records.length = 4 := by
  obtain ⟨x', y', velocity, hitrf⟩ := exists_ITRF trig (m.wall_clock_sim_start_time_jd +
    SGP4Mobility.trunc ((m.wall_clock_sim_start_time_frac + simTime) / 86400))
    (m.wall_clock_sim_start_time_frac + simTime / 86400) x y z u v w
  unfold placeSatellite
  simp only [hitrf, CxxVector.ok_bind, get_cons_zero, get_cons_succ, pure_eq_ok]
  exact ⟨_, _, rfl, rfl⟩

/-- For a propagation that never fails the update is that of the mobility. -/
theorem updateSatellitePosition_succeeding (sgp4 : Sgp4 K Elements) (m : SGP4Mobility K Elements)
    (simTime : K) :
    (updateSatellitePosition trig (succeeding sgp4) m simTime).map Prod.fst =
      ofVector (SGP4Mobility.updateSatellitePosition trig sgp4 m simTime) := by
  unfold updateSatellitePosition SGP4Mobility.updateSatellitePosition
  simp only [succeeding, copyArray, ok_bind]
  generalize sgp4 m.satrec.elements (m.diffTleEpochWctMin + simTime / 60) = rv
  obtain ⟨⟨x, y, z⟩, ⟨u, v, w⟩⟩ := rv
  obtain ⟨x', y', velocity, hitrf⟩ := exists_ITRF trig (m.wall_clock_sim_start_time_jd +
    SGP4Mobility.trunc ((m.wall_clock_sim_start_time_frac + simTime) / 86400))
    (m.wall_clock_sim_start_time_frac + simTime / 86400) x y z u v w
  unfold placeSatellite
  simp only [hitrf, CxxVector.ok_bind, get_cons_zero, get_cons_succ, pure_eq_ok, ofVector_ok]
  rfl

omit [Field K] [LinearOrder K] [FloorRing K] in
theorem copyArray_cases (a : Option K × Option K × Option K) :
    copyArray a = .error .indeterminate ∨ ∃ x y z, copyArray a = .ok [x, y, z] := by
  rcases a with ⟨_ | x, _ | y, _ | z⟩
  case some.some.some => exact .inr ⟨x, y, z, rfl⟩
  all_goals exact .inl rfl

theorem updateSatellitePosition_cases (sgp4 : Elements → K → Propagation K)
    (m : SGP4Mobility K Elements) (simTime : K) :
    updateSatellitePosition trig sgp4 m simTime = .error .indeterminate ∨
      ∃ m' records, updateSatellitePosition trig sgp4 m simTime = .ok (m', records) ∧
        records.length = 4 := by
  unfold updateSatellitePosition
  rcases copyArray_cases (sgp4 m.satrec.elements (m.diffTleEpochWctMin + simTime / 60)).r_array
    with hr | ⟨x, y, z, hr⟩
  · left
    simp only [hr, error_bind]
  · rcases copyArray_cases (sgp4 m.satrec.elements (m.diffTleEpochWctMin + simTime / 60)).v_array
      with hv | ⟨u, v, w, hv⟩
    · left
      simp only [hr, hv, ok_bind, error_bind]
    · right
      obtain ⟨m', records, hplace, hlength⟩ := placeSatellite_spec trig
        { m with satrec := { m.satrec with t := m.diffTleEpochWctMin + simTime / 60 } } simTime
        x y z u v w
      refine ⟨m', records, ?_, hlength⟩
      simp only [hr, hv, ok_bind, hplace, ofVector_ok]

theorem not_leavesInPlace (sgp4 : Elements → K → Propagation K) (m : SGP4Mobility K Elements)
    (simTime : K) : ¬ LeavesInPlace m (updateSatellitePosition trig sgp4 m simTime) := by
  rintro ⟨m', h, -⟩
  rcases updateSatellitePosition_cases trig sgp4 m simTime with herror | ⟨m1, records, hok, hlength⟩
  · cases h.symm.trans herror
  · cases h.symm.trans hok
    simp at hlength

/-- No call that fails leaves the satellite in place. -/
theorem failed_never_in_place {sgp4 : Elements → K → Propagation K}
    {m : SGP4Mobility K Elements} {simTime : K}
    (_ : (sgp4 m.satrec.elements (m.diffTleEpochWctMin + simTime / 60)).ret = false) :
    ¬ LeavesInPlace m (updateSatellitePosition trig sgp4 m simTime) :=
  not_leavesInPlace trig sgp4 m simTime

theorem failed_never_in_place_unwritten :
    ¬ LeavesInPlace (SGP4Mobility.unprojected : SGP4Mobility ℝ Unit)
      (updateSatellitePosition realTrigonometry
        (fun _ _ => ⟨false, (none, none, none), (none, none, none)⟩)
        (SGP4Mobility.unprojected : SGP4Mobility ℝ Unit) 60) :=
  failed_never_in_place realTrigonometry rfl

/-- A satellite that has decayed, with both arrays written. -/
theorem decayed_satellite_moves :
    ¬ LeavesInPlace (SGP4Mobility.unprojected : SGP4Mobility ℝ Unit)
      (updateSatellitePosition realTrigonometry
        (fun _ _ => ⟨false, (some 6300, some 0, some 100), (some 0, some 7, some 0)⟩)
        (SGP4Mobility.unprojected : SGP4Mobility ℝ Unit) 60) ∧
    ∃ m' records, updateSatellitePosition realTrigonometry
        (fun _ _ => ⟨false, (some 6300, some 0, some 100), (some 0, some 7, some 0)⟩)
        (SGP4Mobility.unprojected : SGP4Mobility ℝ Unit) 60 = .ok (m', records) ∧
      m'.lastPosition ≠ (SGP4Mobility.unprojected : SGP4Mobility ℝ Unit).lastPosition := by
  refine ⟨not_leavesInPlace _ _ _ _, ?_⟩
  obtain ⟨x', y', velocity, hitrf⟩ := exists_ITRF realTrigonometry
    ((SGP4Mobility.unprojected : SGP4Mobility ℝ Unit).wall_clock_sim_start_time_jd +
      SGP4Mobility.trunc (((SGP4Mobility.unprojected :
        SGP4Mobility ℝ Unit).wall_clock_sim_start_time_frac + 60) / 86400))
    ((SGP4Mobility.unprojected : SGP4Mobility ℝ Unit).wall_clock_sim_start_time_frac +
      60 / 86400) 6300 0 100 0 7 0
  unfold updateSatellitePosition placeSatellite
  simp only [copyArray, ok_bind, hitrf, CxxVector.ok_bind, get_cons_zero, get_cons_succ,
    pure_eq_ok, ofVector_ok]
  refine ⟨_, _, rfl, fun hsame => ?_⟩
  have hz := congrArg Coord.z hsame
  change (100 : ℝ) * 1000 + 0 = 0 at hz
  norm_num at hz

end SpaceVeins.FailedPropagation
