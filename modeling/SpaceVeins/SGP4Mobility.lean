import SpaceVeins.TEME2ITRF
import SpaceVeins.SatelliteObservationPoint

/-!
# The mobility of a satellite

The position comes from the SGP4 model, which counts minutes from the epoch of
the orbital elements; the turn to the frame of the Earth needs the date. Both
are derived from the simulation time, which is a number of seconds here.
-/

set_option autoImplicit false

namespace SpaceVeins
open CxxVector TEME2ITRF DefaultFloat

structure DateTime (K : Type) where
  year : Int
  mon : Int
  day : Int
  hour : Int
  min : Int
  sec : K

/-- The record of the SGP4 model: its epoch, the time of the last propagation and the orbital
elements. -/
structure Elsetrec (K Elements : Type) where
  epochyr : Int
  epochdays : K
  t : K
  elements : Elements

/-- The propagation, which yields the position and the velocity. -/
abbrev Sgp4 (K Elements : Type) := Elements → K → (K × K × K) × (K × K × K)

structure SGP4Mobility (K Elements : Type) where
  satrec : Elsetrec K Elements
  tle_epoch_jd : K
  tle_epoch_frac : K
  wall_clock_sim_start_time_jd : K
  wall_clock_sim_start_time_frac : K
  diffTleEpochWctMin : K
  current_wall_clock_time_jd : K
  current_wall_clock_time_frac : K
  itrf2008_to_wgs84_projection : PJ K
  wgs84_to_wgs84cartesian_projection : PJ K
  wgs84cartesian_to_topocentric_projection : PJ K
  sop_omnet_coord : Coord K
  lastPosition : Coord K

namespace SGP4Mobility
variable {K Elements : Type} [Field K] [LinearOrder K] [FloorRing K]

def trunc (x : K) : K := if 0 ≤ x then (⌊x⌋ : K) else (⌈x⌉ : K)

def lmonth (year : Int) : List Int :=
  [31, if Int.tmod year 4 = 0 then 29 else 28, 31, 30, 31, 30, 31, 31, 30, 31, 30, 31]

/-- The loop over the months; the last month takes what is left. -/
def findMonth (dayofyr : Int) : List Int → Int → Int → Int × Int
  | m :: n :: rest, i, inttemp =>
    if inttemp + m < dayofyr then findMonth dayofyr (n :: rest) (i + 1) (inttemp + m)
    else (i, inttemp)
  | _, i, inttemp => (i, inttemp)

def days2mdhms_SGP4 (year : Int) (days : K) : DateTime K :=
  let dayofyr := ⌊days⌋
  let (mon, inttemp) := findMonth dayofyr (lmonth year) 1 0
  let temp := (days - dayofyr) * 24
  let hr := ⌊temp⌋
  let temp := (temp - hr) * 60
  let minute := ⌊temp⌋
  { year := year, mon := mon, day := dayofyr - inttemp, hour := hr, min := minute,
    sec := (temp - minute) * 60 }

def jday_SGP4 (d : DateTime K) : K × K :=
  let jd : K := 367 * d.year - ⌊(7 * (d.year + ⌊((d.mon + 9 : Int) : K) / 12⌋) : K) * (1 / 4)⌋ +
    ⌊((275 * d.mon : Int) : K) / 9⌋ + d.day + 17210135 / 10
  let jdFrac := (d.sec + d.min * 60 + d.hour * 3600) / 86400
  if 1 < |jdFrac| then (jd + ⌊jdFrac⌋, jdFrac - ⌊jdFrac⌋) else (jd, jdFrac)

/-- The dates of the epoch and of the start, and the minutes between them. -/
def setTimes (m : SGP4Mobility K Elements) (tle wall : K × K) : SGP4Mobility K Elements :=
  { m with
    tle_epoch_jd := tle.1
    tle_epoch_frac := tle.2
    wall_clock_sim_start_time_jd := wall.1
    wall_clock_sim_start_time_frac := wall.2
    diffTleEpochWctMin := (wall.1 - tle.1) * 1440 + (wall.2 - tle.2) * 1440 }

/-- `initialize`, stage 0, from the elements of the two lines on. -/
def initial (m : SGP4Mobility K Elements) (wall_clock_start_time : DateTime K) :
    SGP4Mobility K Elements :=
  let year := if 57 ≤ m.satrec.epochyr then 1900 + m.satrec.epochyr else 2000 + m.satrec.epochyr
  let tle_epoch := { days2mdhms_SGP4 m.satrec.epochyr m.satrec.epochdays with year := year }
  setTimes m (jday_SGP4 tle_epoch) (jday_SGP4 wall_clock_start_time)

/-- The text of the frame of the observation point, printed a second time. -/
def ss_proj (sop : SatelliteObservationPoint K) : List Char :=
  topocentricText (text sop.sop_wgs84_proj_cart.x) (text sop.sop_wgs84_proj_cart.y)
    (text sop.sop_wgs84_proj_cart.z)

/-- `initialize`, stage 4. -/
def topocentric (lib : ProjLibrary K) (m : SGP4Mobility K Elements)
    (sop : SatelliteObservationPoint K) : SGP4Mobility K Elements :=
  { m with
    wgs84cartesian_to_topocentric_projection := lib.proj_create (ss_proj sop)
    sop_omnet_coord := sop.sop_omnet_coord }

/-- `updateSatellitePosition` at `simTime` seconds. -/
def updateSatellitePosition (trig : Trigonometry K) (sgp4 : Sgp4 K Elements)
    (m : SGP4Mobility K Elements) (simTime : K) :
    Except VectorError (SGP4Mobility K Elements) := do
  let t := m.diffTleEpochWctMin + simTime / 60
  let rv := sgp4 m.satrec.elements t
  let satrec := { m.satrec with t := t }
  let r_TEME := [rv.1.1, rv.1.2.1, rv.1.2.2]
  let v_TEME := [rv.2.1, rv.2.2.1, rv.2.2.2]
  let daysToAdd := trunc ((m.wall_clock_sim_start_time_frac + simTime) / 86400)
  let current_frac := m.wall_clock_sim_start_time_frac + simTime / 86400
  let current_jd := m.wall_clock_sim_start_time_jd + daysToAdd
  let itrf ← TEME_to_ITRF trig current_jd r_TEME v_TEME 0 0 current_frac
  let geo := m.itrf2008_to_wgs84_projection
    ⟨(← get itrf.1 0) * 1000, (← get itrf.1 1) * 1000, (← get itrf.1 2) * 1000, 0⟩
  let sat_pos_wgs84 : WGS84Coord K := ⟨geo.phi, geo.lam, geo.z⟩
  let geo_cart := m.wgs84_to_wgs84cartesian_projection
    ⟨sat_pos_wgs84.lon * (SatelliteObservationPoint.PI / 180),
      sat_pos_wgs84.lat * (SatelliteObservationPoint.PI / 180), sat_pos_wgs84.alt, 0⟩
  let topo_cart := m.wgs84cartesian_to_topocentric_projection geo_cart
  pure { m with
    satrec := satrec
    current_wall_clock_time_jd := current_jd
    current_wall_clock_time_frac := current_frac
    lastPosition := ⟨topo_cart.e + m.sop_omnet_coord.x, -topo_cart.n + m.sop_omnet_coord.y,
      topo_cart.u + m.sop_omnet_coord.z⟩ }

/-- `move`, time after time. -/
def moves (trig : Trigonometry K) (sgp4 : Sgp4 K Elements) (m : SGP4Mobility K Elements)
    (times : List K) : Except VectorError (SGP4Mobility K Elements) :=
  times.foldlM (updateSatellitePosition trig sgp4) m

/-- The times that `initialize` sets are the same. -/
structure SameTimes (m m' : SGP4Mobility K Elements) : Prop where
  start_jd : m'.wall_clock_sim_start_time_jd = m.wall_clock_sim_start_time_jd
  start_frac : m'.wall_clock_sim_start_time_frac = m.wall_clock_sim_start_time_frac
  diff : m'.diffTleEpochWctMin = m.diffTleEpochWctMin

omit [Field K] [LinearOrder K] [FloorRing K] in
theorem SameTimes.trans {m m' m'' : SGP4Mobility K Elements} (h : SameTimes m m')
    (h' : SameTimes m' m'') : SameTimes m m'' :=
  ⟨h'.start_jd.trans h.start_jd, h'.start_frac.trans h.start_frac, h'.diff.trans h.diff⟩

structure Updated (m : SGP4Mobility K Elements) (simTime : K) (m' : SGP4Mobility K Elements) :
    Prop where
  same : SameTimes m m'
  minutes : m'.satrec.t = m.diffTleEpochWctMin + simTime / 60
  jd : m'.current_wall_clock_time_jd = m.wall_clock_sim_start_time_jd +
    trunc ((m.wall_clock_sim_start_time_frac + simTime) / 86400)
  frac : m'.current_wall_clock_time_frac = m.wall_clock_sim_start_time_frac + simTime / 86400

theorem updateSatellitePosition_spec (trig : Trigonometry K) (sgp4 : Sgp4 K Elements)
    (m : SGP4Mobility K Elements) (simTime : K) :
    ∃ m', updateSatellitePosition trig sgp4 m simTime = .ok m' ∧ Updated m simTime m' := by
  obtain ⟨velocity, h⟩ := TEME_to_ITRF_eq trig (m.wall_clock_sim_start_time_jd +
    trunc ((m.wall_clock_sim_start_time_frac + simTime) / 86400)) 0 0
    (m.wall_clock_sim_start_time_frac + simTime / 86400)
    (sgp4 m.satrec.elements (m.diffTleEpochWctMin + simTime / 60)).1.1
    (sgp4 m.satrec.elements (m.diffTleEpochWctMin + simTime / 60)).1.2.1
    (sgp4 m.satrec.elements (m.diffTleEpochWctMin + simTime / 60)).1.2.2
    (sgp4 m.satrec.elements (m.diffTleEpochWctMin + simTime / 60)).2.1
    (sgp4 m.satrec.elements (m.diffTleEpochWctMin + simTime / 60)).2.2.1
    (sgp4 m.satrec.elements (m.diffTleEpochWctMin + simTime / 60)).2.2.2
  rw [if_pos ⟨rfl, rfl⟩, mxv_rot_z, ok_bind] at h
  unfold updateSatellitePosition
  simp only [h, ok_bind, get_cons_zero, get_cons_succ, pure_eq_ok]
  exact ⟨_, rfl, ⟨⟨rfl, rfl, rfl⟩, rfl, rfl, rfl⟩⟩

theorem moves_spec (trig : Trigonometry K) (sgp4 : Sgp4 K Elements) (times : List K) :
    ∀ m : SGP4Mobility K Elements, ∃ m', moves trig sgp4 m times = .ok m' ∧ SameTimes m m' := by
  induction times with
  | nil => exact fun m => ⟨m, rfl, rfl, rfl, rfl⟩
  | cons time times ih =>
    intro m
    obtain ⟨m1, hupdate, hspec⟩ := updateSatellitePosition_spec trig sgp4 m time
    obtain ⟨m2, hmoves, hsame⟩ := ih m1
    refine ⟨m2, ?_, hspec.same.trans hsame⟩
    rw [moves, List.foldlM_cons, hupdate, ok_bind]
    exact hmoves

theorem moves_append_one (trig : Trigonometry K) (sgp4 : Sgp4 K Elements) (times : List K)
    (simTime : K) (m : SGP4Mobility K Elements) :
    ∃ m1 m', moves trig sgp4 m (times ++ [simTime]) = .ok m' ∧ SameTimes m m1 ∧
      Updated m1 simTime m' := by
  obtain ⟨m1, hmoves, hsame⟩ := moves_spec trig sgp4 times m
  obtain ⟨m', hupdate, hspec⟩ := updateSatellitePosition_spec trig sgp4 m1 simTime
  refine ⟨m1, m', ?_, hsame, hspec⟩
  rw [moves] at hmoves
  rw [moves, List.foldlM_append, hmoves, ok_bind, List.foldlM_cons, hupdate]
  rfl

variable [IsStrictOrderedRing K]

theorem trunc_of_same_day {f s : K} (hf : 0 ≤ f) (hs : 0 ≤ s) (hday : f + s / 86400 < 1) :
    trunc ((f + s) / 86400) = 0 := by
  have hnonneg : 0 ≤ (f + s) / 86400 := by positivity
  have hlt : (f + s) / 86400 < 1 := by
    rw [div_lt_one (by norm_num)]
    rw [← sub_pos] at hday ⊢
    have hmul : 0 < (1 - (f + s / 86400)) * 86400 := by positivity
    have hexpand : (1 - (f + s / 86400)) * 86400 = 86400 - f * 86400 - s := by
      field_simp
      ring
    linarith
  rw [trunc, if_pos hnonneg, Int.floor_eq_zero_iff.mpr ⟨hnonneg, hlt⟩, Int.cast_zero]

/-- The minutes of the propagation and the date of the turn mean the instant of the simulation
time, with a fraction below one, exactly on the day of the start. -/
theorem same_instant_iff (trig : Trigonometry K) (sgp4 : Sgp4 K Elements) (lib : ProjLibrary K)
    (m : SGP4Mobility K Elements) (sop : SatelliteObservationPoint K) (tle wall : K × K)
    (times : List K) (s : K) (hnonneg : 0 ≤ wall.2) (hs : 0 ≤ s) :
    ∃ m', moves trig sgp4 (topocentric lib (setTimes m tle wall) sop) (times ++ [s]) = .ok m' ∧
      ((tle.1 + tle.2 + m'.satrec.t / 1440 =
          m'.current_wall_clock_time_jd + m'.current_wall_clock_time_frac ∧
        m'.current_wall_clock_time_jd + m'.current_wall_clock_time_frac =
          wall.1 + wall.2 + s / 86400 ∧
        0 ≤ m'.current_wall_clock_time_frac ∧ m'.current_wall_clock_time_frac < 1) ↔
        wall.2 + s / 86400 < 1) := by
  obtain ⟨m1, m', hmoves, hsame, hspec⟩ := moves_append_one trig sgp4 times s
    (topocentric lib (setTimes m tle wall) sop)
  have hfrac : m'.current_wall_clock_time_frac = wall.2 + s / 86400 := by
    rw [hspec.frac, hsame.start_frac]
    rfl
  refine ⟨m', hmoves, ?_⟩
  constructor
  · rintro ⟨-, -, -, hbelow⟩
    rwa [hfrac] at hbelow
  · intro hday
    have hjd : m'.current_wall_clock_time_jd = wall.1 := by
      rw [hspec.jd, hsame.start_jd, hsame.start_frac]
      change wall.1 + trunc ((wall.2 + s) / 86400) = wall.1
      rw [trunc_of_same_day hnonneg hs hday, add_zero]
    have hminutes : m'.satrec.t =
        (wall.1 - tle.1) * 1440 + (wall.2 - tle.2) * 1440 + s / 60 := by
      rw [hspec.minutes, hsame.diff]
      rfl
    rw [hfrac, hjd, hminutes]
    refine ⟨?_, ?_, by positivity, hday⟩
    · field_simp
      ring
    · ring

/-- A satellite and an observation point whose coordinates are not projected at all. -/
def unprojected : SGP4Mobility K Unit where
  satrec := ⟨0, 0, 0, ()⟩
  tle_epoch_jd := 0
  tle_epoch_frac := 0
  wall_clock_sim_start_time_jd := 0
  wall_clock_sim_start_time_frac := 0
  diffTleEpochWctMin := 0
  current_wall_clock_time_jd := 0
  current_wall_clock_time_frac := 0
  itrf2008_to_wgs84_projection := id
  wgs84_to_wgs84cartesian_projection := id
  wgs84cartesian_to_topocentric_projection := id
  sop_omnet_coord := ⟨0, 0, 0⟩
  lastPosition := ⟨0, 0, 0⟩

def unprojectedSop : SatelliteObservationPoint K where
  sop_omnet_coord := ⟨0, 0, 0⟩
  sop_traci_coord := ⟨0, 0⟩
  sop_utm_coord := ⟨0, 0⟩
  sop_wgs84 := ⟨0, 0, 0⟩
  sop_wgs84_proj_cart := ⟨0, 0, 0, 0⟩
  netOffset := ⟨0, 0⟩
  sumo_to_wgs84_projection := id
  wgs84_to_wgs84cartesian_projection := id
  relativeToSOP_projection := id
  coordinateTransformation := ⟨⟨0, 0⟩, ⟨0, 0⟩, 0⟩

/-- Six hours after a start at midnight, with a position twelve hours before the start. -/
theorem same_instant_six_hours :
    ∃ m', moves realTrigonometry (fun _ _ => ((7000, 0, 0), (0, 7, 0)))
      (topocentric (SatelliteObservationPoint.libraryAt ⟨4158000, 763000, 4757000, 0⟩)
        (setTimes (unprojected : SGP4Mobility ℝ Unit) (2460000, 0) (2460000, 1 / 2))
        unprojectedSop) ([0, 3600] ++ [21600]) = .ok m' ∧
      2460000 + 0 + m'.satrec.t / 1440 =
        m'.current_wall_clock_time_jd + m'.current_wall_clock_time_frac := by
  obtain ⟨m', hmoves, hiff⟩ := same_instant_iff realTrigonometry
    (fun _ _ => ((7000, 0, 0), (0, 7, 0)))
    (SatelliteObservationPoint.libraryAt ⟨4158000, 763000, 4757000, 0⟩)
    (unprojected : SGP4Mobility ℝ Unit) unprojectedSop (2460000, 0) (2460000, 1 / 2) [0, 3600]
    21600 (by norm_num) (by norm_num)
  exact ⟨m', hmoves, (hiff.mpr (by norm_num)).1⟩

/-- One day after the start the turn of the Earth is computed for the day after. -/
theorem one_day_counted_twice :
    ∃ m', moves realTrigonometry (fun _ _ => ((7000, 0, 0), (0, 7, 0)))
      (topocentric (SatelliteObservationPoint.libraryAt ⟨4158000, 763000, 4757000, 0⟩)
        (setTimes (unprojected : SGP4Mobility ℝ Unit) (2460000, 0) (2460000, 1 / 2))
        unprojectedSop) ([] ++ [86400]) = .ok m' ∧
      2460000 + 0 + m'.satrec.t / 1440 = 2460000 + 1 / 2 + 86400 / 86400 ∧
      m'.current_wall_clock_time_jd + m'.current_wall_clock_time_frac =
        2460000 + 1 / 2 + 86400 / 86400 + 1 := by
  obtain ⟨m1, m', hmoves, hsame, hspec⟩ := moves_append_one realTrigonometry
    (fun _ _ => ((7000, 0, 0), (0, 7, 0))) [] 86400
    (topocentric (SatelliteObservationPoint.libraryAt ⟨4158000, 763000, 4757000, 0⟩)
      (setTimes (unprojected : SGP4Mobility ℝ Unit) (2460000, 0) (2460000, 1 / 2)) unprojectedSop)
  refine ⟨m', hmoves, ?_, ?_⟩
  · rw [hspec.minutes, hsame.diff]
    change (2460000 : ℝ) + 0 +
      (((2460000 - 2460000) * 1440 + (1 / 2 - 0) * 1440) + 86400 / 60) / 1440 = _
    norm_num
  · have htrunc : trunc (((1 : ℝ) / 2 + 86400) / 86400) = 1 := by
      have hfloor : ⌊((1 : ℝ) / 2 + 86400) / 86400⌋ = 1 := by
        rw [Int.floor_eq_iff]
        norm_num
      rw [trunc, if_pos (by norm_num), hfloor, Int.cast_one]
    rw [hspec.jd, hspec.frac, hsame.start_jd, hsame.start_frac]
    change (2460000 : ℝ) + trunc (((1 : ℝ) / 2 + 86400) / 86400) + (1 / 2 + 86400 / 86400) = _
    rw [htrunc]
    norm_num

omit [IsStrictOrderedRing K] in
theorem ss_proj_eq (sop : SatelliteObservationPoint K) :
    ss_proj sop = SatelliteObservationPoint.ss_proj sop.sop_wgs84_proj_cart := rfl

/-- Both modules hand the library exactly the origin they mean, and the observation point is a
fixed point of its frame, exactly if its coordinates have at most six significant digits. -/
theorem sop_fixed_point_iff {lib : ProjLibrary K} {net : SumoNet K} {position : Coord K}
    {sop : SatelliteObservationPoint K} (hzero : TopocentricZero lib.proj_create)
    (h : SatelliteObservationPoint.initial lib net position = .ok sop) :
    (projOrigin K (SatelliteObservationPoint.ss_proj sop.sop_wgs84_proj_cart) =
        (sop.sop_wgs84_proj_cart.x, sop.sop_wgs84_proj_cart.y, sop.sop_wgs84_proj_cart.z) ∧
      projOrigin K (ss_proj sop) =
        (sop.sop_wgs84_proj_cart.x, sop.sop_wgs84_proj_cart.y, sop.sop_wgs84_proj_cart.z) ∧
      sop.omnetRelativeSOPCoord sop.sop_omnet_coord = sop.sop_omnet_coord) ↔
      SixDigits sop.sop_wgs84_proj_cart.x ∧ SixDigits sop.sop_wgs84_proj_cart.y ∧
        SixDigits sop.sop_wgs84_proj_cart.z := by
  rw [SatelliteObservationPoint.omnetRelativeSOPCoord_eq_iff hzero h, ss_proj_eq, and_self,
    and_self]
  exact SatelliteObservationPoint.projOrigin_ss_proj_iff _

theorem sop_fixed_point_whole_kilometres :
    ∃ sop, SatelliteObservationPoint.initial
        (SatelliteObservationPoint.libraryAt ⟨4158000, 763000, 4757000, 0⟩)
        ⟨"EPSG:32632", (⟨0, 0⟩, ⟨1000, 1000⟩), ⟨0, 0⟩, 25⟩ (⟨500, 500, 0⟩ : Coord ℝ) = .ok sop ∧
      sop.omnetRelativeSOPCoord sop.sop_omnet_coord = sop.sop_omnet_coord := by
  obtain ⟨sop, h, hplace⟩ := SatelliteObservationPoint.libraryAt_initial
    (⟨4158000, 763000, 4757000, 0⟩ : PJ_COORD ℝ)
    ⟨"EPSG:32632", (⟨0, 0⟩, ⟨1000, 1000⟩), ⟨0, 0⟩, 25⟩ ⟨500, 500, 0⟩
  have hiff := sop_fixed_point_iff (SatelliteObservationPoint.libraryAt_zero _) h
  rw [hplace] at hiff
  refine ⟨sop, h, (hiff.mpr ⟨⟨4158, 3, by decide, by norm_num⟩, ⟨763, 3, by decide, by norm_num⟩,
    ⟨4757, 3, by decide, by norm_num⟩⟩).2.2⟩

/-- A point with a coordinate of 4158123.25 m is not where it is. -/
theorem sop_off_by_metres :
    ∃ sop, SatelliteObservationPoint.initial
        (SatelliteObservationPoint.libraryAt ⟨16632493 / 4, 763000, 4757000, 0⟩)
        ⟨"EPSG:32632", (⟨0, 0⟩, ⟨1000, 1000⟩), ⟨0, 0⟩, 25⟩ (⟨500, 500, 0⟩ : Coord ℝ) = .ok sop ∧
      sop.omnetRelativeSOPCoord sop.sop_omnet_coord ≠ sop.sop_omnet_coord := by
  obtain ⟨sop, h, hplace⟩ := SatelliteObservationPoint.libraryAt_initial
    (⟨16632493 / 4, 763000, 4757000, 0⟩ : PJ_COORD ℝ)
    ⟨"EPSG:32632", (⟨0, 0⟩, ⟨1000, 1000⟩), ⟨0, 0⟩, 25⟩ ⟨500, 500, 0⟩
  refine ⟨sop, h, ?_⟩
  intro hfixed
  rw [SatelliteObservationPoint.omnetRelativeSOPCoord_eq_iff
    (SatelliteObservationPoint.libraryAt_zero _) h,
    SatelliteObservationPoint.projOrigin_ss_proj_iff, hplace] at hfixed
  obtain ⟨n, hn⟩ := exists_ten_mul_of_sixDigits hfixed.1 (by norm_num)
  have hquarter : ((16632493 : Int) : ℝ) = ((40 * n : Int) : ℝ) := by
    push_cast
    linarith
  have := Int.cast_injective hquarter
  omega

end SGP4Mobility
end SpaceVeins
