import SpaceVeins.SGP4Calls
import SpaceVeins.Shared.Runs

/-!
# A satellite on its way

The mobility module of a satellite moves at its own self messages; between them it
answers every question for the position with the one it has. Each move calls the
propagator with the record that the move before it has left.
-/

set_option autoImplicit false

namespace SpaceVeins
open FailedPropagation CxxVector TEME2ITRF Runs

inductive MoveError where
  /-- The loop of the propagator does not end. -/
  | endless
  | update (e : UpdateError)
  | sim (e : SimError)
deriving DecidableEq

/-- The module, with what it inherits from `MovingMobilityBase`. -/
structure MovingSatellite (K : Type) where
  mobility : SGP4Mobility K (SGP4Funcs.Elsetrec K)
  updateInterval : Int
  stationary : Bool
  lastUpdate : Int
  nextChange : Int
  /-- When the timer expires, if it is scheduled. -/
  moveTimer : Option Int
  /-- What the statistics have been told, oldest first. -/
  vehicleStatistics : List (Record K)

namespace MovingSatellite
variable {K : Type} [Field K] [LinearOrder K] [IsStrictOrderedRing K] [FloorRing K]

/-- `simTime().dbl()`. -/
def seconds (now : Int) : K := (SimTime.dbl now : K)

def scheduleUpdate (now : Int) (s : MovingSatellite K) : Except MoveError (MovingSatellite K) := do
  let s := { s with moveTimer := none }
  let nextUpdate := now + s.updateInterval
  let moveTimer ←
    if !s.stationary && s.updateInterval ≠ 0 then
      if s.nextChange ≠ SimTime.ofS (-1) ∧ s.nextChange < nextUpdate then
        (scheduleAt now s.nextChange s.moveTimer).mapError .sim
      else (scheduleAt now nextUpdate s.moveTimer).mapError .sim
    else if s.nextChange ≠ SimTime.ofS (-1) then
      (scheduleAt now s.nextChange s.moveTimer).mapError .sim
    else pure s.moveTimer
  pure { s with moveTimer := moveTimer }

/-- The module after `initializePosition` at the start; `setInitialPosition` does nothing. -/
def initial (mobility : SGP4Mobility K (SGP4Funcs.Elsetrec K)) (updateInterval : Int)
    (stationary : Bool) : Except MoveError (MovingSatellite K) :=
  scheduleUpdate 0 ⟨mobility, updateInterval, stationary, 0, SimTime.ofS (-1), none, []⟩

variable (lib : SGP4Funcs.MathLibrary K)

/-- `updateSatellitePosition` with the record that the propagator changes. -/
def updateSatellitePosition (m : SGP4Mobility K (SGP4Funcs.Elsetrec K)) (simTime : K) :
    Except MoveError (SGP4Mobility K (SGP4Funcs.Elsetrec K) × List (Record K)) :=
  match SGP4Funcs.sgp4 lib m.satrec.elements (m.diffTleEpochWctMin + simTime / 60) with
  | none => .error .endless
  | some (elements, p) =>
    (FailedPropagation.updateSatellitePosition lib.toTrigonometry (fun _ _ => p)
      { m with satrec := { m.satrec with elements := elements } } simTime).mapError .update

def move (now : Int) (s : MovingSatellite K) : Except MoveError (MovingSatellite K) := do
  let (mobility, records) ← updateSatellitePosition lib s.mobility (seconds now)
  pure { s with
    mobility := mobility
    vehicleStatistics := s.vehicleStatistics ++ records
    lastUpdate := now
    nextChange := now + s.updateInterval }

def moveAndUpdate (now : Int) (s : MovingSatellite K) : Except MoveError (MovingSatellite K) := do
  if s.nextChange = now ∨ s.lastUpdate ≠ now then
    let s ← move lib now s
    pure { s with lastUpdate := now }
  else pure s

def handleSelfMessage (now : Int) (s : MovingSatellite K) :
    Except MoveError (MovingSatellite K) := do
  scheduleUpdate now (← moveAndUpdate lib now { s with moveTimer := none })

/-- The timer expires. -/
def Step (s : MovingSatellite K) (now : Int) (s' : MovingSatellite K) : Prop :=
  s.moveTimer = some now ∧ handleSelfMessage lib now s = .ok s'

/-- The propagator as a function of the record after `initialize` and the time. -/
def propagation (elements : SGP4Funcs.Elsetrec K) (t : K) : Propagation K :=
  ((SGP4Funcs.sgp4 lib elements t).map Prod.snd).getD SGP4Funcs.failed

/-- A mobility that moves have made of `m₀`. -/
structure MovedFrom (m₀ m : SGP4Mobility K (SGP4Funcs.Elsetrec K)) : Prop where
  start_jd : m.wall_clock_sim_start_time_jd = m₀.wall_clock_sim_start_time_jd
  start_frac : m.wall_clock_sim_start_time_frac = m₀.wall_clock_sim_start_time_frac
  diff : m.diffTleEpochWctMin = m₀.diffTleEpochWctMin
  wgs84 : m.itrf2008_to_wgs84_projection = m₀.itrf2008_to_wgs84_projection
  cartesian : m.wgs84_to_wgs84cartesian_projection = m₀.wgs84_to_wgs84cartesian_projection
  topocentric :
    m.wgs84cartesian_to_topocentric_projection = m₀.wgs84cartesian_to_topocentric_projection
  sop : m.sop_omnet_coord = m₀.sop_omnet_coord
  elements : SGP4Funcs.Continues lib m₀.satrec.elements m.satrec.elements

theorem movedFrom_self {m₀ : SGP4Mobility K (SGP4Funcs.Elsetrec K)}
    (h : m₀.satrec.elements.integrator.atime = 0) : MovedFrom lib m₀ m₀ :=
  ⟨rfl, rfl, rfl, rfl, rfl, rfl, rfl, SGP4Funcs.continues_self lib h⟩

/-- What others learn from a move. -/
def told {Elements : Type} (r : SGP4Mobility K Elements × List (Record K)) :
    Coord K × List (Record K) := (r.1.lastPosition, r.2)

/-- Where a satellite is placed depends on the fields that moves do not change. -/
theorem placeSatellite_moved {m₀ m : SGP4Mobility K (SGP4Funcs.Elsetrec K)}
    (h : MovedFrom lib m₀ m) (trig : Trigonometry K) (simTime x y z u v w : K) :
    ∃ r r₀, placeSatellite trig m simTime [x, y, z] [u, v, w] = .ok r ∧
      placeSatellite trig m₀ simTime [x, y, z] [u, v, w] = .ok r₀ ∧ told r = told r₀ ∧
      MovedFrom lib m₀ r.1 := by
  obtain ⟨x', y', velocity, hitrf⟩ := exists_ITRF trig (m₀.wall_clock_sim_start_time_jd +
    SGP4Mobility.trunc ((m₀.wall_clock_sim_start_time_frac + simTime) / 86400))
    (m₀.wall_clock_sim_start_time_frac + simTime / 86400) x y z u v w
  unfold placeSatellite
  simp only [h.start_jd, h.start_frac, h.wgs84, h.cartesian, h.topocentric, h.sop, hitrf,
    CxxVector.ok_bind, get_cons_zero, get_cons_succ, pure_eq_ok]
  exact ⟨_, _, rfl, rfl, rfl, ⟨rfl, rfl, h.diff, rfl, rfl, rfl, rfl, h.elements⟩⟩

/-- A call with the record that moves have left writes what a call with the first record writes. -/
theorem sgp4_moved {m₀ m : SGP4Mobility K (SGP4Funcs.Elsetrec K)}
    (hfresh : m₀.satrec.elements.integrator.atime = 0) (h : MovedFrom lib m₀ m) (t : K) :
    ∃ elements, SGP4Funcs.sgp4 lib m.satrec.elements t =
        some (elements, propagation lib m₀.satrec.elements t) ∧
      SGP4Funcs.Continues lib m₀.satrec.elements elements := by
  obtain ⟨r₀, r, hr₀, hr, hsame, -⟩ := SGP4Funcs.sgp4_same_outcome lib
    (SGP4Funcs.continues_self lib hfresh) h.elements t
  obtain ⟨_, hr', hcont, -⟩ := SGP4Funcs.continues_sgp4 lib h.elements t
  obtain rfl := Option.some.inj (hr.symm.trans hr')
  refine ⟨r.1, ?_, hcont⟩
  have hp : propagation lib m₀.satrec.elements t = r.2 := by
    rw [propagation, hr₀]
    exact hsame.symm
  rw [hr, hp]

/-- An update with the record that moves have left, against one with the first record. -/
theorem update_cases {m₀ m : SGP4Mobility K (SGP4Funcs.Elsetrec K)}
    (hfresh : m₀.satrec.elements.integrator.atime = 0) (h : MovedFrom lib m₀ m) (simTime : K) :
    (updateSatellitePosition lib m simTime = .error (.update .indeterminate) ∧
      FailedPropagation.updateSatellitePosition lib.toTrigonometry (propagation lib) m₀ simTime =
        .error .indeterminate) ∨
    ∃ r r₀, updateSatellitePosition lib m simTime = .ok r ∧
      FailedPropagation.updateSatellitePosition lib.toTrigonometry (propagation lib) m₀ simTime =
        .ok r₀ ∧ told r = told r₀ ∧ MovedFrom lib m₀ r.1 := by
  obtain ⟨elements, hsgp4, hcont⟩ :=
    sgp4_moved lib hfresh h (m₀.diffTleEpochWctMin + simTime / 60)
  simp only [updateSatellitePosition, h.diff, hsgp4, FailedPropagation.updateSatellitePosition]
  generalize propagation lib m₀.satrec.elements (m₀.diffTleEpochWctMin + simTime / 60) = p
  rcases copyArray_cases p.r_array with hr | ⟨x, y, z, hr⟩
  · left
    simp only [hr, FailedPropagation.error_bind, and_true]
    rfl
  rcases copyArray_cases p.v_array with hv | ⟨u, v, w, hv⟩
  · left
    simp only [hr, hv, FailedPropagation.ok_bind, FailedPropagation.error_bind, and_true]
    rfl
  right
  have hmoved : MovedFrom lib
      { m₀ with satrec := { m₀.satrec with t := m₀.diffTleEpochWctMin + simTime / 60 } }
      { m with
        diffTleEpochWctMin := m₀.diffTleEpochWctMin
        satrec := { m.satrec with
          elements := elements, t := m₀.diffTleEpochWctMin + simTime / 60 } } :=
    ⟨h.start_jd, h.start_frac, rfl, h.wgs84, h.cartesian, h.topocentric, h.sop, hcont⟩
  obtain ⟨q, q₀, hq, hq₀, htold, hq'⟩ := placeSatellite_moved lib hmoved lib.toTrigonometry simTime
    x y z u v w
  refine ⟨q, q₀, ?_, ?_, htold, ⟨hq'.start_jd, hq'.start_frac, hq'.diff, hq'.wgs84, hq'.cartesian,
    hq'.topocentric, hq'.sop, hq'.elements⟩⟩
  · simp only [hr, hv, FailedPropagation.ok_bind, hq, ofVector_ok]
    rfl
  · simp only [hr, hv, FailedPropagation.ok_bind, hq₀, ofVector_ok]

/-- The module after `n` moves, the last one `n` intervals after the start. -/
structure OnSchedule (m₀ : SGP4Mobility K (SGP4Funcs.Elsetrec K)) (interval : Int) (n : Nat)
    (s : MovingSatellite K) : Prop where
  moved : MovedFrom lib m₀ s.mobility
  updateInterval : s.updateInterval = interval
  stationary : s.stationary = false
  lastUpdate : s.lastUpdate = n * interval
  moveTimer : s.moveTimer = some ((n + 1) * interval)

omit [Field K] [LinearOrder K] [IsStrictOrderedRing K] [FloorRing K] in
/-- The next update is scheduled; it never comes after the next change. -/
theorem scheduleUpdate_eq {now : Int} {s : MovingSatellite K} (hinterval : 0 < s.updateInterval)
    (hstationary : s.stationary = false)
    (hnext : s.nextChange = SimTime.ofS (-1) ∨ s.nextChange = now + s.updateInterval) :
    scheduleUpdate now s = .ok { s with moveTimer := some (now + s.updateInterval) } := by
  have hactive : (!s.stationary && s.updateInterval ≠ 0) = true := by
    simp [hstationary, hinterval.ne']
  have hchange : ¬ (s.nextChange ≠ SimTime.ofS (-1) ∧ s.nextChange < now + s.updateInterval) := by
    rintro ⟨hne, hlt⟩
    rcases hnext with h | h
    · exact hne h
    · omega
  have hpast : ¬ now + s.updateInterval < now := by omega
  simp only [scheduleUpdate, hactive, if_true, if_neg hchange, scheduleAt, if_neg hpast,
    Option.isSome_none, Bool.false_eq_true, if_false]
  rfl

/-- The module after a move at `now`, with what the move has found. -/
def afterMove (now : Int) (r : SGP4Mobility K (SGP4Funcs.Elsetrec K) × List (Record K))
    (s : MovingSatellite K) : MovingSatellite K :=
  { s with
    mobility := r.1
    vehicleStatistics := s.vehicleStatistics ++ r.2
    lastUpdate := now
    nextChange := now + s.updateInterval
    moveTimer := some (now + s.updateInterval) }

omit [IsStrictOrderedRing K] in
theorem handleSelfMessage_eq {now : Int} {s : MovingSatellite K}
    (hinterval : 0 < s.updateInterval) (hstationary : s.stationary = false)
    (hlast : s.lastUpdate ≠ now) : handleSelfMessage lib now s =
      (updateSatellitePosition lib s.mobility (seconds now)).map fun r => afterMove now r s := by
  have hmoves : s.nextChange = now ∨ s.lastUpdate ≠ now := Or.inr hlast
  simp only [handleSelfMessage, moveAndUpdate, if_pos hmoves, move]
  cases updateSatellitePosition lib s.mobility (seconds now) with
  | error e => rfl
  | ok r => exact scheduleUpdate_eq (by exact hinterval) (by exact hstationary) (Or.inr (by rfl))

theorem onSchedule_initial {m₀ : SGP4Mobility K (SGP4Funcs.Elsetrec K)} {interval : Int}
    {s : MovingSatellite K} (hfresh : m₀.satrec.elements.integrator.atime = 0)
    (hinterval : 0 < interval) (h : initial m₀ interval false = .ok s) :
    OnSchedule lib m₀ interval 0 s := by
  rw [initial, scheduleUpdate_eq hinterval rfl (Or.inl rfl)] at h
  obtain rfl := Except.ok.inj h
  exact ⟨movedFrom_self lib hfresh, rfl, rfl, by simp, by simp⟩

/-- What the move at `now` tells the others is what the propagation of the elements after
`initialize` puts there at that time. -/
def TellsTrajectory (m₀ : SGP4Mobility K (SGP4Funcs.Elsetrec K)) (s : MovingSatellite K)
    (now : Int) (s' : MovingSatellite K) : Prop :=
  ∃ records, (FailedPropagation.updateSatellitePosition lib.toTrigonometry (propagation lib) m₀
      (seconds now)).map told = .ok (s'.mobility.lastPosition, records) ∧
    s'.vehicleStatistics = s.vehicleStatistics ++ records

theorem OnSchedule.last_ne {m₀ : SGP4Mobility K (SGP4Funcs.Elsetrec K)} {interval : Int} {n : Nat}
    {s : MovingSatellite K} (h : OnSchedule lib m₀ interval n s) (hinterval : 0 < interval) :
    s.lastUpdate ≠ (n + 1) * interval := by
  rw [h.lastUpdate, add_mul, one_mul]
  omega

theorem onSchedule_step {m₀ : SGP4Mobility K (SGP4Funcs.Elsetrec K)} {interval now : Int}
    {n : Nat} {s s' : MovingSatellite K} (hfresh : m₀.satrec.elements.integrator.atime = 0)
    (hinterval : 0 < interval) (h : OnSchedule lib m₀ interval n s) (hstep : Step lib s now s') :
    now = (n + 1) * interval ∧ OnSchedule lib m₀ interval (n + 1) s' ∧
      TellsTrajectory lib m₀ s now s' := by
  obtain ⟨htimer, hhandle⟩ := hstep
  obtain rfl : (n + 1) * interval = now := Option.some.inj (h.moveTimer.symm.trans htimer)
  rw [handleSelfMessage_eq lib (h.updateInterval ▸ hinterval) h.stationary
    (h.last_ne lib hinterval)]
    at hhandle
  rcases update_cases lib hfresh h.moved (seconds ((n + 1) * interval)) with
    ⟨herror, -⟩ | ⟨r, r₀, hr, hr₀, htold, hmoved⟩
  · rw [herror] at hhandle
    cases hhandle
  rw [hr] at hhandle
  obtain rfl := Except.ok.inj hhandle
  refine ⟨rfl, ⟨hmoved, h.updateInterval, h.stationary, by push_cast; rfl, ?_⟩, r.2, ?_, rfl⟩
  · simp only [afterMove, h.updateInterval]
    push_cast
    congr 1
    ring
  · rw [hr₀]
    exact congrArg Except.ok htold.symm

/-- **In every run the satellite moves once in every interval**, and each move puts it where the
propagation of its elements puts it at that time. -/
theorem positions_of_run {m₀ : SGP4Mobility K (SGP4Funcs.Elsetrec K)} {interval : Int}
    {s₀ s : MovingSatellite K} {path : List (MovingSatellite K × Int × MovingSatellite K)}
    (hfresh : m₀.satrec.elements.integrator.atime = 0) (hinterval : 0 < interval)
    (hinitial : initial m₀ interval false = .ok s₀) (hrun : Run (Step lib) s₀ path s) :
    (∀ i (hi : i < path.length), path[i].2.1 = (i + 1) * interval) ∧
      (∀ a now b, (a, now, b) ∈ path → TellsTrajectory lib m₀ a now b) ∧
      s.moveTimer = some ((path.length + 1) * interval) := by
  have hgoal : (∀ i (hi : i < path.length), path[i].2.1 = (i + 1) * interval) ∧
      (∀ a now b, (a, now, b) ∈ path → TellsTrajectory lib m₀ a now b) ∧
      OnSchedule lib m₀ interval path.length s := by
    induction hrun with
    | refl =>
      refine ⟨?_, ?_, onSchedule_initial lib hfresh hinterval hinitial⟩
      · intro i hi
        simp at hi
      · intro a now b hm
        cases hm
    | @snoc path t u e hrun hstep ih =>
      obtain ⟨htimes, htells, hsched⟩ := ih
      obtain ⟨hnow, hnext, htell⟩ := onSchedule_step lib hfresh hinterval hsched hstep
      refine ⟨?_, ?_, ?_⟩
      · intro i hi
        rw [List.getElem_append]
        split_ifs with hlt
        · exact htimes i hlt
        · have : i = path.length := by simp at hi; omega
          subst this
          simpa using hnow
      · intro a now b hm
        rcases List.mem_append.mp hm with hm | hm
        · exact htells a now b hm
        · obtain ⟨rfl, rfl, rfl⟩ : a = t ∧ now = e ∧ b = u := by simpa using hm
          exact htell
      · simpa using hnext
  exact ⟨hgoal.1, hgoal.2.1, hgoal.2.2.moveTimer⟩

/-- The next move is made exactly if the propagation of the first record can be placed. -/
theorem exists_step {m₀ : SGP4Mobility K (SGP4Funcs.Elsetrec K)} {interval : Int} {n : Nat}
    {s : MovingSatellite K} (hfresh : m₀.satrec.elements.integrator.atime = 0)
    (hinterval : 0 < interval) (h : OnSchedule lib m₀ interval n s)
    {r₀ : SGP4Mobility K (SGP4Funcs.Elsetrec K) × List (Record K)}
    (hplaced : FailedPropagation.updateSatellitePosition lib.toTrigonometry (propagation lib) m₀
      (seconds ((n + 1) * interval)) = .ok r₀) :
    ∃ s', Step lib s ((n + 1) * interval) s' := by
  rcases update_cases lib hfresh h.moved (seconds ((n + 1) * interval)) with
    ⟨-, herror⟩ | ⟨r, _, hr, -, -, -⟩
  · cases herror.symm.trans hplaced
  refine ⟨afterMove ((n + 1) * interval) r s, h.moveTimer, ?_⟩
  rw [handleSelfMessage_eq lib (h.updateInterval ▸ hinterval) h.stationary
    (h.last_ne lib hinterval), hr]
  rfl

/-- As many moves as there are intervals, if every propagation of the first record can be
placed. -/
theorem exists_moves {m₀ : SGP4Mobility K (SGP4Funcs.Elsetrec K)} {interval : Int}
    {s₀ : MovingSatellite K} (hfresh : m₀.satrec.elements.integrator.atime = 0)
    (hinterval : 0 < interval) (hinitial : initial m₀ interval false = .ok s₀)
    (hplaced : ∀ simTime, ∃ r₀, FailedPropagation.updateSatellitePosition lib.toTrigonometry
      (propagation lib) m₀ simTime = .ok r₀) (n : Nat) :
    ∃ path s, Run (Step lib) s₀ path s ∧ path.length = n ∧ OnSchedule lib m₀ interval n s := by
  induction n with
  | zero => exact ⟨[], s₀, .refl, rfl, onSchedule_initial lib hfresh hinterval hinitial⟩
  | succ n ih =>
    obtain ⟨path, s, hrun, hlength, hsched⟩ := ih
    obtain ⟨_, hr₀⟩ := hplaced (seconds ((n + 1) * interval))
    obtain ⟨s', hstep⟩ := exists_step lib hfresh hinterval hsched hr₀
    refine ⟨_, s', hrun.snoc hstep, by simp [hlength], ?_⟩
    exact (onSchedule_step lib hfresh hinterval hsched hstep).2.1

/-- The satellite with the synchronous resonance, with coordinates that are not projected. -/
noncomputable def synchronousMobility : SGP4Mobility ℝ (SGP4Funcs.Elsetrec ℝ) :=
  { (SGP4Mobility.unprojected : SGP4Mobility ℝ Unit) with
    satrec := ⟨0, 0, 0, SGP4Funcs.synchronous⟩ }

/-- Without the third zonal harmonic a satellite in deep space is always placed. -/
theorem place_written {s : SGP4Funcs.Elsetrec K} (hmethod : s.method = 'd')
    (hj3oj2 : s.near.j3oj2 = 0) (ham : 0 ≤ s.averaged.am) {p : SGP4Funcs.Perturbed K}
    (hep : p.ep * p.ep ≤ 1) :
    ∃ ret r v, (SGP4Funcs.place lib s p).2 = SGP4Funcs.written ret r v := by
  have hpl : ¬ s.averaged.am * (1.0 - (p.ep * lib.cos p.argpp * (p.ep * lib.cos p.argpp) +
      p.ep * lib.sin p.argpp * (p.ep * lib.sin p.argpp))) < 0 := by
    have hsq := lib.squares p.argpp
    have heq : p.ep * lib.cos p.argpp * (p.ep * lib.cos p.argpp) +
        p.ep * lib.sin p.argpp * (p.ep * lib.sin p.argpp) = p.ep * p.ep := by
      linear_combination p.ep * p.ep * hsq
    rw [heq]
    refine not_lt.mpr (mul_nonneg ham ?_)
    norm_num
    exact hep
  simp only [SGP4Funcs.place, hmethod, beq_self_eq_true, if_true, SGP4Funcs.longPeriodTerms,
    hj3oj2, mul_zero, zero_mul, add_zero, if_neg hpl, SGP4Funcs.finish]
  split_ifs
  · exact ⟨_, _, _, rfl⟩
  · exact ⟨_, _, _, rfl⟩

/-- Without resonance terms the mean motion stays as it is. -/
theorem synchronous_xni (t : ℝ) :
    ((SGP4Funcs.resonance SGP4Funcs.realMath SGP4Funcs.synchronous).stateAt t).xni = 1 := by
  refine Function.Iterate.rec (fun s : SGP4Funcs.Integrator ℝ => s.xni = 1) rfl ?_ _
  intro s hs
  have hirez : SGP4Funcs.synchronous.deep.irez ≠ 2 := by decide
  simp only [SGP4Funcs.resonance, SGP4Funcs.integratorStep, SGP4Funcs.dotTerms, if_pos hirez,
    SGP4Funcs.nearSynchronous]
  simp [SGP4Funcs.synchronous, SGP4Funcs.circular, hs]

theorem synchronous_meanAt (t : ℝ) :
    (SGP4Funcs.meanAt SGP4Funcs.realMath SGP4Funcs.synchronous t).nm = 1 ∧
      (SGP4Funcs.meanAt SGP4Funcs.realMath SGP4Funcs.synchronous t).em = 0 ∧
      (SGP4Funcs.meanAt SGP4Funcs.realMath SGP4Funcs.synchronous t).inclm = 0 := by
  have hirez : SGP4Funcs.synchronous.deep.irez ≠ 2 := by decide
  have hirez' : SGP4Funcs.synchronous.deep.irez ≠ 0 := by decide
  have hmethod : SGP4Funcs.synchronous.method = 'd' := rfl
  simp only [SGP4Funcs.meanAt, hmethod, hirez', if_true, ne_eq, not_false_eq_true,
    SGP4Funcs.resonant, SGP4Funcs.dotTerms, if_pos hirez, SGP4Funcs.nearSynchronous,
    synchronous_xni, SGP4Funcs.deepSecular, SGP4Funcs.secularMean]
  simp [SGP4Funcs.synchronous, SGP4Funcs.circular]

theorem perturb_unperturbed {s : SGP4Funcs.Elsetrec ℝ} (hmethod : s.method = 'd')
    (hperiodics : s.periodics = SGP4Funcs.circular.periodics) (him : s.averaged.im = 0)
    (hem : 0 ≤ s.averaged.em) (hem' : s.averaged.em ≤ 1) :
    ∃ p, SGP4Funcs.perturb SGP4Funcs.realMath s = some p ∧ p.ep = s.averaged.em := by
  have hlyddane : ¬ (0.2 : ℝ) ≤ 0 := by norm_num
  have hbounds : ¬ (s.averaged.em < 0 ∨ 1.0 < s.averaged.em) :=
    not_or.mpr ⟨not_lt.mpr hem, by norm_num; exact hem'⟩
  simp only [SGP4Funcs.perturb, hmethod, beq_self_eq_true, if_true, SGP4Funcs.dpper, hperiodics,
    SGP4Funcs.circular, him, zero_mul, add_zero, sub_zero, if_neg hlyddane, lt_irrefl, if_false,
    if_neg hbounds]
  exact ⟨_, rfl, rfl⟩

theorem synchronous_written (t : ℝ) : ∃ ret r v,
    propagation SGP4Funcs.realMath SGP4Funcs.synchronous t = SGP4Funcs.written ret r v := by
  obtain ⟨hnm, hem, hinclm⟩ := synchronous_meanAt t
  have htempe : (SGP4Funcs.secular SGP4Funcs.realMath SGP4Funcs.synchronous.near t).tempe = 0 := by
    simp [SGP4Funcs.secular, SGP4Funcs.synchronous, SGP4Funcs.circular]
  rw [propagation, SGP4Funcs.sgp4_eq SGP4Funcs.realMath
    (SGP4Funcs.continues_self SGP4Funcs.realMath (show SGP4Funcs.synchronous.integrator.atime = 0
      from rfl)) t]
  simp only [SGP4Funcs.fromMean, Option.map_some, Option.getD_some, hnm, hem, htempe]
  rw [if_neg (by norm_num), if_neg (by norm_num)]
  generalize hs : ({ SGP4Funcs.synchronous with
    t := t
    error := 0
    integrator := SGP4Funcs.integratorAfter SGP4Funcs.realMath SGP4Funcs.synchronous t
      SGP4Funcs.synchronous.integrator
    averaged := SGP4Funcs.averagedElements SGP4Funcs.realMath SGP4Funcs.synchronous.near
      (SGP4Funcs.secular SGP4Funcs.realMath SGP4Funcs.synchronous.near t)
      (SGP4Funcs.meanAt SGP4Funcs.realMath SGP4Funcs.synchronous t) (0 - 0) } :
    SGP4Funcs.Elsetrec ℝ) = s
  have hem' : s.averaged.em = 1.0e-6 := by
    rw [← hs]
    simp only [SGP4Funcs.averagedElements]
    norm_num
  have him : s.averaged.im = 0 := by
    rw [← hs]
    exact hinclm
  have ham : 0 ≤ s.averaged.am := by
    rw [← hs]
    simp only [SGP4Funcs.averagedElements, mul_assoc]
    exact mul_nonneg (Real.rpow_nonneg (by rw [hnm]; norm_num [SGP4Funcs.synchronous,
      SGP4Funcs.circular]) _) (mul_self_nonneg _)
  obtain ⟨p, hp, hep⟩ := perturb_unperturbed (s := s) (by rw [← hs]; rfl) (by rw [← hs]; rfl) him
    (by rw [hem']; norm_num) (by rw [hem']; norm_num)
  rw [hp]
  refine place_written SGP4Funcs.realMath (by rw [← hs]; rfl) (by rw [← hs]; rfl) ham ?_
  rw [hep, hem']
  norm_num

theorem synchronous_placed (simTime : ℝ) : ∃ r₀,
    FailedPropagation.updateSatellitePosition SGP4Funcs.realMath.toTrigonometry
      (propagation SGP4Funcs.realMath) synchronousMobility simTime = .ok r₀ := by
  obtain ⟨ret, r, v, hwritten⟩ := synchronous_written (synchronousMobility.diffTleEpochWctMin +
    simTime / 60)
  have hp : propagation SGP4Funcs.realMath synchronousMobility.satrec.elements
      (synchronousMobility.diffTleEpochWctMin + simTime / 60) =
        SGP4Funcs.written ret r v := hwritten
  obtain ⟨m', records, hplace, -⟩ := placeSatellite_spec SGP4Funcs.realMath.toTrigonometry
    { synchronousMobility with satrec := { synchronousMobility.satrec with
        t := synchronousMobility.diffTleEpochWctMin + simTime / 60 } } simTime
    r.1 r.2.1 r.2.2 v.1 v.2.1 v.2.2
  refine ⟨(m', records), ?_⟩
  simp only [FailedPropagation.updateSatellitePosition, hp, SGP4Funcs.written, copyArray,
    FailedPropagation.ok_bind, hplace, ofVector_ok]

/-- Three moves, a day apart each, in which the integrator takes two, four and six steps. -/
theorem positions_of_run_synchronous : ∃ s₀ path s,
    initial synchronousMobility (SimTime.ofS 86400) false = .ok s₀ ∧
      Run (Step SGP4Funcs.realMath) s₀ path s ∧ path.length = 3 ∧
      (∀ i (hi : i < path.length), path[i].2.1 = (i + 1) * SimTime.ofS 86400) ∧
      (∀ a now b, (a, now, b) ∈ path →
        TellsTrajectory SGP4Funcs.realMath synchronousMobility a now b) ∧
      s.moveTimer = some ((path.length + 1) * SimTime.ofS 86400) := by
  have hpos : 0 < SimTime.ofS 86400 := by decide
  obtain ⟨s₀, hinitial⟩ :
      ∃ s₀, initial synchronousMobility (SimTime.ofS 86400) false = .ok s₀ :=
    ⟨_, scheduleUpdate_eq hpos rfl (Or.inl rfl)⟩
  obtain ⟨path, s, hrun, hlength, _⟩ :=
    exists_moves SGP4Funcs.realMath rfl hpos hinitial synchronous_placed 3
  exact ⟨s₀, path, s, hinitial, hrun, hlength,
    positions_of_run SGP4Funcs.realMath rfl hpos hinitial hrun⟩

end MovingSatellite
end SpaceVeins
