import SpaceVeins.SGP4

/-!
# Calls of the propagator, one after the other

The record that `sgp4` leaves is handed to the next call. What a call writes does
not depend on the calls before it: the integrator of the resonances goes on from
the state that is kept only where a restart at the epoch would come by, and all
else that a call reads is either never changed or set before it is read.
-/

set_option autoImplicit false

namespace SpaceVeins.SGP4Funcs
open FailedPropagation SteppedCache

variable {K : Type} [Field K] [LinearOrder K] [IsStrictOrderedRing K] [FloorRing K]
variable (lib : MathLibrary K)

/-- The resonance integration as a process in steps of 720 minutes from the epoch. -/
def resonance (satrec : Elsetrec K) : Process K (Integrator K) where
  time := Integrator.atime
  start := ⟨0, satrec.deep.xlamo, satrec.near.no_unkozai⟩
  advance := integratorStep lib satrec.deep satrec.near.argpo satrec.near.argpdot
  step := stepp
  step_pos := by norm_num [stepp]
  time_start := rfl
  time_advance := fun _ _ => rfl

theorem integrate_eq_request (satrec : Elsetrec K) (t : K) (s : Integrator K) :
    integrate lib satrec.deep satrec.near.argpo satrec.near.argpdot t satrec.near.no_unkozai s =
      (resonance lib satrec).request t s := rfl

/-- The loop ends in every call with a state that calls have left. -/
theorem integrate_eq {satrec : Elsetrec K} {s : Integrator K}
    (h : (resonance lib satrec).Kept s) (t : K) :
    integrate lib satrec.deep satrec.near.argpo satrec.near.argpdot t satrec.near.no_unkozai s =
      some ((resonance lib satrec).stateAt t) := by
  rw [integrate_eq_request, Process.request_eq _ h]

/-- Two records that `sgp4` cannot tell apart once the integration is done. -/
structure Alike (s s' : Elsetrec K) : Prop where
  error : s'.error = s.error
  operationmode : s'.operationmode = s.operationmode
  method : s'.method = s.method
  t : s'.t = s.t
  near : s'.near = s.near
  periodics : s'.periodics = s.periodics
  /-- In deep space they are set before they are read. -/
  terms : s.method ≠ 'd' → s'.terms = s.terms

/-- Two calls that write the same and report the same error. -/
def SameOutcome (r r' : Elsetrec K × Propagation K) : Prop := r'.2 = r.2 ∧ r'.1.error = r.1.error

/-- What a call leaves unchanged in its record, from the integration on. -/
structure Framed (s s' : Elsetrec K) : Prop where
  operationmode : s'.operationmode = s.operationmode
  method : s'.method = s.method
  near : s'.near = s.near
  deep : s'.deep = s.deep
  periodics : s'.periodics = s.periodics
  integrator : s'.integrator = s.integrator
  terms : s.method ≠ 'd' → s'.terms = s.terms

omit [IsStrictOrderedRing K] [FloorRing K] in
theorem finish_alike {s s' : Elsetrec K} (herror : s'.error = s.error) (hnear : s'.near = s.near)
    (period : ShortPeriod K) : SameOutcome (finish lib s period) (finish lib s' period) := by
  simp only [finish, hnear]
  split_ifs
  · exact ⟨rfl, rfl⟩
  · exact ⟨rfl, herror⟩

omit [IsStrictOrderedRing K] [FloorRing K] in
theorem finish_framed (s : Elsetrec K) (period : ShortPeriod K) :
    Framed s (finish lib s period).1 := by
  simp only [finish]
  split_ifs <;> exact ⟨rfl, rfl, rfl, rfl, rfl, rfl, fun _ => rfl⟩

omit [IsStrictOrderedRing K] in
theorem place_alike {s s' : Elsetrec K} (h : Alike s s') (haveraged : s'.averaged = s.averaged)
    (p : Perturbed K) : SameOutcome (place lib s p) (place lib s' p) := by
  by_cases hd : s.method = 'd'
  · simp only [place, h.method, h.near, haveraged, hd, beq_self_eq_true, if_true, longPeriodTerms]
    split_ifs
    · exact ⟨rfl, rfl⟩
    · refine finish_alike lib ?_ ?_ _
      · exact h.error
      · rfl
  · have hd' : (s.method == 'd') = false := by simpa using hd
    simp only [place, h.method, h.near, haveraged, h.terms hd, hd', Bool.false_eq_true, if_false]
    split_ifs
    · exact ⟨rfl, rfl⟩
    · refine finish_alike lib ?_ ?_ _
      · exact h.error
      · exact h.near

omit [IsStrictOrderedRing K] in
theorem place_framed (s : Elsetrec K) (p : Perturbed K) : Framed s (place lib s p).1 := by
  by_cases hd : s.method = 'd'
  · simp only [place, hd, beq_self_eq_true, if_true]
    split_ifs
    · exact ⟨rfl, hd.symm, rfl, rfl, rfl, rfl, fun h => absurd hd h⟩
    · obtain ⟨hop, hmethod, hnear, hdeep, hperiodics, hint, _⟩ := finish_framed lib _ _
      exact ⟨hop, hmethod.trans hd.symm, hnear, hdeep, hperiodics, hint, fun h => absurd hd h⟩
  · have hd' : (s.method == 'd') = false := by simpa using hd
    simp only [place, hd', Bool.false_eq_true, if_false]
    split_ifs
    · exact ⟨rfl, rfl, rfl, rfl, rfl, rfl, fun _ => rfl⟩
    · exact finish_framed lib s _

omit [IsStrictOrderedRing K] in
theorem perturb_alike {s s' : Elsetrec K} (h : Alike s s') (haveraged : s'.averaged = s.averaged) :
    perturb lib s' = perturb lib s := by
  simp only [perturb, h.method, h.periodics, h.t, h.operationmode, haveraged]

omit [IsStrictOrderedRing K] in
theorem fromMean_alike {s s' : Elsetrec K} (h : Alike s s') (sec : Secular K) (mean : Mean K) :
    SameOutcome (fromMean lib s sec mean) (fromMean lib s' sec mean) := by
  simp only [fromMean, h.near]
  split_ifs
  · exact ⟨rfl, rfl⟩
  · exact ⟨rfl, rfl⟩
  · have halike : Alike
        { s with averaged := averagedElements lib s.near sec mean (mean.em - sec.tempe) }
        { s' with
          near := s.near
          averaged := averagedElements lib s.near sec mean (mean.em - sec.tempe) } :=
      ⟨h.error, h.operationmode, h.method, h.t, rfl, h.periodics, h.terms⟩
    rw [perturb_alike lib halike rfl]
    split
    · exact ⟨rfl, rfl⟩
    · exact place_alike lib halike rfl _

omit [IsStrictOrderedRing K] in
theorem fromMean_framed (s : Elsetrec K) (sec : Secular K) (mean : Mean K) :
    Framed s (fromMean lib s sec mean).1 := by
  simp only [fromMean]
  split_ifs
  · exact ⟨rfl, rfl, rfl, rfl, rfl, rfl, fun _ => rfl⟩
  · exact ⟨rfl, rfl, rfl, rfl, rfl, rfl, fun _ => rfl⟩
  · split
    · exact ⟨rfl, rfl, rfl, rfl, rfl, rfl, fun _ => rfl⟩
    · rename_i p _
      obtain ⟨hop, hmethod, hnear, hdeep, hperiodics, hint, hterms⟩ := place_framed lib
        { s with averaged := averagedElements lib s.near sec mean (mean.em - sec.tempe) } p
      exact ⟨hop, hmethod, hnear, hdeep, hperiodics, hint, hterms⟩

/-- A record that calls have made of `fresh`. -/
structure Continues (fresh s : Elsetrec K) : Prop where
  operationmode : s.operationmode = fresh.operationmode
  method : s.method = fresh.method
  near : s.near = fresh.near
  deep : s.deep = fresh.deep
  periodics : s.periodics = fresh.periodics
  terms : fresh.method ≠ 'd' → s.terms = fresh.terms
  kept : (resonance lib fresh).Kept s.integrator

theorem continues_self {fresh : Elsetrec K} (h : fresh.integrator.atime = 0) :
    Continues lib fresh fresh :=
  ⟨rfl, rfl, rfl, rfl, rfl, fun _ => rfl, Or.inl h⟩

/-- The integrator after a call for the time `t`. -/
def integratorAfter (fresh : Elsetrec K) (t : K) (s : Integrator K) : Integrator K :=
  if fresh.method = 'd' ∧ fresh.deep.irez ≠ 0 then (resonance lib fresh).stateAt t else s

theorem kept_integratorAfter {fresh : Elsetrec K} {s : Integrator K}
    (h : (resonance lib fresh).Kept s) (t : K) :
    (resonance lib fresh).Kept (integratorAfter lib fresh t s) := by
  unfold integratorAfter
  split_ifs
  · exact Process.kept_stateAt _ t
  · exact h

/-- The mean elements of a call for the time `t` with the fresh record. -/
def meanAt (fresh : Elsetrec K) (t : K) : Mean K :=
  let mean := secularMean fresh.near (secular lib fresh.near t)
  if fresh.method = 'd' then
    if fresh.deep.irez ≠ 0 then
      resonant lib fresh.deep fresh.near.argpo fresh.near.argpdot t fresh.near.no_unkozai
        ((resonance lib fresh).stateAt t) (deepSecular fresh.deep t mean)
    else deepSecular fresh.deep t mean
  else mean

/-- A call with a record that calls have made of `fresh` ends, and works on the mean elements of
a call with `fresh`. -/
theorem sgp4_eq {fresh s : Elsetrec K} (h : Continues lib fresh s) (t : K) :
    sgp4 lib s t = some (fromMean lib
      { s with t := t, error := 0, integrator := integratorAfter lib fresh t s.integrator }
      (secular lib fresh.near t) (meanAt lib fresh t)) := by
  by_cases hd : fresh.method = 'd'
  · by_cases hirez : fresh.deep.irez = 0
    · simp only [sgp4, dspace, h.method, h.near, h.deep, hd, hirez, beq_self_eq_true, if_true,
        ne_eq, not_true_eq_false, if_false, Option.map_some, integratorAfter, and_false, meanAt]
    · simp only [sgp4, dspace, h.method, h.near, h.deep, hd, hirez, beq_self_eq_true, if_true,
        ne_eq, not_false_eq_true, Option.map_some, integratorAfter, and_self, meanAt,
        integrate_eq lib h.kept]
  · have hd' : (fresh.method == 'd') = false := by simpa using hd
    simp only [sgp4, h.method, h.near, hd', hd, Bool.false_eq_true, if_false, integratorAfter,
      false_and, meanAt]

theorem continues_sgp4 {fresh s : Elsetrec K} (h : Continues lib fresh s) (t : K) :
    ∃ r, sgp4 lib s t = some r ∧ Continues lib fresh r.1 ∧
      r.1.integrator = integratorAfter lib fresh t s.integrator := by
  refine ⟨_, sgp4_eq lib h t, ?_⟩
  have hframe := fromMean_framed lib
    { s with t := t, error := 0, integrator := integratorAfter lib fresh t s.integrator }
    (secular lib fresh.near t) (meanAt lib fresh t)
  refine ⟨⟨hframe.operationmode.trans h.operationmode, hframe.method.trans h.method,
    hframe.near.trans h.near, hframe.deep.trans h.deep, hframe.periodics.trans h.periodics, ?_, ?_⟩,
    hframe.integrator⟩
  · intro hd
    exact (hframe.terms (by simpa only [h.method] using hd)).trans (h.terms hd)
  · rw [hframe.integrator]
    exact kept_integratorAfter lib h.kept t

theorem sgp4_same_outcome {fresh s s' : Elsetrec K} (h : Continues lib fresh s)
    (h' : Continues lib fresh s') (t : K) : ∃ r r', sgp4 lib s t = some r ∧
      sgp4 lib s' t = some r' ∧ SameOutcome r r' := by
  refine ⟨_, _, sgp4_eq lib h t, sgp4_eq lib h' t, fromMean_alike lib ?_ _ _⟩
  refine ⟨rfl, h'.operationmode.trans h.operationmode.symm, h'.method.trans h.method.symm, rfl,
    h'.near.trans h.near.symm, h'.periodics.trans h.periodics.symm, ?_⟩
  intro hd
  have hd' : fresh.method ≠ 'd' := by simpa only [h.method] using hd
  exact (h'.terms hd').trans (h.terms hd').symm

/-- The record after calls for these times, one after the other. -/
def calls (satrec : Elsetrec K) (times : List K) : Option (Elsetrec K) :=
  times.foldlM (fun s t => (sgp4 lib s t).map Prod.fst) satrec

theorem exists_calls {fresh s : Elsetrec K} (h : Continues lib fresh s) (times : List K) :
    ∃ u, calls lib s times = some u ∧ Continues lib fresh u := by
  induction times generalizing s with
  | nil => exact ⟨s, rfl, h⟩
  | cons t times ih =>
    obtain ⟨r, hr, hcont, _⟩ := continues_sgp4 lib h t
    obtain ⟨u, hu, hu'⟩ := ih hcont
    refine ⟨u, ?_, hu'⟩
    rw [calls, List.foldlM_cons, hr]
    exact hu

/-- The mathematical library on the real numbers. -/
noncomputable def realMath : MathLibrary ℝ where
  toTrigonometry := TEME2ITRF.realTrigonometry
  atan2 y x := Complex.arg ⟨x, y⟩
  sqrt := Real.sqrt
  pow := Real.rpow

/-- A circular orbit in the equatorial plane, four radii from the centre of the Earth, with no
drag and no perturbation. -/
def circular : Elsetrec ℝ where
  error := 0
  operationmode := 'i'
  method := 'n'
  t := 0
  near :=
    { isimp := 1, cc1 := 0, cc4 := 0, cc5 := 0, d2 := 0, d3 := 0, d4 := 0, delmo := 1, eta := 0
      argpdot := 0, omgcof := 0, sinmao := 0, t2cof := 0, t3cof := 0, t4cof := 0, t5cof := 0
      mdot := 0, nodedot := 0, xmcof := 0, nodecf := 0, bstar := 0, inclo := 0, nodeo := 0
      ecco := 0, argpo := 0, mo := 0, no_unkozai := 1, radiusearthkm := 6378.135, xke := 8
      j2 := 0, j3oj2 := 0 }
  deep := ⟨0, 0, 0, 0, 0, 0, 0, 0, 0, 0, 0, 0, 0, 0, 0, 0, 0, 0, 0, 0, 0, 0⟩
  periodics := ⟨0, 0, 0, 0, 0, 0, 0, 0, 0, 0, 0, 0, 0, 0, 0, 0, 0, 0, 0, 0, 0, 0, 0, 0, 0, 0, 0, 0,
    0, 0, 0⟩
  terms := ⟨0, 0, 2, 0, 6⟩
  integrator := ⟨0, 0, 0⟩
  averaged := ⟨0, 0, 0, 0, 0, 0, 0⟩

/-- The same orbit, treated as one with a synchronous resonance. -/
def synchronous : Elsetrec ℝ :=
  { circular with method := 'd', deep := { circular.deep with irez := 1 } }

/-- **The calls before it do not change what a call writes.** -/
theorem call_after_calls {satrec : Elsetrec K} (h : satrec.integrator.atime = 0) (times : List K)
    (t : K) : ∃ s r r', calls lib satrec times = some s ∧ sgp4 lib satrec t = some r ∧
      sgp4 lib s t = some r' ∧ SameOutcome r r' := by
  have hself := continues_self lib h
  obtain ⟨s, hs, hcont⟩ := exists_calls lib hself times
  obtain ⟨r, r', hr, hr', hsame⟩ := sgp4_same_outcome lib hself hcont t
  exact ⟨s, r, r', hs, hr, hr', hsame⟩

/-- Calls forwards, backwards and past the epoch before one for two days after it. -/
theorem call_after_calls_synchronous : ∃ s r r', calls realMath synchronous [1440, -2000, 10] =
    some s ∧ sgp4 realMath synchronous 2880 = some r ∧ sgp4 realMath s 2880 = some r' ∧
      SameOutcome r r' :=
  @call_after_calls ℝ _ _ _ _ realMath synchronous rfl [1440, -2000, 10] 2880

/-- **The integrator stops less than a step before the time of the last call**, on the way from
the epoch and after a whole number of steps. -/
theorem integrator_after_calls {satrec : Elsetrec K} (h : satrec.integrator.atime = 0)
    (hmethod : satrec.method = 'd') (hirez : satrec.deep.irez ≠ 0) (times : List K) (t : K) :
    ∃ s, calls lib satrec (times ++ [t]) = some s ∧
      s.integrator = (integratorStep lib satrec.deep satrec.near.argpo satrec.near.argpdot
        (if 0 < t then 720 else -720))^[⌊|t| / 720⌋₊]
          ⟨0, satrec.deep.xlamo, satrec.near.no_unkozai⟩ ∧
      |t - s.integrator.atime| < 720 ∧ |s.integrator.atime| ≤ |t| := by
  obtain ⟨u, hu, hcont⟩ := exists_calls lib (continues_self lib h) times
  obtain ⟨r, hr, _, hint⟩ := continues_sgp4 lib hcont t
  have hstep : (resonance lib satrec).step = 720 := by norm_num [resonance, stepp]
  have hstate : r.1.integrator = (resonance lib satrec).stateAt t := by
    rw [hint, integratorAfter, if_pos ⟨hmethod, hirez⟩]
  refine ⟨r.1, ?_, ?_, ?_⟩
  · rw [calls] at hu
    simp [calls, List.foldlM_append, hu, hr]
  · rw [hstate, Process.stateAt, Process.steps, Process.towards, hstep]
    rfl
  · rw [hstate, ← hstep]
    exact (resonance lib satrec).distance_stateAt t

theorem integrator_after_calls_synchronous : ∃ s, calls realMath synchronous ([-2000] ++ [1500]) =
    some s ∧ s.integrator = (integratorStep realMath synchronous.deep synchronous.near.argpo
        synchronous.near.argpdot (if (0 : ℝ) < 1500 then 720 else -720))^[⌊|(1500 : ℝ)| / 720⌋₊]
          ⟨0, synchronous.deep.xlamo, synchronous.near.no_unkozai⟩ ∧
      |1500 - s.integrator.atime| < 720 ∧ |s.integrator.atime| ≤ |1500| :=
  @integrator_after_calls ℝ _ _ _ _ realMath synchronous rfl rfl (show (1 : Int) ≠ 0 by decide)
    [-2000] 1500

end SpaceVeins.SGP4Funcs
