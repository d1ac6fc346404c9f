import Mathlib.Data.List.Induction
import SpaceVeins.SatelliteNames

/-!
# The sizes of the submodule vectors

Each request comes with the size of its vector, which a counter of 32 bits keeps
track of. There is one counter for each constellation, and one for all other
satellites; if those are created under the name of a constellation, two counters
belong to one vector.
-/

set_option autoImplicit false

namespace SpaceVeins
open CxxString

/-- The counter of the satellite; `none` is the one of the satellites without a constellation. -/
def TLE.counter (tle : TLE) : Option Constellation := Constellation.ofName tle.constellation

namespace CreateRequest

/-- The largest number of this counter plus one, or zero. -/
def high (requests : List CreateRequest) (counter : Option Constellation) : UInt32 :=
  requests.foldl (fun m r => if r.tle.counter = counter then max m (r.satNum + 1) else m) 0

theorem high_concat (requests : List CreateRequest) (r : CreateRequest)
    (counter : Option Constellation) :
    high (requests ++ [r]) counter = if r.tle.counter = counter then
      max (high requests counter) (r.satNum + 1) else high requests counter := by
  rw [high, List.foldl_append]
  rfl

/-- No number is the largest one of 32 bits. -/
def NoWrap (requests : List CreateRequest) : Prop := ∀ r ∈ requests, r.satNum ≠ 4294967295

theorem toNat_add_one {n : UInt32} (h : n ≠ 4294967295) : (n + 1).toNat = n.toNat + 1 := by
  have hne : n.toNat ≠ 4294967295 := fun heq => h (UInt32.toNat_inj.mp heq)
  have hlt := n.toNat_lt
  rw [UInt32.toNat_add]
  change (n.toNat + 1) % 2 ^ 32 = _
  omega

theorem lt_add_one_iff {n m : UInt32} (h : n ≠ 4294967295) : m < n + 1 ↔ m ≤ n := by
  rw [UInt32.lt_iff_toNat_lt, UInt32.le_iff_toNat_le, toNat_add_one h]
  omega

theorem add_one_le_iff {n m : UInt32} (h : n ≠ 4294967295) : n + 1 ≤ m ↔ n < m := by
  rw [UInt32.le_iff_toNat_le, UInt32.lt_iff_toNat_lt, toNat_add_one h]
  omega

theorem lt_max_iff {n a b : UInt32} : n < max a b ↔ n < a ∨ n < b := by
  have hmax : max a b = if a ≤ b then b else a := rfl
  rw [hmax]
  simp only [UInt32.lt_iff_toNat_lt, UInt32.le_iff_toNat_le]
  split <;> omega

theorem max_le_iff {n a b : UInt32} : max a b ≤ n ↔ a ≤ n ∧ b ≤ n := by
  have hmax : max a b = if a ≤ b then b else a := rfl
  rw [hmax]
  simp only [UInt32.le_iff_toNat_le]
  split <;> omega

theorem lt_high_iff {requests : List CreateRequest} (h : NoWrap requests)
    (counter : Option Constellation) (n : UInt32) :
    n < high requests counter ↔ ∃ r ∈ requests, r.tle.counter = counter ∧ n ≤ r.satNum := by
  induction requests using List.reverseRecOn with
  | nil => simp [high]
  | append_singleton requests r ih =>
    have hrest := ih fun q hq => h q (List.mem_append_left _ hq)
    have hr : r.satNum ≠ 4294967295 := h r (List.mem_append_right _ List.mem_cons_self)
    simp only [List.mem_append, List.mem_singleton, or_and_right, exists_or, exists_eq_left,
      ← hrest]
    rw [high_concat]
    by_cases hcounter : r.tle.counter = counter
    · rw [if_pos hcounter, lt_max_iff, lt_add_one_iff hr]
      simp only [hcounter, true_and]
    · rw [if_neg hcounter]
      simp only [hcounter, false_and, or_false]

/-- The requests of a run, by their counters. -/
structure Sized (satelliteModuleDefaultName : List Char) (requests : List CreateRequest) :
    Prop where
  named : ∀ r ∈ requests, r.constellation =
    (r.tle.counter.map Constellation.name).getD satelliteModuleDefaultName
  size : ∀ earlier r later, requests = earlier ++ r :: later →
    r.vectorSize = high (earlier ++ [r]) r.tle.counter

/-- Every number is below the size that comes with it, the sizes of a vector do not decrease, and
they are larger than the numbers in the vector so far. -/
structure LargeEnough (requests : List CreateRequest) : Prop where
  own : ∀ r ∈ requests, r.satNum < r.vectorSize
  grow : requests.Pairwise fun q r => q.moduleName = r.moduleName → q.vectorSize ≤ r.vectorSize
  earlier : requests.Pairwise fun q r => q.moduleName = r.moduleName → q.satNum < r.vectorSize

/-- Numbers of one vector are not above those of the counter that gives its size. -/
def Covered (requests : List (TLE × List Char × UInt32)) : Prop :=
  ∀ earlier r later, requests = earlier ++ r :: later → ∀ q ∈ earlier, q.2.1 = r.2.1 →
    ∃ k ∈ earlier ++ [r], k.1.counter = r.1.counter ∧ q.2.2 ≤ k.2.2

def satellite (r : CreateRequest) : TLE × List Char × UInt32 := (r.tle, r.target)

theorem pairwise_iff_split {α : Type} {R : α → α → Prop} {l : List α} :
    l.Pairwise R ↔ ∀ earlier r later, l = earlier ++ r :: later → ∀ q ∈ earlier, R q r := by
  constructor
  · rintro h earlier r later rfl q hq
    exact (List.pairwise_append.mp h).2.2 q hq r List.mem_cons_self
  · induction l using List.reverseRecOn with
    | nil => exact fun _ => List.Pairwise.nil
    | append_singleton l a ih =>
      intro h
      rw [List.pairwise_append]
      refine ⟨ih fun earlier r later hsplit => h earlier r (later ++ [a]) (by simp [hsplit]),
        List.pairwise_singleton R a, ?_⟩
      intro q hq b hb
      rw [List.mem_singleton] at hb
      subst hb
      exact h l b [] rfl q hq

theorem high_le {requests : List CreateRequest} (h : NoWrap requests)
    {counter : Option Constellation} {n : UInt32}
    (hbound : ∀ r ∈ requests, r.tle.counter = counter → r.satNum < n) :
    high requests counter ≤ n := by
  induction requests using List.reverseRecOn with
  | nil => exact UInt32.zero_le
  | append_singleton requests r ih =>
    have hrest := ih (fun q hq => h q (List.mem_append_left _ hq)) fun q hq =>
      hbound q (List.mem_append_left _ hq)
    have hr : r.satNum ≠ 4294967295 := h r (List.mem_append_right _ List.mem_cons_self)
    rw [high_concat]
    split
    · rename_i hcounter
      rw [max_le_iff, add_one_le_iff hr]
      exact ⟨hrest, hbound r (List.mem_append_right _ List.mem_cons_self) hcounter⟩
    · exact hrest

section
variable {satelliteModuleDefaultName : List Char} {requests : List CreateRequest}

theorem Sized.moduleName_eq (h : Sized satelliteModuleDefaultName requests)
    {q r : CreateRequest} (hq : q ∈ requests) (hr : r ∈ requests)
    (hcounter : q.tle.counter = r.tle.counter) : q.moduleName = r.moduleName := by
  rw [moduleName, moduleName, h.named q hq, h.named r hr, hcounter]

theorem covered_map_satellite_iff :
    Covered (requests.map satellite) ↔ ∀ earlier r later, requests = earlier ++ r :: later →
      ∀ q ∈ earlier, q.moduleName = r.moduleName →
        ∃ k ∈ earlier ++ [r], k.tle.counter = r.tle.counter ∧ q.satNum ≤ k.satNum := by
  constructor
  · rintro h earlier r later rfl q hq hname
    obtain ⟨k, hk, hcounter, hle⟩ := h (earlier.map satellite) (satellite r) (later.map satellite)
      (by simp) (satellite q) (List.mem_map_of_mem hq) hname
    have hk' : k ∈ (earlier ++ [r]).map satellite := by simpa using hk
    obtain ⟨k, hmem, rfl⟩ := List.mem_map.mp hk'
    exact ⟨k, hmem, hcounter, hle⟩
  · intro h earlier r later hsplit q hq hname
    obtain ⟨earlier, rest, rfl, rfl, hrest⟩ := List.map_eq_append_iff.mp hsplit
    obtain ⟨r, later, rfl, rfl, -⟩ := List.map_eq_cons_iff.mp hrest
    obtain ⟨q, hq', rfl⟩ := List.mem_map.mp hq
    obtain ⟨k, hk, hcounter, hle⟩ := h earlier r later rfl q hq' hname
    refine ⟨satellite k, ?_, hcounter, hle⟩
    have hmem := List.mem_map_of_mem (f := satellite) hk
    rwa [List.map_append] at hmem

/-- The vectors are large enough exactly if no number wraps around and every number is covered by
the counter that gives the size of its vector. -/
theorem Sized.largeEnough_iff (h : Sized satelliteModuleDefaultName requests) :
    LargeEnough requests ↔ NoWrap requests ∧ Covered (requests.map satellite) := by
  have hearlier : NoWrap requests → ∀ earlier r later, requests = earlier ++ r :: later →
      ∀ n, (n < r.vectorSize ↔
        ∃ k ∈ earlier ++ [r], k.tle.counter = r.tle.counter ∧ n ≤ k.satNum) := by
    intro hwrap earlier r later hsplit n
    rw [h.size earlier r later hsplit]
    apply lt_high_iff
    intro q hq
    apply hwrap
    rw [hsplit, List.append_cons]
    exact List.mem_append_left _ hq
  constructor
  · intro hlarge
    have hwrap : NoWrap requests := by
      intro r hr hmax
      have hlt := UInt32.lt_iff_toNat_lt.mp (hlarge.own r hr)
      have hbound := r.vectorSize.toNat_lt
      rw [hmax] at hlt
      change 4294967295 < _ at hlt
      omega
    refine ⟨hwrap, covered_map_satellite_iff.mpr ?_⟩
    intro earlier r later hsplit q hq hname
    exact (hearlier hwrap earlier r later hsplit q.satNum).mp
      (pairwise_iff_split.mp hlarge.earlier earlier r later hsplit q hq hname)
  · rintro ⟨hwrap, hcovered⟩
    rw [covered_map_satellite_iff] at hcovered
    have hbelow : ∀ earlier r later, requests = earlier ++ r :: later → ∀ q ∈ earlier,
        q.moduleName = r.moduleName → q.satNum < r.vectorSize :=
      fun earlier r later hsplit q hq hname =>
        (hearlier hwrap earlier r later hsplit q.satNum).mpr
          (hcovered earlier r later hsplit q hq hname)
    refine ⟨?_, ?_, pairwise_iff_split.mpr hbelow⟩
    · intro r hr
      obtain ⟨earlier, later, hsplit⟩ := List.append_of_mem hr
      exact (hearlier hwrap earlier r later hsplit r.satNum).mpr
        ⟨r, List.mem_append_right _ List.mem_cons_self, rfl, UInt32.le_refl _⟩
    · rw [pairwise_iff_split]
      intro earlier r later hsplit q hq hname
      obtain ⟨before, after, rfl⟩ := List.append_of_mem hq
      have hsplit' : requests = before ++ q :: (after ++ r :: later) := by
        rw [hsplit, List.append_assoc, List.cons_append]
      -- every number that the size of `q` comes from is below the size of `r`
      rw [h.size before q _ hsplit']
      apply high_le
      · intro k hk
        apply hwrap
        rw [hsplit', List.append_cons]
        exact List.mem_append_left _ hk
      · intro k hk hcounter
        have hk' : k ∈ before ++ q :: after := by
          rw [List.append_cons]
          exact List.mem_append_left _ hk
        apply hbelow _ r later hsplit k hk'
        rw [← hname]
        apply h.moduleName_eq _ _ hcounter
        · rw [hsplit]
          exact List.mem_append_left _ hk'
        · rw [hsplit]
          exact List.mem_append_left _ hq

end

end CreateRequest

/-- The satellites that are created, with their submodules. -/
def TLE.satellites (defaultName : List Char) (ignoreUnknown : Bool) (tles : List TLE) :
    List (TLE × List Char × UInt32) :=
  tles.filterMap fun tle => (tle.target defaultName ignoreUnknown).map fun x => (tle, x)

namespace SatelliteInserter
open CreateRequest

def counterSize (inserter : SatelliteInserter) : Option Constellation → UInt32
  | none => inserter.satelliteVectorSize
  | some c => inserter.vectorSize c

/-- What a request does to the module: it belongs to the satellite, and its size is the new value
of the satellite's counter. -/
structure Requests (tle : TLE) (inserter next : SatelliteInserter) (r : CreateRequest) : Prop where
  created : next.created = inserter.created ++ [r]
  defaultName : next.satelliteModuleDefaultName = inserter.satelliteModuleDefaultName
  same : r.tle = tle
  named : r.constellation =
    (tle.counter.map Constellation.name).getD inserter.satelliteModuleDefaultName
  size : r.vectorSize = max (inserter.counterSize tle.counter) (r.satNum + 1)
  counters : ∀ k, next.counterSize k = if tle.counter = k then r.vectorSize
    else inserter.counterSize k

structure Unchanged (inserter next : SatelliteInserter) : Prop where
  created : next.created = inserter.created
  defaultName : next.satelliteModuleDefaultName = inserter.satelliteModuleDefaultName
  counters : ∀ k, next.counterSize k = inserter.counterSize k

variable (sim : Simulation) (stray : Nat → Char)

theorem counter_of_known {tle : TLE} {c : Constellation} (h : c.name = tle.constellation) :
    tle.counter = some c := by
  rw [TLE.counter, ← h, ofName_name]

theorem counter_of_unknown {tle : TLE} (h : ¬ tle.IsKnown) : tle.counter = none := by
  cases hfound : Constellation.ofName tle.constellation with
  | none => exact hfound
  | some c => exact absurd (ofName_eq_some hfound).2 h

theorem instantiateIn_requests {tle : TLE} {c : Constellation} (inserter : SatelliteInserter)
    (hcounter : tle.counter = some c) (satNum : UInt32) :
    ∃ r, Requests tle inserter (inserter.instantiateIn sim c tle satNum).1 r := by
  refine ⟨⟨tle, satNum, max (inserter.vectorSize c) (satNum + 1), c.name⟩, rfl, rfl, rfl,
    ?_, ?_, ?_⟩
  · rw [hcounter]
    rfl
  · rw [hcounter]
    rfl
  · intro k
    rw [hcounter]
    cases k with
    | none => rfl
    | some d =>
      simp only [instantiateIn, createSatellite, counterSize, Option.some.injEq, eq_comm]

theorem instantiateUnknown_requests {tle : TLE} (inserter : SatelliteInserter)
    (hcounter : tle.counter = none) :
    Unchanged inserter (inserter.instantiateUnknown sim tle).1 ∨
      ∃ r, Requests tle inserter (inserter.instantiateUnknown sim tle).1 r := by
  unfold instantiateUnknown
  generalize catalogNumber tle = catalog
  cases catalog with
  | error e => exact .inl ⟨rfl, rfl, fun _ => rfl⟩
  | ok n =>
    refine .inr ⟨⟨tle, n.toUInt32, max inserter.satelliteVectorSize (n.toUInt32 + 1),
      inserter.satelliteModuleDefaultName⟩, rfl, rfl, rfl, ?_, ?_, ?_⟩
    · rw [hcounter]
      rfl
    · rw [hcounter]
      rfl
    · intro k
      rw [hcounter]
      cases k with
      | none => rfl
      | some d => rfl

theorem instantiateSatellite_requests (tle : TLE) (inserter : SatelliteInserter) :
    Unchanged inserter (inserter.instantiateSatellite sim stray tle).1 ∨
      ∃ r, Requests tle inserter (inserter.instantiateSatellite sim stray tle).1 r := by
  rw [instantiateSatellite]
  cases hparse : getConstellationAndSatNum stray tle with
  | error e => exact .inl ⟨rfl, rfl, fun _ => rfl⟩
  | ok satellite =>
    obtain ⟨hknown, hnumber⟩ := known_of_ok stray hparse
    obtain ⟨constellation, satNum⟩ := satellite
    rw [instantiateParsed]
    cases hfound : Constellation.ofName constellation with
    | some c =>
      obtain ⟨hname, hmem⟩ := ofName_eq_some hfound
      have hcounter := counter_of_known (hname.trans (hnumber (hknown.mp hmem)).1)
      exact .inr (instantiateIn_requests sim inserter hcounter satNum)
    | none =>
      have hcounter := counter_of_unknown (mt hknown.mpr (ofName_eq_none hfound))
      cases hignore : inserter.ignoreUnknownSatellites with
      | true => exact .inl ⟨rfl, rfl, fun _ => rfl⟩
      | false => exact instantiateUnknown_requests sim inserter hcounter

/-- The counters are those of the requests made so far. -/
structure Counted (inserter : SatelliteInserter) : Prop where
  sized : Sized inserter.satelliteModuleDefaultName inserter.created
  counters : ∀ k, inserter.counterSize k = high inserter.created k

theorem Counted.next {tle : TLE} {inserter next : SatelliteInserter} {r : CreateRequest}
    (h : Counted inserter) (hr : Requests tle inserter next r) : Counted next := by
  obtain ⟨hcreated, hdefault, rfl, hnamed, hsize, hcounters⟩ := hr
  have hhigh : ∀ k, next.counterSize k = high next.created k := by
    intro k
    rw [hcounters, hcreated, high_concat, hsize, h.counters, h.counters]
    split
    · rename_i hk
      rw [hk]
    · rfl
  refine ⟨⟨?_, ?_⟩, hhigh⟩
  · intro q hq
    rw [hcreated, List.mem_append, List.mem_singleton] at hq
    rw [hdefault]
    rcases hq with hq | rfl
    · exact h.sized.named q hq
    · exact hnamed
  · intro earlier q later hsplit
    rcases List.eq_nil_or_concat later with rfl | ⟨before, last, rfl⟩
    · obtain ⟨rfl, hlast⟩ := List.append_inj' (hcreated.symm.trans hsplit) rfl
      obtain rfl : r = q := by simpa using hlast
      rw [← hcreated, ← hhigh, hcounters, if_pos rfl]
    · have hsplit' : inserter.created ++ [r] = (earlier ++ q :: before) ++ [last] := by
        rw [← hcreated, hsplit]
        simp
      exact h.sized.size earlier q before (List.append_inj_left' hsplit' rfl)

theorem Counted.unchanged {inserter next : SatelliteInserter} (h : Counted inserter)
    (hnext : Unchanged inserter next) : Counted next := by
  constructor
  · rw [hnext.defaultName, hnext.created]
    exact h.sized
  · intro k
    rw [hnext.counters, hnext.created, h.counters]

theorem initial_counted (satelliteModuleType : String) (satelliteModuleDefaultName : List Char)
    (ignoreUnknownSatellites : Bool) :
    Counted (initial satelliteModuleType satelliteModuleDefaultName ignoreUnknownSatellites) := by
  refine ⟨⟨?_, ?_⟩, ?_⟩
  · intro r hr
    cases hr
  · intro earlier r later hsplit
    have hlength := congrArg List.length hsplit
    simp [initial] at hlength
  · intro k
    cases k with
    | none => rfl
    | some c => rfl

theorem instantiateSatellite_counted {tle : TLE} {inserter : SatelliteInserter}
    (h : Counted inserter) :
    Counted (inserter.instantiateSatellite sim stray tle).1 ∧
      ((inserter.instantiateSatellite sim stray tle).2 = none →
        (inserter.instantiateSatellite sim stray tle).1.created.map satellite =
          inserter.created.map satellite ++
            ((inserter.submodule tle).map fun x => (tle, x)).toList) := by
  have hrequested := instantiateSatellite_requested sim stray tle inserter
  have hstep := instantiateSatellite_requests sim stray tle inserter
  generalize inserter.instantiateSatellite sim stray tle = result at hrequested hstep ⊢
  obtain ⟨next, error⟩ := result
  have hhandled : error = none →
      next.requested = inserter.requested ++ (inserter.submodule tle).toList := by
    rintro rfl
    rcases hrequested with hhandled | ⟨-, e, he⟩
    · exact hhandled
    · cases he
  rcases hstep with hunchanged | ⟨r, hr⟩
  · refine ⟨h.unchanged hunchanged, fun hok => ?_⟩
    have hcreated : next.created = inserter.created := hunchanged.created
    have hnone := hhandled hok
    rw [requested, hcreated, ← requested, List.self_eq_append_right,
      Option.toList_eq_nil_iff] at hnone
    rw [hnone]
    exact (congrArg _ hcreated).trans (List.append_nil _).symm
  · refine ⟨h.next hr, fun hok => ?_⟩
    have hcreated : next.created = inserter.created ++ [r] := hr.created
    have hsome := hhandled hok
    rw [requested, hcreated, List.map_append, ← requested] at hsome
    have htarget : inserter.submodule tle = some r.target := by
      have hlist := List.append_cancel_left hsome
      cases hsub : inserter.submodule tle with
      | none =>
        rw [hsub] at hlist
        cases hlist
      | some x =>
        rw [hsub] at hlist
        cases hlist
        rfl
    rw [htarget]
    change next.created.map satellite = _
    rw [hcreated, List.map_append, ← hr.same]
    rfl

theorem instantiateAll_counted (tles : List TLE) {inserter : SatelliteInserter}
    (h : Counted inserter) :
    Counted (TleFile.instantiateAll (instantiateSatellite sim stray) tles inserter).1 ∧
      ((TleFile.instantiateAll (instantiateSatellite sim stray) tles inserter).2 = none →
        (TleFile.instantiateAll (instantiateSatellite sim stray) tles inserter).1.created.map
            satellite =
          inserter.created.map satellite ++
            tles.filterMap fun tle => (inserter.submodule tle).map fun x => (tle, x)) := by
  induction tles generalizing inserter with
  | nil => exact ⟨h, fun _ => (List.append_nil _).symm⟩
  | cons tle tles ih =>
    rw [TleFile.instantiateAll]
    have hsubmodule := instantiateSatellite_submodule sim stray tle inserter
    have hstep := @instantiateSatellite_counted sim stray tle inserter h
    generalize inserter.instantiateSatellite sim stray tle = result at hsubmodule hstep ⊢
    obtain ⟨next, error⟩ := result
    cases error with
    | some e => exact ⟨hstep.1, fun hok => (by cases hok)⟩
    | none =>
      obtain ⟨hcounted, hcreated⟩ := ih hstep.1
      refine ⟨hcounted, fun hok => (hcreated hok).trans ?_⟩
      have hkept : next.submodule = inserter.submodule := hsubmodule
      have hfirst : next.created.map satellite = inserter.created.map satellite ++
          ((inserter.submodule tle).map fun x => (tle, x)).toList := hstep.2 rfl
      rw [hkept, hfirst, List.append_assoc, filterMap_cons_eq]

/-- The vectors of a run are large enough exactly if no satellite has the largest number of 32
bits, and no number is above those of the counter that the size of its vector is taken from. -/
theorem sizes_large_enough_iff {satelliteModuleType : String}
    {satelliteModuleDefaultName : List Char} {ignoreUnknownSatellites : Bool} {tles : List TLE}
    (hok : (TleFile.instantiateAll (instantiateSatellite sim stray) tles
      (initial satelliteModuleType satelliteModuleDefaultName ignoreUnknownSatellites)).2 = none) :
    LargeEnough (TleFile.instantiateAll (instantiateSatellite sim stray) tles
        (initial satelliteModuleType satelliteModuleDefaultName
          ignoreUnknownSatellites)).1.created ↔
      (∀ s ∈ TLE.satellites satelliteModuleDefaultName ignoreUnknownSatellites tles,
        s.2.2 ≠ 4294967295) ∧
      Covered (TLE.satellites satelliteModuleDefaultName ignoreUnknownSatellites tles) := by
  obtain ⟨hcounted, hcreated⟩ := instantiateAll_counted sim stray tles
    (initial_counted satelliteModuleType satelliteModuleDefaultName ignoreUnknownSatellites)
  have hsatellites : _ = TLE.satellites satelliteModuleDefaultName ignoreUnknownSatellites tles :=
    hcreated hok
  rw [hcounted.sized.largeEnough_iff, ← hsatellites]
  simp only [NoWrap, List.mem_map, forall_exists_index, and_imp, forall_apply_eq_imp_iff₂]
  rfl

/-- If the satellites without a constellation have a vector of their own, every number is
covered. -/
theorem covered_of_default {defaultName : List Char} {ignoreUnknown : Bool} {tles : List TLE}
    (hdefault : defaultName ∉ Constellation.all.map Constellation.name) :
    Covered (TLE.satellites defaultName ignoreUnknown tles) := by
  intro earlier r later hsplit q hq hname
  have hcounter : ∀ s ∈ TLE.satellites defaultName ignoreUnknown tles,
      s.2.1 = "leo".toList ++ (s.1.counter.map Constellation.name).getD defaultName := by
    intro s hs
    obtain ⟨tle, -, htarget⟩ := List.mem_filterMap.mp hs
    obtain ⟨x, hx, rfl⟩ := Option.map_eq_some_iff.mp htarget
    unfold TLE.target at hx
    split at hx
    · obtain ⟨n, -, rfl⟩ := Option.map_eq_some_iff.mp hx
      by_cases hknown : tle.IsKnown
      · obtain ⟨c, -, hc⟩ := List.mem_map.mp hknown
        rw [TLE.vector, if_pos hknown, counter_of_known hc, ← hc]
        rfl
      · rw [TLE.vector, if_neg hknown, counter_of_unknown hknown]
        rfl
    · cases hx
  have hq' : q ∈ TLE.satellites defaultName ignoreUnknown tles :=
    hsplit ▸ List.mem_append_left _ hq
  have hr' : r ∈ TLE.satellites defaultName ignoreUnknown tles :=
    hsplit ▸ List.mem_append_right _ List.mem_cons_self
  rw [hcounter q hq', hcounter r hr', List.append_cancel_left_eq] at hname
  refine ⟨q, List.mem_append_left _ hq, ?_, UInt32.le_refl _⟩
  have hnames : ∀ c : Constellation, c.name ≠ defaultName := fun c hc =>
    hdefault (hc ▸ List.mem_map_of_mem (by cases c <;> decide))
  cases hqc : q.1.counter with
  | none =>
    cases hrc : r.1.counter with
    | none => rfl
    | some c =>
      rw [hqc, hrc] at hname
      exact absurd hname.symm (hnames c)
  | some c =>
    cases hrc : r.1.counter with
    | none =>
      rw [hqc, hrc] at hname
      exact absurd hname (hnames c)
    | some c' =>
      rw [hqc, hrc] at hname
      have hsame : c.name = c'.name := hname
      rw [← ofName_name c, hsame, ofName_name]

def starlink1055 : TLE :=
  { starlink1007 with satellite_name := ⟨"STARLINK-1055".toList, by decide⟩ }

def starlink1032 : TLE :=
  { starlink1007 with satellite_name := ⟨"STARLINK-1032".toList, by decide⟩ }

/-- Three satellites of one vector, the last one with a number below the size, and a satellite
without a constellation in between. -/
theorem sizes_large_enough_starlink :
    (TleFile.instantiateAll (instantiateSatellite strictSimulation (fun _ => '?'))
      [starlink1007, iridium33B, starlink1055, starlink1032]
      (initial "space_veins.nodes.Satellite" "Satellite".toList false)).1.created.map
        (fun r => (r.satNum, r.vectorSize)) =
      [(1007, 1008), (33776, 33777), (1055, 1056), (1032, 1056)] ∧
    LargeEnough (TleFile.instantiateAll (instantiateSatellite strictSimulation (fun _ => '?'))
      [starlink1007, iridium33B, starlink1055, starlink1032]
      (initial "space_veins.nodes.Satellite" "Satellite".toList false)).1.created :=
  ⟨by decide +kernel,
    (sizes_large_enough_iff strictSimulation (fun _ => '?') (by decide +kernel)).mpr
      ⟨by decide +kernel, covered_of_default (by decide)⟩⟩

def starlink4294967295 : TLE :=
  { starlink1007 with satellite_name := ⟨"STARLINK-4294967295".toList, by decide⟩ }

/-- One more than the number is zero. -/
theorem starlink_4294967295_not_below_size :
    (TleFile.instantiateAll (instantiateSatellite strictSimulation (fun _ => '?'))
      [starlink4294967295] defaultInserter).2 = none ∧
    ¬ LargeEnough (TleFile.instantiateAll (instantiateSatellite strictSimulation (fun _ => '?'))
      [starlink4294967295] defaultInserter).1.created := by
  refine ⟨by decide +kernel, fun hlarge => ?_⟩
  have hown := hlarge.own
  revert hown
  decide +kernel

end SatelliteInserter
end SpaceVeins
