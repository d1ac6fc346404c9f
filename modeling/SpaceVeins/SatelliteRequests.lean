import Mathlib.Data.List.Pairwise
import SpaceVeins.SatelliteModules
import SpaceVeins.TleFile

/-!
# The requests for a whole TLE file

The submodules asked for are those of the satellites in the file, in their order,
up to the first one that ends the simulation. One of them is asked for twice if
and only if two satellites share it.
-/

set_option autoImplicit false

namespace SpaceVeins
open CxxString

namespace TLE

/-- Satellites with different catalog numbers share a submodule only by colliding. -/
theorem target_eq_iff_collide {defaultName : List Char} {ignoreUnknown : Bool} {tle other : TLE}
    (hcatalog : ∀ n, tle.catalog = some n → other.catalog ≠ some n) :
    (∃ x, tle.target defaultName ignoreUnknown = some x ∧
      other.target defaultName ignoreUnknown = some x) ↔
      Collide defaultName ignoreUnknown tle other := by
  constructor
  · rintro ⟨x, hx, hother⟩
    unfold target at hx hother
    split at hx
    · rename_i hcreated
      split at hother
      · rename_i hcreated'
        obtain ⟨n, hn, rfl⟩ := Option.map_eq_some_iff.mp hx
        obtain ⟨m, hm, hxm⟩ := Option.map_eq_some_iff.mp hother
        obtain ⟨hvector, rfl⟩ := Prod.mk.inj hxm
        refine ⟨?_, ⟨hcreated, hcreated'⟩, (List.append_cancel_left hvector).symm, m, hn, hm⟩
        by_contra hunknown
        rw [not_or] at hunknown
        rw [index, if_neg hunknown.1] at hn
        rw [index, if_neg hunknown.2] at hm
        exact hcatalog m hn hm
      · cases hother
    · cases hx
  · rintro ⟨-, ⟨hcreated, hcreated'⟩, hvector, n, hn, hm⟩
    refine ⟨("leo".toList ++ tle.vector defaultName, n), ?_, ?_⟩
    · rw [target, if_pos hcreated, hn]
      rfl
    · rw [target, if_pos hcreated', hm, hvector]
      rfl

/-- Without a satellite vector under the name of a constellation, only satellites of one
constellation collide. -/
theorem collide_iff {defaultName : List Char} {ignoreUnknown : Bool} {tle other : TLE}
    (hdefault : defaultName ∉ Constellation.all.map Constellation.name) :
    Collide defaultName ignoreUnknown tle other ↔
      tle.IsKnown ∧ tle.constellation = other.constellation ∧
        ∃ n, tle.number = some n ∧ other.number = some n := by
  constructor
  · rintro ⟨hknown, -, hvector, n, hn, hm⟩
    by_cases htle : tle.IsKnown
    · by_cases hother : other.IsKnown
      · rw [vector, if_pos htle, vector, if_pos hother] at hvector
        rw [index, if_pos htle] at hn
        rw [index, if_pos hother] at hm
        exact ⟨htle, hvector, n, hn, hm⟩
      · rw [vector, if_pos htle, vector, if_neg hother] at hvector
        exact absurd (hvector ▸ htle) hdefault
    · have hother := hknown.resolve_left htle
      rw [vector, if_neg htle, vector, if_pos hother] at hvector
      exact absurd (hvector ▸ hother) hdefault
  · rintro ⟨htle, hconstellation, n, hn, hm⟩
    have hother : other.IsKnown := by
      unfold IsKnown at htle ⊢
      rwa [← hconstellation]
    refine ⟨Or.inl htle, ⟨Or.inl htle, Or.inl hother⟩, ?_, n, ?_, ?_⟩
    · rw [vector, if_pos htle, vector, if_pos hother, hconstellation]
    · rw [index, if_pos htle, hn]
    · rw [index, if_pos hother, hm]

end TLE

namespace SatelliteInserter

/-- The submodules asked for so far. -/
def requested (inserter : SatelliteInserter) : List (List Char × UInt32) :=
  inserter.created.map CreateRequest.target

/-- The submodule that a satellite gets. -/
def submodule (inserter : SatelliteInserter) (tle : TLE) : Option (List Char × UInt32) :=
  tle.target inserter.satelliteModuleDefaultName inserter.ignoreUnknownSatellites

variable (sim : Simulation) (stray : Nat → Char)

@[simp] theorem createSatellite_requested (tle : TLE) (satNum vectorSize : UInt32)
    (constellation : List Char) (inserter : SatelliteInserter) :
    (createSatellite sim tle satNum vectorSize constellation inserter).1.requested =
      inserter.requested ++ [("leo".toList ++ constellation, satNum)] := by
  simp [createSatellite, requested, CreateRequest.target, CreateRequest.moduleName]

@[simp] theorem createSatellite_submodule (tle : TLE) (satNum vectorSize : UInt32)
    (constellation : List Char) (inserter : SatelliteInserter) :
    (createSatellite sim tle satNum vectorSize constellation inserter).1.submodule =
      inserter.submodule := rfl

theorem instantiateUnknown_submodule (tle : TLE) (inserter : SatelliteInserter) :
    (inserter.instantiateUnknown sim tle).1.submodule = inserter.submodule := by
  unfold instantiateUnknown
  generalize catalogNumber tle = catalog
  cases catalog with
  | error e => rfl
  | ok satNum => rfl

theorem instantiateSatellite_submodule (tle : TLE) (inserter : SatelliteInserter) :
    (inserter.instantiateSatellite sim stray tle).1.submodule = inserter.submodule := by
  rw [instantiateSatellite]
  generalize getConstellationAndSatNum stray tle = parsed
  cases parsed with
  | error e => rfl
  | ok satellite =>
    obtain ⟨constellation, satNum⟩ := satellite
    rw [instantiateParsed]
    generalize Constellation.ofName constellation = found
    cases found with
    | some c => rfl
    | none =>
      cases hignore : inserter.ignoreUnknownSatellites with
      | true => rfl
      | false => exact instantiateUnknown_submodule sim tle inserter

theorem ofName_eq_some {constellation : List Char} {c : Constellation}
    (h : Constellation.ofName constellation = some c) :
    c.name = constellation ∧ constellation ∈ Constellation.all.map Constellation.name := by
  have hname : c.name = constellation := by simpa using List.find?_some h
  exact ⟨hname, hname ▸ List.mem_map_of_mem (List.mem_of_find?_eq_some h)⟩

theorem ofName_eq_none {constellation : List Char} (h : Constellation.ofName constellation = none) :
    constellation ∉ Constellation.all.map Constellation.name := by
  intro hmem
  obtain ⟨c, hc, hname⟩ := List.mem_map.mp hmem
  exact absurd (List.find?_eq_none.mp h c hc) (by simp [hname])

theorem submodule_of_known {tle : TLE} {n : UInt32} (inserter : SatelliteInserter)
    (hknown : tle.IsKnown) (hnumber : tle.number = some n) :
    inserter.submodule tle = some ("leo".toList ++ tle.constellation, n) := by
  have hcreated : tle.IsCreated inserter.ignoreUnknownSatellites := Or.inl hknown
  rw [submodule, TLE.target, if_pos hcreated, TLE.index, if_pos hknown, hnumber, TLE.vector,
    if_pos hknown]
  rfl

theorem instantiateUnknown_requested {tle : TLE} {inserter : SatelliteInserter}
    (hunknown : ¬ tle.IsKnown) (hignore : inserter.ignoreUnknownSatellites = false) :
    (inserter.instantiateUnknown sim tle).1.requested =
        inserter.requested ++ (inserter.submodule tle).toList ∨
      (inserter.instantiateUnknown sim tle).1.requested = inserter.requested ∧
        ∃ e, (inserter.instantiateUnknown sim tle).2 = some (.exception e) := by
  have hsubmodule : inserter.submodule tle = tle.catalog.map fun n =>
      ("leo".toList ++ inserter.satelliteModuleDefaultName, n) := by
    have hcreated : tle.IsCreated inserter.ignoreUnknownSatellites := Or.inr hignore
    rw [submodule, TLE.target, if_pos hcreated, TLE.index, if_neg hunknown, TLE.vector,
      if_neg hunknown]
  rw [hsubmodule, TLE.catalog]
  unfold instantiateUnknown
  generalize catalogNumber tle = catalog
  cases catalog with
  | error e => exact Or.inr ⟨rfl, e, rfl⟩
  | ok satNum => exact Or.inl (createSatellite_requested ..)

theorem instantiateSatellite_requested (tle : TLE) (inserter : SatelliteInserter) :
    (inserter.instantiateSatellite sim stray tle).1.requested =
        inserter.requested ++ (inserter.submodule tle).toList ∨
      (inserter.instantiateSatellite sim stray tle).1.requested = inserter.requested ∧
        ∃ e, (inserter.instantiateSatellite sim stray tle).2 = some (.exception e) := by
  rw [instantiateSatellite]
  cases hparse : getConstellationAndSatNum stray tle with
  | error e => exact Or.inr ⟨rfl, e, rfl⟩
  | ok satellite =>
    obtain ⟨hknown, hnumber⟩ := known_of_ok stray hparse
    obtain ⟨constellation, satNum⟩ := satellite
    rw [instantiateParsed]
    cases hfound : Constellation.ofName constellation with
    | some c =>
      obtain ⟨hname, hmem⟩ := ofName_eq_some hfound
      have hisKnown := hknown.mp hmem
      obtain ⟨hconstellation, hnum⟩ := hnumber hisKnown
      left
      rw [submodule_of_known inserter hisKnown hnum, ← hconstellation, ← hname]
      exact createSatellite_requested ..
    | none =>
      have hunknown : ¬ tle.IsKnown := mt hknown.mpr (ofName_eq_none hfound)
      cases hignore : inserter.ignoreUnknownSatellites with
      | true =>
        left
        simp [submodule, TLE.target, TLE.IsCreated, hunknown, hignore]
      | false => simpa using instantiateUnknown_requested sim hunknown hignore

theorem filterMap_cons_eq {α β : Type} (f : α → Option β) (a : α) (l : List α) :
    (a :: l).filterMap f = (f a).toList ++ l.filterMap f := by
  rw [List.filterMap_cons]
  cases f a with
  | none => rfl
  | some b => rfl

theorem instantiateAll_requested (tles : List TLE) (inserter : SatelliteInserter) :
    ∃ handled, handled <+: tles ∧
      ((TleFile.instantiateAll (instantiateSatellite sim stray) tles inserter).2 = none →
        handled = tles) ∧
      (TleFile.instantiateAll (instantiateSatellite sim stray) tles inserter).1.requested =
        inserter.requested ++ handled.filterMap inserter.submodule := by
  induction tles generalizing inserter with
  | nil => exact ⟨[], List.prefix_rfl, fun _ => rfl, (List.append_nil _).symm⟩
  | cons tle tles ih =>
    rw [TleFile.instantiateAll]
    have hsubmodule := instantiateSatellite_submodule sim stray tle inserter
    have hrequested := instantiateSatellite_requested sim stray tle inserter
    generalize inserter.instantiateSatellite sim stray tle = result at hsubmodule hrequested ⊢
    obtain ⟨next, error⟩ := result
    cases error with
    | some e =>
      rcases hrequested with hhandled | ⟨hunread, -⟩
      · refine ⟨[tle], (List.prefix_cons_inj tle).mpr List.nil_prefix, fun h => (by cases h), ?_⟩
        rw [filterMap_cons_eq, List.filterMap_nil, List.append_nil]
        exact hhandled
      · refine ⟨[], List.nil_prefix, fun h => (by cases h), ?_⟩
        rw [List.filterMap_nil, List.append_nil]
        exact hunread
    | none =>
      have hhandled : next.requested = inserter.requested ++ (inserter.submodule tle).toList := by
        rcases hrequested with hhandled | ⟨-, e, he⟩
        · exact hhandled
        · cases he
      have hkept : next.submodule = inserter.submodule := hsubmodule
      obtain ⟨handled, hstart, hall, hrest⟩ := ih next
      refine ⟨tle :: handled, (List.prefix_cons_inj tle).mpr hstart, fun h => by rw [hall h], ?_⟩
      rw [TleFile.andThen, hrest, hhandled, hkept, List.append_assoc, filterMap_cons_eq]

theorem checkComplete_requested (n : Nat) (result : SatelliteInserter × Option InserterError) :
    (TleFile.andThen (TleFile.checkComplete n) result).1 = result.1 ∧
      ((TleFile.andThen (TleFile.checkComplete n) result).2 = none → result.2 = none) := by
  obtain ⟨inserter, error⟩ := result
  cases error with
  | some e => exact ⟨rfl, id⟩
  | none =>
    refine ⟨?_, fun _ => rfl⟩
    rw [TleFile.andThen, TleFile.checkComplete]
    split <;> rfl

/-- One submodule is asked for twice if and only if two of the satellites handled collide. -/
theorem modules_distinct_iff (satelliteModuleType : String)
    (satelliteModuleDefaultName : List Char) (ignoreUnknownSatellites : Bool)
    (tleFile : List Char)
    (hcatalog : (TLE.ofLines (getlines tleFile)).Pairwise fun tle other =>
      ∀ n, tle.catalog = some n → other.catalog ≠ some n) :
    let result := parseTleFile sim stray tleFile
      (initial satelliteModuleType satelliteModuleDefaultName ignoreUnknownSatellites)
    ∃ handled, handled <+: TLE.ofLines (getlines tleFile) ∧
      (result.2 = none → handled = TLE.ofLines (getlines tleFile)) ∧
      result.1.requested =
        handled.filterMap (TLE.target satelliteModuleDefaultName ignoreUnknownSatellites) ∧
      (result.1.requested.Nodup ↔ handled.Pairwise fun tle other =>
        ¬ TLE.Collide satelliteModuleDefaultName ignoreUnknownSatellites tle other) := by
  intro result
  have hresult : result = TleFile.andThen (TleFile.checkComplete (getlines tleFile).length)
      (TleFile.instantiateAll (instantiateSatellite sim stray) (TLE.ofLines (getlines tleFile))
        (initial satelliteModuleType satelliteModuleDefaultName ignoreUnknownSatellites)) :=
    TleFile.parse_eq _ _ _
  obtain ⟨handled, hstart, hall, hrequested⟩ := instantiateAll_requested sim stray
    (TLE.ofLines (getlines tleFile))
    (initial satelliteModuleType satelliteModuleDefaultName ignoreUnknownSatellites)
  have hcheck := checkComplete_requested (getlines tleFile).length
    (TleFile.instantiateAll (instantiateSatellite sim stray) (TLE.ofLines (getlines tleFile))
      (initial satelliteModuleType satelliteModuleDefaultName ignoreUnknownSatellites))
  rw [← hresult] at hcheck
  have hmodules : result.1.requested =
      handled.filterMap (TLE.target satelliteModuleDefaultName ignoreUnknownSatellites) := by
    rw [hcheck.1, hrequested]
    rfl
  refine ⟨handled, hstart, fun h => hall (hcheck.2 h), hmodules, ?_⟩
  rw [hmodules, List.Nodup, List.pairwise_filterMap]
  have hdistinct := hcatalog.sublist hstart.sublist
  constructor
  · intro h
    refine (h.and hdistinct).imp fun {tle other} hpair hcollide => ?_
    obtain ⟨x, hx, hother⟩ := (TLE.target_eq_iff_collide hpair.2).mpr hcollide
    exact hpair.1 x hx x hother rfl
  · intro h
    refine (h.and hdistinct).imp fun {tle other} hpair x hx y hy hxy => ?_
    exact hpair.1 ((TLE.target_eq_iff_collide hpair.2).mp ⟨x, hx, hxy ▸ hy⟩)

/-- A simulation that refuses to create a submodule again. -/
def strictSimulation : Simulation where
  parentModuleFound := true
  moduleTypeFound := true
  create := fun created request =>
    if request.target ∈ created.map CreateRequest.target then some "submodule already exists"
    else none

def defaultInserter : SatelliteInserter :=
  initial "space_veins.nodes.Satellite" "Satellite".toList true

def iridium33 : List Char :=
  "IRIDIUM 33\n".toList ++
    "1 24946U 97051C   22053.49531250".toList ++ "  .00000123  00000-0  35915-4 0  9993\n".toList ++
    "2 24946  86.3891 211.1562 0007546".toList ++ " 124.3520 235.8402 14.34216969279501\n".toList

def iridium33Debris : List Char :=
  "IRIDIUM 33 DEB\n".toList ++
    "1 33776U 97051S   22053.51027778".toList ++ "  .00000211  00000-0  67321-4 0  9995\n".toList ++
    "2 33776  86.3672 199.4410 0012340".toList ++ " 101.2030 259.0531 14.36412345678901\n".toList

def globalstar : List Char :=
  "GLOBALSTAR [-]\n".toList ++
    "1 25162U 98008A   22053.40125000".toList ++ " -.00000097  00000-0  00000-0 0  9991\n".toList ++
    "2 25162  51.9990 125.4370 0001201".toList ++ "  92.5510 267.5601 12.62263409104321\n".toList

/-- A satellite and a piece of debris of it have different names and different catalog numbers,
but one number behind one constellation. -/
theorem iridium_33_debris_collides :
    ((TLE.ofLines (getlines (iridium33 ++ iridium33Debris))).map fun tle =>
      tle.satellite_name.chars) = ["IRIDIUM 33".toList, "IRIDIUM 33 DEB".toList] ∧
    (TLE.ofLines (getlines (iridium33 ++ iridium33Debris))).map TLE.catalog =
      [some 24946, some 33776] ∧
    ¬ (parseTleFile strictSimulation (fun _ => '\x00') (iridium33 ++ iridium33Debris)
      defaultInserter).1.requested.Nodup := by
  decide +kernel

theorem iridium_33_and_globalstar :
    (TLE.ofLines (getlines (iridium33 ++ globalstar))).map (fun tle =>
      (tle.catalog, tle.vector "Satellite".toList)) =
      [(some 24946, "IRIDIUM".toList), (some 25162, "GLOBALSTAR".toList)] := by
  decide +kernel

theorem modules_distinct_two_constellations :
    (parseTleFile strictSimulation (fun _ => '\x00') (iridium33 ++ globalstar)
      defaultInserter).1.requested.Nodup := by
  have hpair : (TLE.ofLines (getlines (iridium33 ++ globalstar))).Pairwise fun tle other =>
      (∀ n, tle.catalog = some n → other.catalog ≠ some n) ∧
        tle.vector "Satellite".toList ≠ other.vector "Satellite".toList := by
    have h : ((TLE.ofLines (getlines (iridium33 ++ globalstar))).map fun tle =>
        (tle.catalog, tle.vector "Satellite".toList)).Pairwise fun x y =>
          (∀ n, x.1 = some n → y.1 ≠ some n) ∧ x.2 ≠ y.2 := by
      rw [iridium_33_and_globalstar]
      simp
    exact List.pairwise_map.mp h
  obtain ⟨handled, hstart, -, -, hiff⟩ := modules_distinct_iff strictSimulation (fun _ => '\x00')
    "space_veins.nodes.Satellite" "Satellite".toList true (iridium33 ++ globalstar)
    (hpair.imp fun h => h.1)
  exact hiff.mpr ((hpair.sublist hstart.sublist).imp fun h hcollide =>
    h.2 hcollide.same_vector)

end SatelliteInserter
end SpaceVeins
