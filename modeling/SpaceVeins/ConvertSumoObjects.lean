import Mathlib.Order.Bounds.Basic
import SpaceVeins.Shared.Python
import SpaceVeins.SatelliteObservationPoint

/-!
# The conversion of buildings

A script reads the polygons that belong to a road network and writes them as
objects of the simulation. Between its steps the corners of a building are one
list of numbers, in which the coordinates alternate. The file that is written
has the texts of the numbers that are kept here.
-/

set_option autoImplicit false

namespace SpaceVeins
open Python

namespace ConvertSumoObjects

/-- What the script reads of a `poly` element. -/
structure Poly where
  id : String
  type : String
  shape : List Char

def shapesOfBuildings (shapes : List Poly) : Dict (List Char) :=
  shapes.foldl (fun temp items =>
    if items.type = "building" then temp.insert items.id items.shape else temp) Dict.empty

section
variable {K : Type} (float : List Char → Except PyException K)

def objectCoords (temp : Dict (List Char)) : Except PyException (Dict (List K)) := do
  let temp_list := temp.map words
  let coordList_string := temp_list.map fun values => values.flatMap fun value => value.splitOn ','
  let coordList ← coordList_string.mapM fun values => values.mapM float
  coordList.mapM fun coords => do
    let coords ← pop coords
    pop coords

end

variable {K : Type} [Field K]

/-- The body of the loop of `transformCoords`. -/
def transformed (topLeft dimensions : K × K) (margin : K) (coords : List K) : List K :=
  coords.mapIdx fun i coord =>
    if i % 2 = 0 then coord - topLeft.1 + margin
    else dimensions.2 - (coord - topLeft.2) + margin

def transformCoords (coordList : Dict (List K)) (topLeft dimensions : K × K) (margin : K) :
    Dict (List K) :=
  coordList.map (transformed topLeft dimensions margin)

/-- The attributes of an `object` element. -/
structure ObjectElement (K : Type) where
  id : String
  material : String
  lineColor : K × K × K
  opacity : String
  position : K × K × K
  height : K
  prism : List K

section
variable [LinearOrder K]

def smaller (minCoord : K × K) (object : K × Nat) : K × K :=
  if object.2 % 2 ≠ 0 then
    if object.1 < minCoord.2 then (minCoord.1, object.1) else minCoord
  else
    if object.1 < minCoord.1 then (object.1, minCoord.2) else minCoord

def findMinCoord (objects : List K) : K × K × K :=
  let minCoord := objects.zipIdx.foldl smaller (5000000000, 5000000000)
  (minCoord.1, minCoord.2, 0)

def writeFile (finalCoordList : Dict (List K)) (material : String) (color : K × K × K)
    (height : K) : List (ObjectElement K) :=
  finalCoordList.items.map fun objects =>
    { id := objects.1, material := material, lineColor := color, opacity := "0.8",
      position := findMinCoord objects.2, height := height, prism := objects.2 }

/-- The script, from the boundary of the network and the polygons on. -/
def convert (float : List Char → Except PyException K) (shapes : List Poly)
    (topLeft bottomRight : K × K) (margin : K) (material : String) (color : K × K × K)
    (height : K) : Except PyException (List (ObjectElement K)) := do
  let dimensions := (bottomRight.1 - topLeft.1, bottomRight.2 - topLeft.2)
  let coordList ← objectCoords float (shapesOfBuildings shapes)
  let newCoordList := transformCoords coordList topLeft dimensions margin
  pure (writeFile newCoordList material color height)

end

/-- The list in which the coordinates of points alternate. -/
def flattened (points : List (K × K)) : List K := points.flatMap fun p => [p.1, p.2]

omit [Field K] in
@[simp] theorem flattened_nil : flattened ([] : List (K × K)) = [] := rfl

omit [Field K] in
@[simp] theorem flattened_cons (p : K × K) (points : List (K × K)) :
    flattened (p :: points) = p.1 :: p.2 :: flattened points := rfl

omit [Field K] in
theorem flattened_append (points points' : List (K × K)) :
    flattened (points ++ points') = flattened points ++ flattened points' :=
  List.flatMap_append

omit [Field K] in
theorem length_flattened (points : List (K × K)) :
    (flattened points).length = 2 * points.length := by
  induction points with
  | nil => rfl
  | cons p points ih =>
    rw [flattened_cons, List.length_cons, List.length_cons, ih, List.length_cons]
    omega

theorem transformed_flattened (t : TraCICoordinateTransformation K) (points : List (TraCICoord K)) :
    transformed t.topleft.pair t.dimensions.pair t.margin (flattened (points.map TraCICoord.pair)) =
      flattened (points.map fun p => (t.traci2omnet p).pair) := by
  induction points with
  | nil => rfl
  | cons p points ih =>
    -- two positions further on, the parity is the same
    have hparity : ∀ i, (i + 1 + 1) % 2 = i % 2 := fun i => by omega
    rw [transformed] at ih
    rw [List.map_cons, List.map_cons, flattened_cons, flattened_cons, ← ih, transformed,
      List.mapIdx_cons, List.mapIdx_cons]
    simp only [hparity]
    rfl

/-! The change of coordinates. -/

section
variable [LinearOrder K] [FloorRing K]

/-- The change of coordinates of the observation point. -/
def transformation (net : SumoNet K) : TraCICoordinateTransformation K :=
  ⟨net.convBoundary.1, net.convBoundary.2, net.margin⟩

/-- A point of the projection, moved into the network. -/
def moved (q netOffset : TraCICoord K) : TraCICoord K := ⟨q.x + netOffset.x, q.y + netOffset.y⟩

theorem initial_transformation {lib : ProjLibrary K} {net : SumoNet K} {position : Coord K}
    {m : SatelliteObservationPoint K}
    (h : SatelliteObservationPoint.initial lib net position = .ok m) :
    m.coordinateTransformation = transformation net ∧ m.netOffset = net.netOffset := by
  unfold SatelliteObservationPoint.initial at h
  split at h
  · cases h
  · split at h
    · cases h
    · cases h
      exact ⟨rfl, rfl⟩

omit [LinearOrder K] [FloorRing K] in
theorem moved_omnet2UTM (m : SatelliteObservationPoint K) (c : Coord K) :
    moved (m.omnet2UTM c) m.netOffset = m.coordinateTransformation.omnet2traci c := by
  simp only [moved, SatelliteObservationPoint.omnet2UTM, sub_add_cancel]

/-- The script maps lists of points as the module does, and the observation point takes a point of
the plane back to where it comes from. -/
theorem coordinate_changes_agree {lib : ProjLibrary K} {net : SumoNet K} {position : Coord K}
    {m : SatelliteObservationPoint K}
    (h : SatelliteObservationPoint.initial lib net position = .ok m) :
    (∀ (t : TraCICoordinateTransformation K) (coordList : Dict (List (TraCICoord K))),
      transformCoords (coordList.map fun points => flattened (points.map TraCICoord.pair))
          t.topleft.pair t.dimensions.pair t.margin =
        coordList.map fun points => flattened (points.map fun p => (t.traci2omnet p).pair)) ∧
    (∀ q, m.omnet2UTM ((transformation net).traci2omnet (moved q net.netOffset)) = q) ∧
    ∀ c, (transformation net).traci2omnet (moved (m.omnet2UTM c) net.netOffset) =
      { c with z := 0 } := by
  obtain ⟨htransformation, hoffset⟩ := initial_transformation h
  refine ⟨?_, ?_, ?_⟩
  · intro t coordList
    apply Dict.ext
    simp only [transformCoords, Dict.map, List.map_map, Function.comp_def, transformed_flattened]
  · intro q
    rw [SatelliteObservationPoint.omnet2UTM, htransformation, hoffset,
      TraCICoordinateTransformation.omnet2traci_traci2omnet]
    simp only [moved, add_sub_cancel_right]
  · intro c
    rw [← hoffset, moved_omnet2UTM, htransformation,
      TraCICoordinateTransformation.traci2omnet_omnet2traci]

end

theorem coordinate_changes_agree_off_origin :
    ∃ m, SatelliteObservationPoint.initial
        (SatelliteObservationPoint.libraryAt ⟨4158000, 763000, 4757000, 0⟩)
        ⟨"EPSG:32632", (⟨100, 200⟩, ⟨1100, 1700⟩), ⟨-3, 7⟩, 25⟩ (⟨500, 500, 0⟩ : Coord ℚ) = .ok m ∧
      ∀ q, m.omnet2UTM ((transformation
          ⟨"EPSG:32632", (⟨100, 200⟩, ⟨1100, 1700⟩), ⟨-3, 7⟩, 25⟩).traci2omnet
          (moved q ⟨-3, 7⟩)) = q := by
  obtain ⟨m, h, -⟩ := SatelliteObservationPoint.libraryAt_initial
    (⟨4158000, 763000, 4757000, 0⟩ : PJ_COORD ℚ)
    ⟨"EPSG:32632", (⟨100, 200⟩, ⟨1100, 1700⟩), ⟨-3, 7⟩, 25⟩ ⟨500, 500, 0⟩
  exact ⟨m, h, (coordinate_changes_agree h).2.1⟩

/-! The outlines of buildings. -/

/-- A word of a shape, and the corner it writes. -/
def Writes (float : List Char → Except PyException K) (word : List Char) (corner : TraCICoord K) :
    Prop :=
  ∃ x y, word = x ++ ',' :: y ∧ ',' ∉ x ∧ ',' ∉ y ∧ float x = .ok corner.x ∧
    float y = .ok corner.y

/-- A building of the file: an outline is closed if its first corner comes again at the end. -/
structure Outline (float : List Char → Except PyException K) where
  id : String
  shape : List Char
  corners : List (TraCICoord K)
  closed : Bool
  distinct : corners.Nodup
  size : 3 ≤ corners.length
  written : List.Forall₂ (Writes float) (words shape)
    (if closed then corners ++ corners.take 1 else corners)

namespace Outline
variable {float : List Char → Except PyException K}

def poly (o : Outline float) : Poly := ⟨o.id, "building", o.shape⟩

/-- What is left of an outline without its last point. -/
def kept (o : Outline float) : List (TraCICoord K) :=
  if o.closed then o.corners else o.corners.dropLast

omit [Field K] in
theorem exists_kept_concat (o : Outline float) :
    ∃ last, (if o.closed then o.corners ++ o.corners.take 1 else o.corners) = o.kept ++ [last] := by
  have hsize := o.size
  cases hclosed : o.closed with
  | true =>
    obtain ⟨first, rest, hcorners⟩ := List.exists_cons_of_length_pos (l := o.corners) (by omega)
    refine ⟨first, ?_⟩
    rw [kept, hclosed, hcorners]
    rfl
  | false =>
    have hne : o.corners ≠ [] := List.ne_nil_of_length_pos (by omega)
    refine ⟨o.corners.getLast hne, ?_⟩
    rw [kept, hclosed]
    exact (List.dropLast_append_getLast hne).symm

omit [Field K] in
theorem kept_eq_corners_iff (o : Outline float) :
    o.kept.length = o.corners.length ↔ o.closed = true := by
  have hsize := o.size
  cases hclosed : o.closed with
  | true => simp [kept, hclosed]
  | false =>
    simp only [kept, hclosed, Bool.false_eq_true, if_false, List.length_dropLast, iff_false]
    omega

end Outline

section
variable {float : List Char → Except PyException K}

omit [Field K] in
theorem splitOn_word {x y : List Char} (hx : ',' ∉ x) (hy : ',' ∉ y) :
    (x ++ ',' :: y).splitOn ',' = [x, y] := by
  have hparts : [','].intercalate [x, y] = x ++ ',' :: y := by simp [List.intercalate]
  rw [← hparts]
  exact List.splitOn_intercalate ',' (by simp [hx, hy]) (List.cons_ne_nil _ _)

omit [Field K] in
theorem mapM_float {ws : List (List Char)} {corners : List (TraCICoord K)}
    (h : List.Forall₂ (Writes float) ws corners) :
    (ws.flatMap fun value => value.splitOn ',').mapM float =
      .ok (flattened (corners.map TraCICoord.pair)) := by
  induction h with
  | nil => rfl
  | @cons word corner ws corners hword _ ih =>
    obtain ⟨x, y, rfl, hx, hy, hfloatx, hfloaty⟩ := hword
    rw [List.flatMap_cons, splitOn_word hx hy, List.cons_append, List.cons_append, List.nil_append,
      List.mapM_cons, List.mapM_cons, hfloatx, hfloaty, ih]
    rfl

omit [Field K] in
theorem pop_pop_flattened (points : List (K × K)) (last : K × K) :
    (do
      let coords ← pop (flattened (points ++ [last]))
      pop coords) = .ok (flattened points) := by
  have hsplit : flattened (points ++ [last]) = flattened points ++ [last.1] ++ [last.2] := by
    rw [flattened_append, List.append_assoc]
    rfl
  rw [hsplit, pop_concat, ok_bind, pop_concat]

omit [Field K] in
theorem shapesOfBuildings_eq {shapes : List Poly} {outlines : List (Outline float)}
    (hids : (outlines.map Outline.id).Nodup)
    (hshapes : shapes.filter (·.type = "building") = outlines.map Outline.poly) :
    shapesOfBuildings shapes = Dict.tabulate outlines Outline.id Outline.shape hids := by
  have hfilter : shapesOfBuildings shapes = (shapes.filter (·.type = "building")).foldl
      (fun temp items => temp.insert items.id items.shape) Dict.empty := by
    simp only [shapesOfBuildings, List.foldl_filter, decide_eq_true_eq]
  rw [hfilter, hshapes, List.foldl_map, ← Dict.foldl_insert hids]
  rfl

omit [Field K] in
theorem objectCoords_eq {outlines : List (Outline float)} (hids : (outlines.map Outline.id).Nodup) :
    objectCoords float (Dict.tabulate outlines Outline.id Outline.shape hids) =
      .ok (Dict.tabulate outlines Outline.id
        (fun o => flattened (o.kept.map TraCICoord.pair)) hids) := by
  unfold objectCoords
  simp only [Dict.map_tabulate]
  rw [Dict.mapM_tabulate fun o _ => mapM_float o.written, ok_bind]
  apply Dict.mapM_tabulate
  intro o _
  obtain ⟨last, hlast⟩ := o.exists_kept_concat
  rw [hlast, List.map_append]
  exact pop_pop_flattened _ _

end

section
variable [LinearOrder K]

omit [Field K] in
theorem foldl_min_le_start (l : List K) : ∀ start, l.foldl min start ≤ start := by
  induction l with
  | nil => exact fun start => le_rfl
  | cons a l ih => exact fun start => (ih (min start a)).trans (min_le_left start a)

omit [Field K] in
theorem foldl_min_le_mem {l : List K} {a : K} (ha : a ∈ l) : ∀ start, l.foldl min start ≤ a := by
  induction l with
  | nil => simp at ha
  | cons b l ih =>
    intro start
    rcases List.mem_cons.mp ha with rfl | hmem
    · exact (foldl_min_le_start l _).trans (min_le_right start a)
    · exact ih hmem _

omit [Field K] in
theorem foldl_min_mem (l : List K) :
    ∀ start, l.foldl min start = start ∨ l.foldl min start ∈ l := by
  induction l with
  | nil => exact fun start => .inl rfl
  | cons a l ih =>
    intro start
    rcases ih (min start a) with hstart | hmem
    · rw [List.foldl_cons, hstart]
      rcases min_choice start a with h | h
      · exact .inl h
      · rw [h]
        exact .inr List.mem_cons_self
    · exact .inr (List.mem_cons_of_mem a hmem)

omit [Field K] in
/-- The search finds the least element exactly if its start is not below all of them. -/
theorem isLeast_foldl_min_iff (l : List K) (start : K) :
    IsLeast {a | a ∈ l} (l.foldl min start) ↔ ∃ a ∈ l, a ≤ start := by
  constructor
  · rintro ⟨hmem, -⟩
    exact ⟨_, hmem, foldl_min_le_start l start⟩
  · rintro ⟨a, ha, hle⟩
    refine ⟨?_, fun b hb => foldl_min_le_mem hb start⟩
    rcases foldl_min_mem l start with hstart | hmem
    · have heq : a = start := le_antisymm hle (hstart ▸ foldl_min_le_mem ha start)
      rw [hstart, ← heq]
      exact ha
    · exact hmem

omit [Field K] in
/-- The minima of both coordinates are searched for in one loop. -/
theorem foldl_smaller (points : List (K × K)) : ∀ i minCoord, i % 2 = 0 →
    ((flattened points).zipIdx i).foldl smaller minCoord =
      ((points.map Prod.fst).foldl min minCoord.1, (points.map Prod.snd).foldl min minCoord.2) := by
  have hmin : ∀ m c : K, (if c < m then c else m) = min m c := by
    intro m c
    rcases lt_or_ge c m with h | h
    · rw [if_pos h, min_eq_right h.le]
    · rw [if_neg h.not_gt, min_eq_left h]
  induction points with
  | nil => exact fun i minCoord _ => rfl
  | cons p points ih =>
    intro i minCoord hi
    have hx : smaller minCoord (p.1, i) = (min minCoord.1 p.1, minCoord.2) := by
      simp only [smaller, hi, ne_eq, not_true_eq_false, if_false, ← hmin]
      split <;> rfl
    have hy : ∀ m : K × K, smaller m (p.2, i + 1) = (m.1, min m.2 p.2) := by
      intro m
      simp only [smaller, show (i + 1) % 2 = 1 by omega, ne_eq, one_ne_zero, not_false_eq_true,
        if_true, ← hmin]
      split <;> rfl
    rw [flattened_cons, List.zipIdx_cons, List.zipIdx_cons, List.foldl_cons, List.foldl_cons, hx,
      hy, ih (i + 1 + 1) _ (by omega)]
    rfl

theorem findMinCoord_flattened (points : List (K × K)) :
    findMinCoord (flattened points) = ((points.map Prod.fst).foldl min 5000000000,
      (points.map Prod.snd).foldl min 5000000000, 0) := by
  rw [findMinCoord, foldl_smaller points 0 _ rfl]

/-- The object has the corners of the outline, each one at its place, and their minimum. -/
structure Survives {float : List Char → Except PyException K} (t : TraCICoordinateTransformation K)
    (o : Outline float) (e : ObjectElement K) : Prop where
  same : e.id = o.id
  prism : e.prism = flattened (o.corners.map fun p => (t.traci2omnet p).pair)
  left : IsLeast {x | ∃ p ∈ o.corners, (t.traci2omnet p).x = x} e.position.1
  top : IsLeast {y | ∃ p ∈ o.corners, (t.traci2omnet p).y = y} e.position.2.1

def object {float : List Char → Except PyException K} (t : TraCICoordinateTransformation K)
    (material : String) (color : K × K × K) (height : K) (o : Outline float) : ObjectElement K :=
  let prism := flattened (o.kept.map fun p => (t.traci2omnet p).pair)
  { id := o.id, material := material, lineColor := color, opacity := "0.8",
    position := findMinCoord prism, height := height, prism := prism }

section
variable {float : List Char → Except PyException K} {shapes : List Poly}
  {outlines : List (Outline float)} (t : TraCICoordinateTransformation K) (material : String)
  (color : K × K × K) (height : K)

theorem convert_eq (hids : (outlines.map Outline.id).Nodup)
    (hshapes : shapes.filter (·.type = "building") = outlines.map Outline.poly) :
    convert float shapes t.topleft.pair t.bottomright.pair t.margin material color height =
      .ok (outlines.map (object t material color height)) := by
  unfold convert
  rw [shapesOfBuildings_eq hids hshapes, objectCoords_eq]
  simp only [ok_bind, pure_eq_ok, transformCoords, Dict.map_tabulate]
  have htransformed : ∀ o : Outline float, transformed t.topleft.pair
      (t.bottomright.pair.1 - t.topleft.pair.1, t.bottomright.pair.2 - t.topleft.pair.2) t.margin
      (flattened (o.kept.map TraCICoord.pair)) =
        flattened (o.kept.map fun p => (t.traci2omnet p).pair) :=
    fun o => transformed_flattened t o.kept
  simp only [htransformed, writeFile, Dict.tabulate, List.map_map]
  rfl

/-- A building survives exactly if its outline is closed and the search for its minimum starts
high enough. -/
theorem survives_object_iff (o : Outline float) :
    Survives t o (object t material color height o) ↔
      o.closed = true ∧ (∃ p ∈ o.corners, (t.traci2omnet p).x ≤ 5000000000) ∧
        ∃ p ∈ o.corners, (t.traci2omnet p).y ≤ 5000000000 := by
  have hleast : ∀ f : TraCICoord K → K,
      IsLeast {a | ∃ p ∈ o.corners, f p = a} ((o.corners.map f).foldl min 5000000000) ↔
        ∃ p ∈ o.corners, f p ≤ 5000000000 := by
    intro f
    have h := isLeast_foldl_min_iff (o.corners.map f) 5000000000
    simpa only [List.mem_map, exists_exists_and_eq_and] using h
  have hposition : o.closed = true → (object t material color height o).position =
      ((o.corners.map fun p => (t.traci2omnet p).x).foldl min 5000000000,
        (o.corners.map fun p => (t.traci2omnet p).y).foldl min 5000000000, 0) := by
    intro hclosed
    simp only [object, Outline.kept, hclosed, if_true, findMinCoord_flattened, List.map_map]
    rfl
  constructor
  · intro h
    have hlength := congrArg List.length h.prism
    simp only [object, length_flattened, List.length_map] at hlength
    have hclosed := o.kept_eq_corners_iff.mp (by omega)
    have hleft := h.left
    have htop := h.top
    rw [hposition hclosed] at hleft htop
    exact ⟨hclosed, (hleast _).mp hleft, (hleast _).mp htop⟩
  · rintro ⟨hclosed, hleft, htop⟩
    refine ⟨rfl, ?_, ?_, ?_⟩
    · simp only [object, Outline.kept, hclosed, if_true]
    · rw [hposition hclosed]
      exact (hleast _).mpr hleft
    · rw [hposition hclosed]
      exact (hleast _).mpr htop

/-- Every building survives the conversion exactly if all outlines are closed, and none is beyond
the start of the search for the minimum. -/
theorem outlines_survive_iff (hids : (outlines.map Outline.id).Nodup)
    (hshapes : shapes.filter (·.type = "building") = outlines.map Outline.poly) :
    (∃ objects, convert float shapes t.topleft.pair t.bottomright.pair t.margin material color
        height = .ok objects ∧ List.Forall₂ (Survives t) outlines objects) ↔
      ∀ o ∈ outlines, o.closed = true ∧
        (∃ p ∈ o.corners, (t.traci2omnet p).x ≤ 5000000000) ∧
        ∃ p ∈ o.corners, (t.traci2omnet p).y ≤ 5000000000 := by
  rw [convert_eq t material color height hids hshapes]
  simp only [Except.ok.injEq, exists_eq_left', List.forall₂_map_right_iff, List.forall₂_same,
    survives_object_iff]

end
end

def readDigits (s : List Char) : Except PyException ℚ :=
  if s.all Char.isDigit then .ok (CxxString.numeral 10 s)
  else .error (.valueError
    ("could not convert string to float: " ++ String.ofList (Python.reprOf s)))

/-- A triangle in the file, with or without its first corner at the end. -/
def triangle (closed : Bool) : Outline readDigits where
  id := "house"
  shape := if closed then "0,0 9,0 0,5 0,0".toList else "0,0 9,0 0,5".toList
  corners := [⟨0, 0⟩, ⟨9, 0⟩, ⟨0, 5⟩]
  closed := closed
  distinct := by simp
  size := le_rfl
  written := by
    have hcorner : ∀ c d : Char, c.isDigit = true → d.isDigit = true → Writes readDigits [c, ',', d]
        ⟨CxxString.digitValue c, CxxString.digitValue d⟩ := by
      intro c d hc hd
      have hcomma : ∀ e : Char, e.isDigit = true → ',' ∉ [e] := by
        intro e he hmem
        rw [List.mem_singleton] at hmem
        subst hmem
        exact absurd he (by decide)
      refine ⟨[c], [d], rfl, hcomma c hc, hcomma d hd, ?_, ?_⟩
      · simp [readDigits, hc, CxxString.numeral]
      · simp [readDigits, hd, CxxString.numeral]
    have hnine : Writes readDigits ['9', ',', '0'] ⟨9, 0⟩ := by
      simpa [CxxString.digitValue] using hcorner '9' '0' (by decide) (by decide)
    have hfive : Writes readDigits ['0', ',', '5'] ⟨0, 5⟩ := by
      simpa [CxxString.digitValue] using hcorner '0' '5' (by decide) (by decide)
    have hzero : Writes readDigits ['0', ',', '0'] ⟨0, 0⟩ := by
      simpa [CxxString.digitValue] using hcorner '0' '0' (by decide) (by decide)
    cases closed with
    | true =>
      change List.Forall₂ _ [['0', ',', '0'], ['9', ',', '0'], ['0', ',', '5'], ['0', ',', '0']] _
      exact .cons hzero (.cons hnine (.cons hfive (.cons hzero .nil)))
    | false =>
      change List.Forall₂ _ [['0', ',', '0'], ['9', ',', '0'], ['0', ',', '5']] _
      exact .cons hzero (.cons hnine (.cons hfive .nil))

theorem closed_triangle_survives :
    ∃ objects, convert readDigits [(triangle true).poly] (0, 0) (9, 5) 25 "concrete" (255, 0, 0) 5 =
        .ok objects ∧
      List.Forall₂ (Survives ⟨⟨0, 0⟩, ⟨9, 5⟩, 25⟩) [triangle true] objects := by
  have hids : ([triangle true].map Outline.id).Nodup := List.nodup_singleton _
  refine (outlines_survive_iff ⟨⟨0, 0⟩, ⟨9, 5⟩, 25⟩ "concrete" (255, 0, 0) 5 hids rfl).mpr ?_
  intro o ho
  rw [List.mem_singleton] at ho
  subst ho
  refine ⟨rfl, ⟨⟨0, 0⟩, List.mem_cons_self, ?_⟩, ⟨⟨0, 0⟩, List.mem_cons_self, ?_⟩⟩
  · norm_num [TraCICoordinateTransformation.traci2omnet]
  · norm_num [TraCICoordinateTransformation.traci2omnet, TraCICoordinateTransformation.dimensions]

/-- An outline that is written without its first corner at the end loses its last one. -/
theorem open_triangle_loses_corner :
    ¬ ∃ objects, convert readDigits [(triangle false).poly] (0, 0) (9, 5) 25 "concrete" (255, 0, 0)
        5 = .ok objects ∧
      List.Forall₂ (Survives ⟨⟨0, 0⟩, ⟨9, 5⟩, 25⟩) [triangle false] objects := by
  rintro ⟨objects, hobjects, hsurvive⟩
  have hids : ([triangle false].map Outline.id).Nodup := List.nodup_singleton _
  have hshapes : [(triangle false).poly].filter (·.type = "building") =
      [triangle false].map Outline.poly := rfl
  have hconvert := convert_eq ⟨⟨0, 0⟩, ⟨9, 5⟩, 25⟩ "concrete" (255, 0, 0) 5 hids hshapes
  cases hobjects.symm.trans hconvert
  cases hsurvive with
  | cons hfirst _ =>
    have hclosed := ((survives_object_iff _ _ _ _ _).mp hfirst).1
    exact absurd hclosed (by decide)

end ConvertSumoObjects
end SpaceVeins
