import SpaceVeins.SimTime
import SpaceVeins.Coordinates
import SpaceVeins.Shared.DefaultFloat

/-!
# The satellite observation point

The module turns its position on the canvas into coordinates of the Earth and
sets up the frame of the satellites around it. The projections belong to a
library that is known by its interface only; it gets the origin of the frame as
a text.
-/

set_option autoImplicit false

namespace SpaceVeins
open DefaultFloat

/-- The union of the library, by the names of `xyz`. -/
@[ext] structure PJ_COORD (K : Type) where
  x : K
  y : K
  z : K
  t : K

namespace PJ_COORD
variable {K : Type}

def lam (c : PJ_COORD K) : K := c.x

def phi (c : PJ_COORD K) : K := c.y

def e (c : PJ_COORD K) : K := c.x

def n (c : PJ_COORD K) : K := c.y

def u (c : PJ_COORD K) : K := c.z

end PJ_COORD

abbrev PJ (K : Type) := PJ_COORD K → PJ_COORD K

/-- What the module calls of the library. A projection that cannot be created is `none`. -/
structure ProjLibrary (K : Type) where
  proj_create_crs_to_crs : String → String → Option (PJ K)
  proj_normalize_for_visualization : PJ K → Option (PJ K)
  proj_create : List Char → PJ K
  proj_errno : Option (PJ K) → Int

def topocentricText (x y z : List Char) : List Char :=
  "+proj=topocentric +ellps=WGS84 +X_0=".toList ++ x ++ " +Y_0=".toList ++ y ++
    " +Z_0=".toList ++ z

/-- The value of a parameter in the text of a projection. -/
def projParameter (key : List Char) (s : List Char) : List Char :=
  ((s.splitOn ' ').findSome? fun parameter =>
    if key.isPrefixOf parameter then some (parameter.drop key.length) else none).getD []

/-- The origin of a topocentric frame, as the text of the projection gives it. -/
def projOrigin (K : Type) [Field K] (s : List Char) : K × K × K :=
  (readDecimal K (projParameter ['+', 'X', '_', '0', '='] s),
    readDecimal K (projParameter ['+', 'Y', '_', '0', '='] s),
    readDecimal K (projParameter ['+', 'Z', '_', '0', '='] s))

/-- A topocentric projection maps exactly its origin to zero. -/
def TopocentricZero {K : Type} [Field K] (proj_create : List Char → PJ K) : Prop :=
  ∀ s, "+proj=topocentric".toList ∈ s.splitOn ' ' → ∀ c : PJ_COORD K,
    ((proj_create s c).e = 0 ∧ (proj_create s c).n = 0 ∧ (proj_create s c).u = 0) ↔
      (c.x, c.y, c.z) = projOrigin K s

/-- What `initialize` reads of the file with the road network, and its parameter `margin`. -/
structure SumoNet (K : Type) where
  projParameter : String
  convBoundary : TraCICoord K × TraCICoord K
  netOffset : TraCICoord K
  margin : Int

structure SatelliteObservationPoint (K : Type) where
  sop_omnet_coord : Coord K
  sop_traci_coord : TraCICoord K
  sop_utm_coord : TraCICoord K
  sop_wgs84 : WGS84Coord K
  sop_wgs84_proj_cart : PJ_COORD K
  netOffset : TraCICoord K
  sumo_to_wgs84_projection : PJ K
  wgs84_to_wgs84cartesian_projection : PJ K
  relativeToSOP_projection : PJ K
  coordinateTransformation : TraCICoordinateTransformation K

namespace SatelliteObservationPoint
variable {K : Type} [Field K]

/-- The constant of the source. -/
def PI : K := 3141592653589793 / 1000000000000000

section
variable [LinearOrder K] [FloorRing K]

/-- The text of the frame, with the numbers printed by a stream. -/
def ss_proj (c : PJ_COORD K) : List Char := topocentricText (text c.x) (text c.y) (text c.z)

/-- `initialize`, stage 3. -/
def initial (lib : ProjLibrary K) (net : SumoNet K) (position : Coord K) :
    Except SimError (SatelliteObservationPoint K) :=
  match lib.proj_create_crs_to_crs net.projParameter "EPSG:4326" with
  | none => .error (.cRuntimeError ("sumo_to_wgs84_projection initialization error: proj_errno: " ++
      toString (lib.proj_errno none)))
  | some sumo_to_wgs84 =>
    match lib.proj_normalize_for_visualization sumo_to_wgs84 with
    | none => .error (.cRuntimeError ("sumo_to_wgs84_projection normalization error: proj_errno: "
        ++ toString (lib.proj_errno none)))
    | some sumo_to_wgs84 =>
      let wgs84_to_wgs84cartesian :=
        lib.proj_create "+proj=pipeline +step proj=cart +ellps=WGS84".toList
      let transformation : TraCICoordinateTransformation K :=
        ⟨net.convBoundary.1, net.convBoundary.2, net.margin⟩
      let sop_traci := transformation.omnet2traci position
      let sop_utm : TraCICoord K :=
        ⟨sop_traci.x - net.netOffset.x, sop_traci.y - net.netOffset.y⟩
      let sop_wgs84_proj := sumo_to_wgs84 ⟨sop_utm.x, sop_utm.y, 0, 0⟩
      let sop_wgs84 : WGS84Coord K := ⟨sop_wgs84_proj.phi, sop_wgs84_proj.lam, 0⟩
      let sop_cart := wgs84_to_wgs84cartesian
        ⟨sop_wgs84.lon * (PI / 180), sop_wgs84.lat * (PI / 180), sop_wgs84.alt, 0⟩
      .ok {
        sop_omnet_coord := position
        sop_traci_coord := sop_traci
        sop_utm_coord := sop_utm
        sop_wgs84 := sop_wgs84
        sop_wgs84_proj_cart := sop_cart
        netOffset := net.netOffset
        sumo_to_wgs84_projection := sumo_to_wgs84
        wgs84_to_wgs84cartesian_projection := wgs84_to_wgs84cartesian
        relativeToSOP_projection := lib.proj_create (ss_proj sop_cart)
        coordinateTransformation := transformation }

end

def omnet2UTM (m : SatelliteObservationPoint K) (toTransfer : Coord K) : TraCICoord K :=
  let toTransferSUMO := m.coordinateTransformation.omnet2traci toTransfer
  ⟨toTransferSUMO.x - m.netOffset.x, toTransferSUMO.y - m.netOffset.y⟩

def omnet2WGS84 (m : SatelliteObservationPoint K) (toTransfer : Coord K) : WGS84Coord K :=
  let toTransferUTM := m.omnet2UTM toTransfer
  let toTransferWGS84 := m.sumo_to_wgs84_projection ⟨toTransferUTM.x, toTransferUTM.y, 0, 0⟩
  ⟨toTransferWGS84.phi, toTransferWGS84.lam, 0⟩

def omnet2WGS84Cartesian (m : SatelliteObservationPoint K) (toTransfer : Coord K) :
    PJ_COORD K :=
  let toTransferWGS84 := m.omnet2WGS84 toTransfer
  m.wgs84_to_wgs84cartesian_projection
    ⟨toTransferWGS84.lon * (PI / 180), toTransferWGS84.lat * (PI / 180), toTransferWGS84.alt, 0⟩

def omnetRelativeSOPCoord (m : SatelliteObservationPoint K) (toTransfer : Coord K) :
    Coord K :=
  let relative := m.relativeToSOP_projection (m.omnet2WGS84Cartesian toTransfer)
  ⟨relative.e + m.sop_omnet_coord.x, -relative.n + m.sop_omnet_coord.y,
    relative.u + m.sop_omnet_coord.z⟩

theorem splitOn_topocentricText {x y z : List Char} (hx : ' ' ∉ x) (hy : ' ' ∉ y)
    (hz : ' ' ∉ z) :
    (topocentricText x y z).splitOn ' ' = ["+proj=topocentric".toList, "+ellps=WGS84".toList,
      "+X_0=".toList ++ x, "+Y_0=".toList ++ y, "+Z_0=".toList ++ z] := by
  have hparts : topocentricText x y z = [' '].intercalate ["+proj=topocentric".toList,
      "+ellps=WGS84".toList, "+X_0=".toList ++ x, "+Y_0=".toList ++ y, "+Z_0=".toList ++ z] := by
    change "+proj=topocentric +ellps=WGS84 +X_0=".toList ++ x ++ " +Y_0=".toList ++ y ++
      " +Z_0=".toList ++ z = _
    simp [List.intercalate, List.intersperse]
  rw [hparts]
  apply List.splitOn_intercalate
  · simp [hx, hy, hz]
  · exact List.cons_ne_nil _ _

theorem projOrigin_topocentricText {x y z : List Char} (hx : ' ' ∉ x) (hy : ' ' ∉ y)
    (hz : ' ' ∉ z) :
    projOrigin K (topocentricText x y z) =
      (readDecimal K x, readDecimal K y, readDecimal K z) := by
  rw [projOrigin, projParameter, projParameter, projParameter, splitOn_topocentricText hx hy hz]
  simp

variable [LinearOrder K] [FloorRing K]

theorem initial_spec {lib : ProjLibrary K} {net : SumoNet K} {position : Coord K}
    {m : SatelliteObservationPoint K} (h : initial lib net position = .ok m) :
    m.sop_wgs84_proj_cart = m.omnet2WGS84Cartesian m.sop_omnet_coord ∧
      m.wgs84_to_wgs84cartesian_projection =
        lib.proj_create "+proj=pipeline +step proj=cart +ellps=WGS84".toList ∧
      m.relativeToSOP_projection = lib.proj_create (ss_proj m.sop_wgs84_proj_cart) := by
  unfold initial at h
  split at h
  · cases h
  · split at h
    · cases h
    · cases h
      exact ⟨rfl, rfl, rfl⟩

variable [IsStrictOrderedRing K]

/-- The origin that the library reads is the one that was printed exactly if every coordinate has
at most six significant digits. -/
theorem projOrigin_ss_proj_iff (c : PJ_COORD K) :
    projOrigin K (ss_proj c) = (c.x, c.y, c.z) ↔
      SixDigits c.x ∧ SixDigits c.y ∧ SixDigits c.z := by
  rw [ss_proj, projOrigin_topocentricText (blank_not_mem_text _) (blank_not_mem_text _)
    (blank_not_mem_text _)]
  simp only [Prod.mk.injEq, readDecimal_text_eq_iff]

/-- The point is at its own place in its frame exactly if the library read its coordinates
right. -/
theorem omnetRelativeSOPCoord_eq_iff {lib : ProjLibrary K} {net : SumoNet K} {position : Coord K}
    {m : SatelliteObservationPoint K} (hzero : TopocentricZero lib.proj_create)
    (h : initial lib net position = .ok m) :
    m.omnetRelativeSOPCoord m.sop_omnet_coord = m.sop_omnet_coord ↔
      projOrigin K (ss_proj m.sop_wgs84_proj_cart) =
        (m.sop_wgs84_proj_cart.x, m.sop_wgs84_proj_cart.y, m.sop_wgs84_proj_cart.z) := by
  obtain ⟨hcart, -, hframe⟩ := initial_spec h
  have htopocentric : "+proj=topocentric".toList ∈ (ss_proj m.sop_wgs84_proj_cart).splitOn ' ' := by
    rw [ss_proj, splitOn_topocentricText (blank_not_mem_text _) (blank_not_mem_text _)
      (blank_not_mem_text _)]
    exact List.mem_cons_self
  rw [eq_comm (a := projOrigin K _), ← hzero _ htopocentric, omnetRelativeSOPCoord, ← hcart, hframe]
  simp [Coord.ext_iff]

/-- A library that has every point at one place, and frames that are not turned. -/
def libraryAt (place : PJ_COORD K) : ProjLibrary K where
  proj_create_crs_to_crs _ _ := some id
  proj_normalize_for_visualization P := some P
  proj_create s c :=
    if "+proj=topocentric".toList ∈ s.splitOn ' ' then
      ⟨c.x - (projOrigin K s).1, c.y - (projOrigin K s).2.1, c.z - (projOrigin K s).2.2, c.t⟩
    else place
  proj_errno _ := 0

omit [LinearOrder K] [FloorRing K] [IsStrictOrderedRing K] in
theorem libraryAt_zero (place : PJ_COORD K) : TopocentricZero (libraryAt place).proj_create := by
  intro s hs c
  simp only [libraryAt, if_pos hs, PJ_COORD.e, PJ_COORD.n, PJ_COORD.u, sub_eq_zero]
  rw [Prod.ext_iff, Prod.ext_iff]

omit [IsStrictOrderedRing K] in
theorem libraryAt_initial (place : PJ_COORD K) (net : SumoNet K) (position : Coord K) :
    ∃ m, initial (libraryAt place) net position = .ok m ∧ m.sop_wgs84_proj_cart = place := by
  have hcart : "+proj=topocentric".toList ∉
      ("+proj=pipeline +step proj=cart +ellps=WGS84".toList).splitOn ' ' := by
    decide
  obtain ⟨m, h⟩ : ∃ m, initial (libraryAt place) net position = .ok m := ⟨_, rfl⟩
  obtain ⟨hpoint, hcartesian, -⟩ := initial_spec h
  refine ⟨m, h, ?_⟩
  rw [hpoint, omnet2WGS84Cartesian, hcartesian]
  simp only [libraryAt]
  rw [if_neg hcart]

end SatelliteObservationPoint
end SpaceVeins
