import Mathlib.Algebra.Field.Basic
import Mathlib.Tactic.Ring
import SpaceVeins.Shared.FieldNumerals

/-!
# Coordinates

Positions on the canvas, in the road network and on the Earth. The y axis of the
canvas points down, that of the road network points up.
-/

set_option autoImplicit false

namespace SpaceVeins
variable {K : Type}

@[ext] structure Coord (K : Type) where
  x : K
  y : K
  z : K
deriving DecidableEq

structure TraCICoord (K : Type) where
  x : K
  y : K

structure WGS84Coord (K : Type) where
  lat : K
  lon : K
  alt : K

def Coord.pair (c : Coord K) : K × K := (c.x, c.y)

def TraCICoord.pair (c : TraCICoord K) : K × K := (c.x, c.y)

structure TraCICoordinateTransformation (K : Type) where
  topleft : TraCICoord K
  bottomright : TraCICoord K
  margin : K

namespace TraCICoordinateTransformation
variable [Field K] (c : TraCICoordinateTransformation K)

def dimensions : TraCICoord K :=
  ⟨c.bottomright.x - c.topleft.x, c.bottomright.y - c.topleft.y⟩

def omnet2traci (coord : Coord K) : TraCICoord K where
  x := coord.x + c.topleft.x - c.margin
  y := c.dimensions.y - (coord.y - c.topleft.y) + c.margin

def traci2omnet (coord : TraCICoord K) : Coord K where
  x := coord.x - c.topleft.x + c.margin
  y := c.dimensions.y - (coord.y - c.topleft.y) + c.margin
  z := 0

theorem omnet2traci_traci2omnet (p : TraCICoord K) : c.omnet2traci (c.traci2omnet p) = p := by
  obtain ⟨x, y⟩ := p
  simp only [omnet2traci, traci2omnet, TraCICoord.mk.injEq]
  constructor
  · ring
  · ring

theorem traci2omnet_omnet2traci (p : Coord K) :
    c.traci2omnet (c.omnet2traci p) = { p with z := 0 } := by
  obtain ⟨x, y, z⟩ := p
  simp only [omnet2traci, traci2omnet, Coord.mk.injEq, and_true]
  constructor
  · ring
  · ring

end TraCICoordinateTransformation
end SpaceVeins
