import IrradianceField.Direction.Octahedral
import IrradianceField.Probe.Basic
import IrradianceField.Volume.Grid

/-!
The probe volume of a frame: where each cascade of probes stands, and the constants of the lighting.
-/

namespace IrradianceField

def maxCascades : Nat := 4

def irradianceResolution : Nat := 6
def distanceResolution : Nat := 14

/-- Where a grid of probes stands: the point it was last reset to, the distance between neighbours
and the number of probes it has scrolled by since. -/
structure Placement (α : Type) where
  origin : Vec3 α
  spacing : α
  scroll : Vec3 Int
  deriving Repr, Inhabited

structure Volume (α : Type) where
  grid : Grid
  placements : Vector (Placement α) maxCascades
  raysRotation : Quat α
  viewPos : Vec3 α
  rayMaxDistance : α
  raysCount : Nat
  historyWeight : α
  gamma : α
  intensity : α
  deriving Repr

namespace Volume

variable {α : Type} [Scalar α]

def unlistedPlacement : Placement α := ⟨.zero, 0.0, ⟨0, 0, 0⟩⟩

def placement (v : Volume α) (cascade : Nat) : Except Fault (Placement α) :=
  if h : cascade < maxCascades then .ok v.placements[cascade]
  else .error (.indexOutOfBounds maxCascades cascade)

def spacing (v : Volume α) (cascade : Nat) : Except Fault α := do
  return (← v.placement cascade).spacing

/-- Half the size of a grid, between its outermost probes. -/
def extent (v : Volume α) (cascade : Nat) : Except Fault (Vec3 α) := do
  let steps ← v.grid.counts.mapM (Word.sub · 1)
  let spacing ← v.spacing cascade
  return ((Vec3.ofNat steps).scale spacing).scale 0.5

def center (v : Volume α) (cascade : Nat) : Except Fault (Vec3 α) := do
  let p ← v.placement cascade
  return p.origin + (Vec3.ofInt p.scroll).scale p.spacing

def wrappedIndex (v : Volume α) (cascade : Nat) (coords : Vec3 Nat) : Except Fault Nat := do
  v.grid.wrappedIndex (← v.placement cascade).scroll coords

/-- Storage slot of the probe with given logical index, within its cascade. -/
def physicalIndex (v : Volume α) (cascade index : Nat) : Except Fault Nat := do
  v.wrappedIndex cascade (← v.grid.probeCoords index)

def basePosition (v : Volume α) (cascade : Nat) (coords : Vec3 Nat) : Except Fault (Vec3 α) := do
  let spacing ← v.spacing cascade
  let center ← v.center cascade
  let extent ← v.extent cascade
  return center + (Vec3.ofNat coords).scale spacing - extent

def readProbe (v : Volume α) (probes : Array PackedProbe) (cascade index : Nat) :
    Except Fault (Probe α) := do
  let physical ← v.physicalIndex cascade index
  return .unpack (← fetch probes (← v.grid.slot cascade physical))

def relocatedPosition (v : Volume α) (cascade index : Nat) (probe : Probe α) :
    Except Fault (Vec3 α) := do
  let base ← v.basePosition cascade (← v.grid.probeCoords index)
  let spacing ← v.spacing cascade
  return base + probe.worldOffset spacing

def atlasPosition (v : Volume α) (cascade index : Nat) (coords : Vec2 α) (resolution : Nat) :
    Except Fault (Vec2 α) := do
  let origin ← v.grid.tileOrigin cascade index resolution
  return (Vec2.ofNat origin).shift 1.0 +
    ((coords.scale 0.5).shift 0.5).scale (Scalar.ofNat resolution)

end Volume

end IrradianceField
