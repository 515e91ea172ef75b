import IrradianceField.DistanceField.Basic

/-!
Distance fields stored as cascades of voxels and read by trilinear interpolation. The value of a
voxel is the distance at its centre; voxels are stored cascade by cascade, with `x` fastest.
-/

namespace IrradianceField

def maxVoxelCascades : Nat := 4

structure Cube (α : Type) where
  center : Vec3 α
  extent : α
  deriving Repr, Inhabited

structure VoxelLayout (α : Type) where
  cubes : Vector (Cube α) maxVoxelCascades
  resolution : Nat
  cascades : Nat
  deriving Repr

structure Voxels (α : Type) where
  layout : VoxelLayout α
  values : Array α
  deriving Repr

namespace VoxelLayout

variable {α : Type} [Scalar α]

def cube (l : VoxelLayout α) (cascade : Nat) : Except Fault (Cube α) :=
  if h : cascade < maxVoxelCascades then .ok l.cubes[cascade]
  else .error (.indexOutOfBounds maxVoxelCascades cascade)

def voxelSize (l : VoxelLayout α) (cascade : Nat) : Except Fault α := do
  return 2.0 * (← l.cube cascade).extent / Scalar.ofNat l.resolution

def size (l : VoxelLayout α) : Except Fault Nat := do
  let layer ← Size.mul l.resolution l.resolution
  Size.mul (← Size.mul layer l.resolution) l.cascades

/-- Whether a point lies inside of a cascade, by more than a voxel. -/
def contains (l : VoxelLayout α) (cascade : Nat) (pos : Vec3 α) : Except Fault Bool := do
  let margin ← l.voxelSize cascade
  let cube ← l.cube cascade
  return Scalar.lt (pos - cube.center).abs.maxElement (cube.extent - margin)

def firstContaining (l : VoxelLayout α) (pos : Vec3 α) : Nat → Nat → Except Fault (Option Nat)
  | 0, _ => return none
  | remaining + 1, cascade => do
    if ← l.contains cascade pos then return some cascade
    l.firstContaining pos remaining (cascade + 1)

def locate (l : VoxelLayout α) (pos : Vec3 α) : Except Fault (Option Nat) :=
  l.firstContaining pos l.cascades 0

def index (l : VoxelLayout α) (cascade : Nat) (v : Vec3 Nat) : Except Fault Nat := do
  let res := l.resolution
  let volume ← Word.mul (← Word.mul (← Word.mul cascade res) res) res
  let layers ← Word.mul (← Word.mul v.z res) res
  let sum ← Word.add volume layers
  let rows ← Word.mul v.y res
  Word.add (← Word.add sum rows) v.x

end VoxelLayout

namespace Voxels

variable {α : Type} [Scalar α]

def voxel (v : Voxels α) (cascade : Nat) (pos : Vec3 Nat) : Except Fault α := do
  fetch v.values (← v.layout.index cascade pos)

/-- Interpolated value of a cascade; points outside of its voxels' centres move to the edge. -/
def sampleCascade (v : Voxels α) (cascade : Nat) (pos : Vec3 α) : Except Fault α := do
  let res := v.layout.resolution
  let voxelSize ← v.layout.voxelSize cascade
  let cube ← v.layout.cube cascade
  let lowest := cube.center - .splat cube.extent
  let last := Scalar.ofNat (← Word.sub res 1)
  let pos := (((pos - lowest).divide voxelSize).shiftDown 0.5).confine .zero (.splat last)
  let lastBase ← Word.sub res 2
  let base := pos.floor.toNat.map (min · lastBase)
  let frac := pos - .ofNat base
  let corner (x y z : Nat) : Except Fault α := do
    v.voxel cascade (← base.zipWithM Word.add ⟨x, y, z⟩)
  let c000 ← corner 0 0 0
  let c100 ← corner 1 0 0
  let c010 ← corner 0 1 0
  let c110 ← corner 1 1 0
  let c001 ← corner 0 0 1
  let c101 ← corner 1 0 1
  let c011 ← corner 0 1 1
  let c111 ← corner 1 1 1
  let c00 := Scalar.lerp c000 c100 frac.x
  let c10 := Scalar.lerp c010 c110 frac.x
  let c01 := Scalar.lerp c001 c101 frac.x
  let c11 := Scalar.lerp c011 c111 frac.x
  return Scalar.lerp (Scalar.lerp c00 c10 frac.y) (Scalar.lerp c01 c11 frac.y) frac.z

/-- Nothing is known outside of all cascades, which counts as empty space. -/
def sample (v : Voxels α) (pos : Vec3 α) : Except Fault α := do
  match ← v.layout.locate pos with
  | some cascade => v.sampleCascade cascade pos
  | none => return (← v.layout.cube (← Word.sub v.layout.cascades 1)).extent

def cascadeAt (v : Voxels α) (pos : Vec3 α) : Except Fault Nat := do
  match ← v.layout.locate pos with
  | some cascade => return cascade
  | none => Word.sub v.layout.cascades 1

def field (v : Voxels α) : DistanceField α := ⟨v.sample, v.layout.voxelSize, v.cascadeAt⟩

def centerOf (l : VoxelLayout α) (cascade : Nat) (voxel : Vec3 Nat) : Except Fault (Vec3 α) := do
  let cube ← l.cube cascade
  let voxelSize ← l.voxelSize cascade
  let lowest := cube.center - .splat cube.extent
  return lowest + ((Vec3.ofNat voxel).shift 0.5).scale voxelSize

def ofDistance (l : VoxelLayout α) (distance : Vec3 α → α) : Except Fault (Voxels α) := do
  let res := l.resolution
  let cells := (List.range (l.cascades * res * res * res)).map fun i =>
    (i / (res * res * res), (⟨i % res, i / res % res, i / (res * res) % res⟩ : Vec3 Nat))
  let values ← cells.mapM fun (cascade, voxel) => do return distance (← centerOf l cascade voxel)
  return ⟨l, values.toArray⟩

end Voxels

end IrradianceField
