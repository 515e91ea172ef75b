import IrradianceField.Atlas.Chunks
import IrradianceField.Atlas.Record
import IrradianceField.DistanceField.Voxels
import IrradianceField.Radiance.Lighting

/-!
Layout: how values are laid out in the buffers of a device, as lists of cells of four bytes. Rows
are padded to four cells.
-/

namespace IrradianceField

inductive Cell (α : Type) where
  | scalar (value : α)
  | word (value : Nat)
  | signed (value : Int)
  deriving DecidableEq, Repr, Inhabited

namespace Cell

variable {α : Type} [Scalar α]

def size : Nat := 4

def toWord : Cell α → Nat
  | scalar a => Scalar.toBits a
  | word n => n
  | signed i => SignedWord.toWord i

def ofScalars (v : Vec4 α) : List (Cell α) := [scalar v.x, scalar v.y, scalar v.z, scalar v.w]

def ofWords (v : Vec4 Nat) : List (Cell α) := [word v.x, word v.y, word v.z, word v.w]

def ofSigned (v : Vec4 Int) : List (Cell α) := [signed v.x, signed v.y, signed v.z, signed v.w]

def ofFlag (b : Bool) : Cell α := word b.toNat

end Cell

variable {α : Type} [Scalar α]

def Volume.unplaced : Volume α where
  grid := ⟨⟨0, 0, 0⟩, 0⟩
  placements := .replicate maxCascades unlistedPlacement
  raysRotation := ⟨0.0, 0.0, 0.0, 0.0⟩
  viewPos := .zero
  rayMaxDistance := 0.0
  raysCount := 0
  historyWeight := 0.0
  gamma := 0.0
  intensity := 0.0

def Volume.cells (v : Volume α) : List (Cell α) :=
  let placements := v.placements.toList
  let rotation := v.raysRotation
  placements.flatMap (fun p => Cell.ofScalars (p.origin.extend p.spacing)) ++
    placements.flatMap (fun p => Cell.ofSigned (p.scroll.extend 0)) ++
    Cell.ofWords (v.grid.counts.extend v.grid.cascades) ++
    Cell.ofScalars ⟨rotation.x, rotation.y, rotation.z, rotation.w⟩ ++
    Cell.ofScalars (v.viewPos.extend v.rayMaxDistance) ++
    [.word v.raysCount, .scalar v.historyWeight, .scalar v.gamma, .scalar v.intensity]

def VoxelLayout.cells (l : VoxelLayout α) : List (Cell α) :=
  l.cubes.toList.flatMap (fun c => Cell.ofScalars (c.center.extend c.extent)) ++
    Cell.ofWords ⟨l.resolution, l.cascades, 0, 0⟩

def AtlasConstants.cells (a : AtlasConstants α) : List (Cell α) :=
  Cell.ofScalars (a.viewPos.extend a.chunkSize) ++
    Cell.ofWords ⟨a.resolution, a.chunkResolution, a.objectsCount, a.culledCapacity⟩ ++
    [.ofFlag a.isDebug, .ofFlag a.sampleAllTiles, .word 0, .word 0]

omit [Scalar α] in
theorem Cell.ofFlag_inj {a b : Bool} : (ofFlag a : Cell α) = ofFlag b ↔ a = b := by
  cases a <;> cases b <;> simp [ofFlag]

omit [Scalar α] in
theorem AtlasConstants.cells_inj {a b : AtlasConstants α} : a.cells = b.cells ↔ a = b := by
  obtain ⟨⟨_, _, _⟩, _, _, _, _, _, _, _⟩ := a
  obtain ⟨⟨_, _, _⟩, _, _, _, _, _, _, _⟩ := b
  simp [cells, Vec3.extend, Cell.ofScalars, Cell.ofWords, Cell.ofFlag_inj, and_assoc]

def View.cells (v : View α) : List (Cell α) :=
  let m := v.clipToWorld
  [m.xAxis, m.yAxis, m.zAxis, m.wAxis].flatMap Cell.ofScalars ++
    Cell.ofWords ⟨v.viewport.x, v.viewport.y, 0, 0⟩

def RecordWord.cells : RecordWord α → List (Cell α)
  | scalars v => Cell.ofScalars v
  | packed v => Cell.ofWords v

def SurfaceTexel.cells (t : SurfaceTexel α) : List (Cell α) :=
  [.scalar t.albedo.x, .scalar t.albedo.y, .scalar t.albedo.z, .word t.normal]

end IrradianceField
