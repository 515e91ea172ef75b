import IrradianceField.Radiance.Sky
import IrradianceField.Renderer.Basic

/-!
Uploads: what a renderer writes into the buffers of its device. Constants, objects and the sky are
held back until they are flushed.
-/

namespace IrradianceField

/-- Texels of a tile, of the atlas or of the screen, row by row: depth, surface and direct light. -/
structure Capture (α : Type) where
  depth : Array α
  surfaces : Array (SurfaceTexel α)
  direct : Array (Vec4 α)
  deriving Repr

namespace Capture

variable {α : Type}

def hasSize (c : Capture α) (texels : Nat) : Bool :=
  c.depth.size = texels && c.surfaces.size = texels && c.direct.size = texels

def row (c : Capture α) (width i : Nat) : Capture α :=
  let cut {β : Type} (texels : Array β) : Array β := texels.extract (i * width) ((i + 1) * width)
  ⟨cut c.depth, cut c.surfaces, cut c.direct⟩

end Capture

namespace Renderer

open Recorded

variable {A α : Type} [RectAllocator A] [Scalar α]

def write (r : Renderer A α) (b : BufferName) (offset : Nat) (cells : List (Cell α)) :
    Recorded α Unit := do
  let size ← checked (b.size r.config)
  let length := cells.length * Cell.size
  ensure (offset + length ≤ size) (.outsideBuffer length offset size)
  emit (.write (r.buffer b) offset cells)

/-- Writes the distance field: the cubes of its cascades, and the values of their voxels. -/
def writeField (r : Renderer A α) (cubes : List (Cube α)) (values : Array α) :
    Recorded α (Renderer A α) := do
  let count := cubes.length
  let limit := r.config.sdfCascades
  ensure (0 < count && count ≤ limit) (.voxelCascades limit count)
  let expected ← checked (do Size.mul (← BufferName.cubed r.config.sdfResolution) count)
  ensure (expected = values.size) (.voxelsCount expected values.size)
  let place (l : VoxelLayout α) : VoxelLayout α :=
    { l with cubes := .ofFn fun i => (cubes[i.val]?).getD l.cubes[i], cascades := count }
  let r := { r with voxelLayout := r.voxelLayout.modify place }
  r.write .voxels 0 (values.toList.map .scalar)
  return r

def writeAtlasTexels (r : Renderer A α) (start : Nat) (c : Capture α) : Recorded α Unit := do
  r.write .atlasDepth (start * BufferName.wordBytes) (c.depth.toList.map .scalar)
  r.write .atlasSurfaces (start * BufferName.texelBytes) (c.surfaces.toList.flatMap (·.cells))
  r.write .atlasDirect (start * BufferName.texelBytes) (c.direct.toList.flatMap Cell.ofScalars)

def writeTile (r : Renderer A α) (rect : Rect) (c : Capture α) : Recorded α Unit := do
  let ⟨width, height⟩ := rect.size
  let texels ← checked (Word.mul width height)
  ensure (c.hasSize texels) (.tileTexels rect.size)
  (List.range height).forM fun i =>
    r.writeAtlasTexels ((rect.origin.y + i) * r.config.atlasResolution + rect.origin.x)
      (c.row width i)

def writeAtlas (r : Renderer A α) (c : Capture α) : Recorded α Unit := do
  let texels := r.config.atlasResolution * r.config.atlasResolution
  ensure (c.hasSize texels) (.atlasTexels texels)
  r.writeAtlasTexels 0 c

def writeSky (r : Renderer A α) (radiance : Vec3 α → Vec3 α) : Recorded α (Renderer A α) := do
  return { r with sky := ← checked (Sky.bake radiance), skyIsDirty := true }

/-- Writes the screen that indirect light is added to, and the camera that it was drawn with. -/
def writeScreen (r : Renderer A α) (clipToWorld : Mat4 α) (c : Capture α) :
    Recorded α (Renderer A α) := do
  let size := r.config.viewportSize
  let pixels ← checked (Word.mul size.x size.y)
  ensure (c.hasSize pixels) (.screenTexels size)
  let r := { r with view := r.view.modify fun v => { v with clipToWorld } }
  r.write .screenDepth 0 (c.depth.toList.map .scalar)
  r.write .screenSurfaces 0 (c.surfaces.toList.flatMap (·.cells))
  r.write .screenOutput 0 (c.direct.toList.flatMap Cell.ofScalars)
  return r

def flushObjects (r : Renderer A α) : Recorded α (Renderer A α) := do
  if !r.registry.isDirty then return r
  let (out, registry, log) := r.registry.serialize
  tell log
  if !out.objects.isEmpty then
    r.write .objects 0 (out.objects.toList.flatMap RecordWord.cells)
    r.write .addresses 0 (out.addresses.toList.map .word)
  if !out.tiles.isEmpty then
    r.write .tiles 0 (out.tiles.toList.map .word)
  return { r with
    registry
    atlas := r.atlas.modify fun a => { a with objectsCount := out.addresses.size }
    tilesCount := out.tiles.size
    maxTileSize := out.maxTileSize }

def flushSky (r : Renderer A α) : Recorded α (Renderer A α) := do
  if !r.skyIsDirty then return r
  r.write .sky 0 (r.sky.toList.flatMap Cell.ofScalars)
  return { r with skyIsDirty := false }

def flushStaged {β : Type} (r : Renderer A α) (b : BufferName) (m : Staged β)
    (cells : β → List (Cell α)) : Recorded α (Staged β) := do
  if m.isDirty then
    emit (.write (r.buffer b) 0 (cells m.value))
  return { m with isDirty := false }

def flush (r : Renderer A α) : Recorded α (Renderer A α) := do
  let r ← r.flushObjects
  let r ← r.flushSky
  let volume ← r.flushStaged .volume r.volume Volume.cells
  let voxelLayout ← r.flushStaged .voxelLayout r.voxelLayout VoxelLayout.cells
  let atlas ← r.flushStaged .atlas r.atlas AtlasConstants.cells
  let view ← r.flushStaged .view r.view View.cells
  return { r with volume, voxelLayout, atlas, view }

end Renderer

end IrradianceField
