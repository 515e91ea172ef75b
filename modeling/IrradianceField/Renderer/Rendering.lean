import IrradianceField.Atlas.Lighting
import IrradianceField.Probe.Border
import IrradianceField.Renderer.Basic

/-!
Rendering: the passes that a renderer runs, their constants, and their numbers of groups. The sizes
of the passes over batches are read from what an earlier pass stored.
-/

namespace IrradianceField

variable {α : Type} [Scalar α]

def ClassificationPass.cells (p : ClassificationPass) : List (Cell α) :=
  [.word p.cascade, .word p.mode.code, .ofFlag p.reset, .word 0] ++
    Cell.ofWords (p.scrollClear.extend 0) ++ Cell.ofSigned (p.scrollDirections.extend 0)

def BatchPass.cells (p : BatchPass) : List (Cell α) :=
  [.word p.cascade, .word p.probesOffset, .ofFlag p.resetBlend, .word 0]

def BorderPass.cells (p : BorderPass) : List (Cell α) :=
  [.word p.resolution, .word p.tilesCount, .word 0, .word 0]

def AtlasLightingPass.cells (p : AtlasLightingPass α) : List (Cell α) :=
  [.word p.tilesCount, .word p.maxTileSize, .scalar p.bias, .word 0]

namespace Renderer

open Recorded

variable {A : Type} [RectAllocator A]

def runPass (r : Renderer A α) (p : PassName) (constants : List (Cell α)) (size : DispatchSize) :
    Recorded α Unit :=
  emit (.run ⟨p, r.generation⟩ constants (groupsOf p r.generation) size)

def clearCounter (r : Renderer A α) (b : BufferName) : Recorded α Unit :=
  emit (.clear (r.buffer b) 0 BufferName.wordBytes)

def squareGroups (length : Nat) : Except Fault Nat := do
  return (← Word.add length (Lighting.groupSide - 1)) / Lighting.groupSide

def renderAtlasLighting (r : Renderer A α) : Recorded α Unit := do
  if r.tilesCount = 0 then return ()
  let groups ← checked (squareGroups r.maxTileSize)
  let pass : AtlasLightingPass α := ⟨r.tilesCount, r.maxTileSize, r.config.samplerBias⟩
  r.runPass .atlasLighting pass.cells (.groups ⟨groups, groups, r.tilesCount⟩)

def renderCulling (r : Renderer A α) : Recorded α Unit := do
  r.clearCounter .culled
  r.runPass .culling [] (.groups (.splat (r.config.atlasChunkResolution / Culling.blockSide)))

def renderClassification (r : Renderer A α) (cascade : Nat) : Recorded α Unit := do
  r.clearCounter .activeProbes
  let groups ← checked
    (do Word.groups (← r.config.probesPerCascade) Classification.groupSize)
  let pass ← checked (r.cascades.classificationPass r.config cascade)
  r.runPass .classification pass.cells (.groups ⟨groups, 1, 1⟩)

def renderBatchSizes (r : Renderer A α) (capacity : Nat) : Recorded α Unit :=
  r.runPass .batchSizes [.word capacity, .word 0, .word 0, .word 0] (.groups ⟨1, 1, 1⟩)

/-- The sizes of a batch's updates follow those of its tracing. -/
def renderBatch (r : Renderer A α) (cascade : Nat) (resetBlend : Bool) (batch : Nat) :
    Recorded α Unit := do
  let pass : BatchPass := ⟨cascade, ← checked (Word.mul batch Batch.probesLimit), resetBlend⟩
  let first ← checked (Word.mul batch Batch.stride)
  let stored (word : Nat) : DispatchSize :=
    .stored (r.buffer .dispatches) (word * BufferName.wordBytes)
  r.runPass .tracing pass.cells (stored first)
  r.runPass .irradianceUpdate pass.cells (stored (first + 3))
  r.runPass .distanceUpdate pass.cells (stored (first + 3))

def renderCascade (r : Renderer A α) (cascade : Nat) : Recorded α Unit := do
  r.renderClassification cascade
  let capacity ← checked (do Batch.needed (← r.config.probesPerCascade))
  r.renderBatchSizes capacity
  let item ← checked (r.cascades.get cascade)
  (List.range capacity).forM (r.renderBatch cascade (r.resetBlend || item.reset))

def renderBorders (r : Renderer A α) : Recorded α Unit := do
  let tiles ← checked r.config.probesCount
  let size : DispatchSize := .groups ⟨tiles, 1, 1⟩
  let irradiance : BorderPass := ⟨irradianceResolution, tiles⟩
  let distance : BorderPass := ⟨distanceResolution, tiles⟩
  r.runPass .irradianceRows irradiance.cells size
  r.runPass .irradianceColumns irradiance.cells size
  r.runPass .distanceRows distance.cells size
  r.runPass .distanceColumns distance.cells size

def render (r : Renderer A α) : Recorded α (Renderer A α) := do
  r.renderCulling
  (List.range r.cascades.items.size).forM r.renderCascade
  r.renderBorders
  return { r with resetBlend := false }

def renderScreen (r : Renderer A α) : Recorded α Unit := do
  let size := r.config.viewportSize
  let groups ← checked (size.mapM squareGroups)
  r.runPass .screenLighting [.scalar r.config.samplerBias, .word 0, .word 0, .word 0]
    (.groups (groups.extend 1))

end Renderer

end IrradianceField
