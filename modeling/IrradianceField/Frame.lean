import IrradianceField.Atlas.Lighting
import IrradianceField.Atlas.Registry
import IrradianceField.Atlas.Sampling
import IrradianceField.Probe.Border
import IrradianceField.Radiance.Sky
import IrradianceField.Radiance.Updating
import IrradianceField.Volume.Cascades

/-!
Frames: the passes of a frame in their order, over the memory that they share. The surface atlas is
lit by the probes of the frame before, which is what makes light bounce more than once.
-/

namespace IrradianceField

/-- What is to be lit: a field of distances, a map of the sky, and the surfaces in the atlas. -/
structure Scene (α : Type) where
  field : DistanceField α
  sky : Array (Vec4 α)
  captured : AtlasSurfaces α

structure FrameMemory (α : Type) where
  store : ProbeStore
  dispatches : Array Nat
  trace : Array (Vec4 α)
  irradiance : Texels (Vec4 α)
  distance : Texels (Vec4 α)
  lighting : Texels (Vec4 α)
  deriving Repr

/-- What the passes of a frame are told. There is no history in the first frame. -/
structure FrameInput (α : Type) where
  config : Config α
  cascades : Cascades α
  volume : Volume α
  constants : AtlasConstants α
  records : SerializedAtlas α
  scene : Scene α
  isFirst : Bool

namespace FrameMemory

variable {α : Type} [Scalar α]

def blank (size : Vec2 Nat) : Texels (Vec4 α) := ⟨.replicate (size.x * size.y) .zero, size⟩

def initial (config : Config α) : Except Fault (FrameMemory α) := do
  let perCascade ← config.probesPerCascade
  let batches ← Batch.needed perCascade
  return {
    store := ⟨.replicate (← config.probesCount) ⟨0, 0⟩, .withCapacity perCascade⟩
    dispatches := .replicate (batches * Batch.stride) 0
    trace := .replicate (← Batch.traceSize perCascade) .zero
    irradiance := blank (← config.grid.atlasSize irradianceResolution)
    distance := blank (← config.grid.atlasSize distanceResolution)
    lighting := blank (.splat config.atlasResolution) }

def sampler (m : FrameMemory α) (volume : Volume α) : Sampler α :=
  ⟨volume, m.store.probes, m.irradiance, m.distance⟩

end FrameMemory

namespace Frame

variable {α : Type} [Scalar α]

def lightAtlas (input : FrameInput α) (m : FrameMemory α) : Except Fault (FrameMemory α) := do
  let records := input.records
  let tiles := records.tiles.size
  let pass : AtlasLightingPass α := ⟨tiles, records.maxTileSize, input.config.samplerBias⟩
  let lighting ← AtlasLighting.run pass input.constants (m.sampler input.volume) records.objects
    records.tiles input.scene.captured tiles m.lighting
  return { m with lighting }

def cull (input : FrameInput α) : Except Fault CulledLists := do
  let a := input.constants
  let (lists, _) ← Culling.run ⟨a, input.records.objects, input.records.addresses⟩
    (← Culling.emptyLists a)
  return lists

def surroundings (input : FrameInput α) (lists : CulledLists) (lighting : Texels (Vec4 α)) :
    Surroundings α :=
  let surfaces : AtlasSampler α :=
    ⟨input.constants, input.records.objects, lists, input.scene.captured.depth, lighting⟩
  ⟨input.scene.field, Sky.sample input.scene.sky, surfaces.sample⟩

def classify (input : FrameInput α) (pass : ClassificationPass) (m : FrameMemory α) :
    Except Fault (FrameMemory α) := do
  let store ← Classification.run input.volume pass input.scene.field m.store
  let capacity ← Batch.needed (← input.config.probesPerCascade)
  let dispatches ← BatchDispatch.storeAll store.active.count input.volume.raysCount capacity
    m.dispatches
  return { m with store, dispatches }

def runBatch (input : FrameInput α) (met : Surroundings α) (cascade : Nat) (resetBlend : Bool)
    (m : FrameMemory α) (batch : Nat) : Except Fault (FrameMemory α) := do
  let pass : BatchPass := ⟨cascade, ← Word.mul batch Batch.probesLimit, resetBlend⟩
  let sizes ← BatchDispatch.load m.dispatches batch
  let volume := input.volume
  let ⟨probes, active⟩ := m.store
  let trace ← Tracing.run volume pass probes active met sizes.trace m.trace
  let irradiance ←
    Updating.runIrradiance volume pass probes active trace sizes.update.x m.irradiance
  let distance ← Updating.runDistance volume pass probes active trace sizes.update.x m.distance
  return { m with trace, irradiance, distance }

def runCascade (input : FrameInput α) (met : Surroundings α) (m : FrameMemory α) (cascade : Nat) :
    Except Fault (FrameMemory α) := do
  let pass ← input.cascades.classificationPass input.config cascade
  let m ← classify input pass m
  let capacity ← Batch.needed (← input.config.probesPerCascade)
  (List.range capacity).foldlM (runBatch input met cascade (input.isFirst || pass.reset)) m

def fillBorders (config : Config α) (resolution : Nat) (atlas : Texels (Vec4 α)) :
    Except Fault (Texels (Vec4 α)) := do
  let tiles ← config.probesCount
  let pass : BorderPass := ⟨resolution, tiles⟩
  Border.runColumns pass tiles (← Border.runRows pass tiles atlas)

def borders (input : FrameInput α) (m : FrameMemory α) : Except Fault (FrameMemory α) := do
  let irradiance ← fillBorders input.config irradianceResolution m.irradiance
  let distance ← fillBorders input.config distanceResolution m.distance
  return { m with irradiance, distance }

structure Result (α : Type) where
  memory : FrameMemory α
  afterCascades : List (FrameMemory α)
  deriving Repr

def run (input : FrameInput α) (m : FrameMemory α) : Except Fault (Result α) := do
  let m ← lightAtlas input m
  let met := surroundings input (← cull input) m.lighting
  let (m, after) ← (List.range input.volume.grid.cascades).foldlM (fun (m, after) cascade => do
    let m ← runCascade input met m cascade
    return (m, after ++ [m])) (m, [])
  return ⟨← borders input m, after⟩

end Frame

end IrradianceField
