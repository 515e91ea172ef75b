import IrradianceField.Renderer.Command
import IrradianceField.Volume.Cascades

/-!
Renderer: the state that is kept beside the device. Every change of the configuration creates all
buffers and passes anew.
-/

namespace IrradianceField

/-- A value that a uniform buffer repeats; `isDirty` tells whether it has changed since it was
last written there. -/
structure Staged (β : Type) where
  value : β
  isDirty : Bool
  deriving Repr

namespace Staged

variable {β : Type}

def ofValue (value : β) : Staged β := ⟨value, true⟩

def modify (m : Staged β) (f : β → β) : Staged β := ofValue (f m.value)

end Staged

/-- State of a renderer; `generation` counts the changes of the configuration. Of the serialized
atlas only the number of tiles and the side of the largest are kept. -/
structure Renderer (A α : Type) where
  config : Config α
  generation : Nat
  cascades : Cascades α
  registry : Registry A α
  volume : Staged (Volume α)
  voxelLayout : Staged (VoxelLayout α)
  atlas : Staged (AtlasConstants α)
  view : Staged (View α)
  sky : Array (Vec4 α)
  skyIsDirty : Bool
  tilesCount : Nat
  maxTileSize : Nat
  resetBlend : Bool

namespace Renderer

open Recorded

variable {A α : Type} [RectAllocator A] [Scalar α]

def groupsOf (p : PassName) (generation : Nat) : List (Handle GroupName) :=
  (List.range p.groups.length).map fun i => ⟨⟨p, i⟩, generation⟩

def createBuffer (config : Config α) (generation : Nat) (b : BufferName) : Recorded α Unit := do
  let size ← checked (b.size config)
  emit (.createBuffer ⟨b, generation⟩ size)

def createGroup (generation : Nat) (group : GroupName) (bindings : List Binding) :
    Recorded α Unit := do
  emit (.createGroupLayout ⟨group, generation⟩ (bindings.map (·.access)))
  emit (.createGroup ⟨group, generation⟩ (bindings.map fun b => ⟨b.buffer, generation⟩))

def createPass (generation : Nat) (p : PassName) : Recorded α Unit := do
  p.groups.zipIdx.forM fun (bindings, i) => createGroup generation ⟨p, i⟩ bindings
  emit (.createPipelineLayout ⟨p, generation⟩ (groupsOf p generation)
    (p.constantCells * Cell.size))
  emit (.createPipeline ⟨p, generation⟩ ⟨p.shader, 0⟩)

/-- Creates all that a renderer has on its device, provided that the configuration is usable. -/
def createResources (config : Config α) (generation : Nat) : Recorded α Unit := do
  let problems ← checked config.validate
  ensure problems.isEmpty (.invalidConfig problems)
  BufferName.all.forM (createBuffer config generation)
  PassName.all.forM (createPass generation)

def start (config : Config α) (generation : Nat) (registry : Registry A α) : Renderer A α where
  config
  generation
  cascades := .create config
  registry
  volume := .ofValue .unplaced
  voxelLayout := .ofValue
    ⟨.replicate maxVoxelCascades ⟨.zero, 0.0⟩, config.sdfResolution, config.sdfCascades⟩
  atlas := .ofValue (config.atlasConstants .zero 0)
  view := .ofValue ⟨.identity, config.viewportSize⟩
  sky := #[]
  skyIsDirty := false
  tilesCount := 0
  maxTileSize := 0
  resetBlend := true

def create (config : Config α) : Recorded α (Renderer A α) := do
  createResources config 0
  let registry ← checked (Registry.create config.atlasResolution config.atlasMaxObjects)
  return start config 0 registry

/-- Changes the configuration. All that was written is lost, but the objects and the sky are kept
and written again. -/
def reconfigure (r : Renderer A α) (config : Config α) : Recorded α (Renderer A α) := do
  if config.same r.config then return r
  let generation := r.generation + 1
  createResources config generation
  let (registry, log) ←
    checked (r.registry.reconfigure config.atlasResolution config.atlasMaxObjects)
  tell log
  return { start config generation registry with sky := r.sky, skyIsDirty := !r.sky.isEmpty }

def update (r : Renderer A α) (viewPos : Vec3 α) (raysRotation : Quat α) :
    Recorded α (Renderer A α) := do
  let cascades ← checked (r.cascades.update viewPos)
  let volume ← checked (cascades.volume r.config viewPos raysRotation)
  return { r with
    cascades
    volume := .ofValue volume
    atlas := r.atlas.modify fun a => { a with viewPos, chunkSize := r.config.chunkSize } }

def setObject (r : Renderer A α) (id : Nat) (desc : ObjectDesc α) : Recorded α (Renderer A α) := do
  let (registry, log) := r.registry.setObject id desc
  tell log
  return { r with registry }

def removeObject (r : Renderer A α) (id : Nat) : Recorded α (Renderer A α) := do
  let (registry, log) := r.registry.removeObject id
  tell log
  return { r with registry }

def takeDirtyTiles (r : Renderer A α) : List (DirtyTile α) × Renderer A α :=
  let (tiles, registry) := r.registry.takeDirtyTiles
  (tiles, { r with registry })

def buffer (r : Renderer A α) (b : BufferName) : Handle BufferName := ⟨b, r.generation⟩

end Renderer

end IrradianceField
