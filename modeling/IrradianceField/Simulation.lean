import IrradianceField.Frame

/-!
Simulation: runs whole frames one after another, with the grids that follow the view and the
registry of objects.
-/

namespace IrradianceField

/-- Records are those of the last frame that found the registry changed. -/
structure Simulation (A α : Type) where
  config : Config α
  scene : Scene α
  cascades : Cascades α
  registry : Registry A α
  records : SerializedAtlas α
  memory : FrameMemory α
  framesRun : Nat

namespace Simulation

variable {A α : Type} [RectAllocator A] [Scalar α]

def create (config : Config α) (scene : Scene α) : Except Fault (Simulation A α) := do
  return {
    config
    scene
    cascades := .create config
    registry := ← Registry.create config.atlasResolution config.atlasMaxObjects
    records := ⟨#[], #[], #[], 0⟩
    memory := ← FrameMemory.initial config
    framesRun := 0 }

def setObject (s : Simulation A α) (id : Nat) (desc : ObjectDesc α) : Simulation A α :=
  { s with registry := (s.registry.setObject id desc).1 }

def removeObject (s : Simulation A α) (id : Nat) : Simulation A α :=
  { s with registry := (s.registry.removeObject id).1 }

def refreshRecords (s : Simulation A α) : Simulation A α :=
  if s.registry.isDirty then
    let (records, registry, _) := s.registry.serialize
    { s with records, registry }
  else s

/-- What the volume of the frame is, and what its passes left behind. -/
structure Report (α : Type) where
  cascades : Cascades α
  volume : Volume α
  result : Frame.Result α

def advance (s : Simulation A α) (viewPos : Vec3 α) (raysRotation : Quat α) :
    Except Fault (Simulation A α × Report α) := do
  let cascades ← s.cascades.update viewPos
  let volume ← cascades.volume s.config viewPos raysRotation
  let s := refreshRecords { s with cascades }
  let input : FrameInput α := {
    config := s.config
    cascades
    volume
    constants := s.config.atlasConstants viewPos s.records.addresses.size
    records := s.records
    scene := s.scene
    isFirst := s.framesRun = 0 }
  let result ← Frame.run input s.memory
  return ({ s with memory := result.memory, framesRun := s.framesRun + 1 },
    ⟨cascades, volume, result⟩)

end Simulation

end IrradianceField
