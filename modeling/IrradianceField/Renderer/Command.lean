import IrradianceField.Atlas.Registry
import IrradianceField.Renderer.Layout
import IrradianceField.Renderer.Passes

/-!
Commands: what a renderer asks of its device. Every operation of the renderer is a value: the
commands that it gave, what it told a reader of its log, and its result or why it failed.
-/

namespace IrradianceField

/-- An object on the device: its name, and how many objects of that name there were before it. -/
structure Handle (ι : Type) where
  name : ι
  generation : Nat
  deriving DecidableEq, Repr

/-- Groups of threads of a run, counted by the renderer or by an earlier pass. -/
inductive DispatchSize where
  | groups (count : Vec3 Nat)
  | stored (buffer : Handle BufferName) (offset : Nat)
  deriving DecidableEq, Repr

inductive Command (α : Type) where
  | createBuffer (buffer : Handle BufferName) (size : Nat)
  | createShader (shader : Handle ShaderName) (words : List Nat)
  | createGroupLayout (group : Handle GroupName) (accesses : List Access)
  | createGroup (group : Handle GroupName) (buffers : List (Handle BufferName))
  | createPipelineLayout (pass : Handle PassName) (groups : List (Handle GroupName))
      (constantsSize : Nat)
  | createPipeline (pass : Handle PassName) (shader : Handle ShaderName)
  | write (buffer : Handle BufferName) (offset : Nat) (cells : List (Cell α))
  | clear (buffer : Handle BufferName) (offset size : Nat)
  | run (pass : Handle PassName) (constants : List (Cell α)) (groups : List (Handle GroupName))
      (size : DispatchSize)
  deriving Repr

inductive RenderFailure (α : Type) where
  | fault (f : Fault)
  | invalidConfig (problems : List (ConfigProblem α))
  | voxelCascades (limit got : Nat)
  | voxelsCount (expected got : Nat)
  | tileTexels (size : Vec2 Nat)
  | atlasTexels (expected : Nat)
  | screenTexels (size : Vec2 Nat)
  | outsideBuffer (length offset size : Nat)
  deriving Repr

namespace RenderFailure

variable {α : Type} [Scalar α]

def message : RenderFailure α → String
  | fault f => f.message
  | invalidConfig problems =>
    "Invalid configuration:\n- " ++ "\n- ".intercalate (problems.map (·.message))
  | voxelCascades limit got => s!"Expected 1..={limit} SDF cascades, got {got}"
  | voxelsCount expected got =>
    "assertion `left == right` failed: Voxels don't match the SDF's resolution\n" ++
      s!"  left: {expected}\n right: {got}"
  | tileTexels ⟨width, height⟩ =>
    let texels := width * height
    s!"Tile of {width}x{height} texels requires {texels} texels of each kind"
  | atlasTexels expected => s!"Atlas requires {expected} texels of each kind"
  | screenTexels ⟨width, height⟩ =>
    let texels := width * height
    s!"Viewport of {width}x{height} pixels requires {texels} pixels of each kind"
  | outsideBuffer length offset size =>
    s!"Tried to write {length} bytes at offset {offset} into a buffer of {size} bytes"

end RenderFailure

/-- Outcome of an operation. Commands and messages precede the failure, if there is one. -/
structure Recorded (α β : Type) where
  commands : List (Command α)
  messages : List RegistryMessage
  result : Except (RenderFailure α) β
  deriving Repr

namespace Recorded

variable {α β γ : Type}

def ofResult (result : Except (RenderFailure α) β) : Recorded α β := ⟨[], [], result⟩

/-- The second operation is not begun if the first one fails. -/
def andThen (first : Recorded α β) (second : β → Recorded α γ) : Recorded α γ :=
  match first.result with
  | .error e => ⟨first.commands, first.messages, .error e⟩
  | .ok b =>
    let next := second b
    ⟨first.commands ++ next.commands, first.messages ++ next.messages, next.result⟩

instance : Monad (Recorded α) where
  pure b := ofResult (.ok b)
  bind := andThen

def emit (c : Command α) : Recorded α Unit := ⟨[c], [], .ok ()⟩

def tell (messages : List RegistryMessage) : Recorded α Unit := ⟨[], messages, .ok ()⟩

def fail (e : RenderFailure α) : Recorded α β := ofResult (.error e)

def checked (r : Except Fault β) : Recorded α β := ofResult (r.mapError .fault)

def ensure (condition : Bool) (e : RenderFailure α) : Recorded α Unit :=
  if condition then pure () else fail e

end Recorded

end IrradianceField
