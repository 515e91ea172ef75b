import IrradianceField.Datum.Writing
import IrradianceField.Renderer.Command

/-!
Reports of commands: what a renderer asked of its device. Objects of the device are named by a label
and the number of earlier ones of the same label.
-/

namespace IrradianceField

open Datum

variable {α : Type} [Scalar α]

def Handle.named {ι : Type} (h : Handle ι) (label : ι → String) : Datum :=
  .text (label h.name ++ "#" ++ h.generation.repr)

instance : Writable (Handle BufferName) := ⟨(·.named BufferName.label)⟩
instance : Writable (Handle ShaderName) := ⟨(·.named ShaderName.label)⟩
instance : Writable (Handle GroupName) := ⟨(·.named GroupName.label)⟩

/-- Bits by which a device knows the uses of a buffer, and the stage of compute kernels. -/
def BufferUsage.bit : BufferUsage → Nat
  | copySource => 4
  | copyTarget => 8
  | uniform => 64
  | storage => 128
  | indirect => 256

def computeStageBit : Nat := 4

instance : Writable Access := ⟨fun
  | .uniform => .text "uniform"
  | .readable => .text "read"
  | .writable => .text "write"⟩

instance : Writable (Cell α) := ⟨fun
  | .scalar a => of a
  | .word n => of n
  | .signed i => of i⟩

namespace Cell

def rotationStart : Nat := 36

/-- Whether four cells are a rotation; it is random, so that only this is reported. -/
def isRotation (cells : List (Cell α)) : Bool :=
  let squared := cells.foldl (fun sum c => match c with
    | scalar a => sum + a * a
    | _ => sum) (0.0 : α)
  Scalar.lt (Scalar.abs (squared - 1.0)) 1e-3

def reportVolume (cells : List (Cell α)) : Datum :=
  let rotation := (cells.drop rotationStart).take 4
  .list ((cells.take rotationStart).map of ++ rotation.map (fun _ => of (isRotation rotation)) ++
    (cells.drop (rotationStart + 4)).map of)

def inFours : List (Cell α) → List Datum
  | a :: b :: c :: d :: rest => of [a, b, c, d] :: inFours rest
  | _ => []

def longest : Nat := 512
def stride : Nat := 397

def reportLong (cells : List (Cell α)) : Datum :=
  if cells.length ≤ longest then of cells
  else
    let sampled := cells.zipIdx.filter fun (_, i) => i % stride = 0
    .record [("len", of cells.length), ("at", of (sampled.map fun (c, i) => (i, c)))]

def report (b : BufferName) (cells : List (Cell α)) : Datum :=
  match b with
  | .volume => reportVolume cells
  | .objects | .atlasSurfaces | .screenSurfaces => .list (inFours cells)
  | .addresses | .tiles => of cells
  | _ => reportLong cells

end Cell

instance : Writable DispatchSize := ⟨fun
  | .groups count => of count
  | .stored b offset => of (b, offset)⟩

def numbered {β : Type} [Writable β] (l : List β) : Datum := of (l.zipIdx.map fun (b, i) => (i, b))

instance : Writable (Command α) := ⟨fun
  | .createBuffer b size =>
    of ("buffer", b, size, (b.name.usage.map BufferUsage.bit).foldl (· + ·) 0, false)
  | .createShader s words => of ("shader", s, words)
  | .createGroupLayout g accesses =>
    of ("bind_group_layout", g.named GroupName.layoutLabel,
      accesses.zipIdx.map fun (a, i) => (i, computeStageBit, a))
  | .createGroup g buffers =>
    of ("bind_group", g, g.named GroupName.layoutLabel, numbered buffers)
  | .createPipelineLayout p groups size =>
    of ("pipeline_layout", p.named PassName.pipelineLayoutLabel,
      groups.map (·.named GroupName.layoutLabel),
      if size = 0 then [] else [(computeStageBit, 0, size)])
  | .createPipeline p s =>
    of ("pipeline", p.named PassName.pipelineLabel, p.named PassName.pipelineLayoutLabel, s,
      s.name.entryPoint)
  | .write b offset cells => of ("write", b, offset, Cell.report b.name cells)
  | .clear b offset size => of ("clear", b, offset, size)
  | .run p constants groups size =>
    let words := if constants.isEmpty then none else some (0, constants.map Cell.toWord)
    of ("pass", p.name.runLabel, p.named PassName.pipelineLabel, words, numbered groups, size)⟩

def Recorded.report {β : Type} (r : Recorded α β) (value : Datum) : Datum :=
  of (value, r.commands, (r.messages.filter (·.isWarning)).map (·.render))

end IrradianceField
