import IrradianceField.Datum.Reading
import IrradianceField.Direction.Rotation
import IrradianceField.Radiance.Lighting

/-!
Descriptions of buffers: a list of all elements, or one element that fills the buffer, or two
between which pseudo-random ones lie; single elements may be set afterwards.
-/

namespace IrradianceField

structure BufferElement (α : Type) where
  components : List α

namespace BufferElement

variable {α : Type} [Scalar α]

/-- An element of one component may be written without brackets. -/
instance [Readable α] : Readable (BufferElement α) := ⟨fun d => do
  match d with
  | .list _ => return ⟨← d.as⟩
  | _ => return ⟨[← d.as]⟩⟩

def scalar (e : BufferElement α) (i : Nat) : α := e.components.getD i 0.0

def vec3 (e : BufferElement α) (i : Nat) : Vec3 α :=
  ⟨e.scalar i, e.scalar (i + 1), e.scalar (i + 2)⟩

def vec4 (e : BufferElement α) : Vec4 α := (e.vec3 0).extend (e.scalar 3)

def surface (e : BufferElement α) : SurfaceTexel α := .ofNormal (e.vec3 0) (e.vec3 3)

def nextState (state : Nat) : Nat := (state * 1664525 + 1013904223) % 4294967296

def draw (state : Nat) : List (α × α) → Nat × List α
  | [] => (state, [])
  | (lo, hi) :: bounds =>
    let state := nextState state
    let (last, components) := draw state bounds
    (last, (lo + (hi - lo) * Rotation.unit state) :: components)

def drawMany (bounds : List (α × α)) (state n : Nat) : Array (BufferElement α) :=
  ((List.range n).foldl (fun (state, out) _ =>
    let (state, components) := draw state bounds
    (state, out.push ⟨components⟩)) (state, #[])).2

variable [Readable α]

def readBase (d : Datum) (n : Nat) : Answer (Array (BufferElement α)) := do
  match d.field? "const" with
  | some e => return .replicate n (← e.as)
  | none =>
    let lo : BufferElement α ← d.get "lo"
    let hi : BufferElement α ← d.get "hi"
    return drawMany (lo.components.zip hi.components) (← d.get "lcg") n

def readMany (d : Datum) (n : Nat) : Answer (Array (BufferElement α)) := do
  match d with
  | .list _ => d.as
  | _ =>
    let sets : List (Nat × BufferElement α) ← d.getD "set" []
    return sets.foldl (fun out (i, e) => out.setIfInBounds i e) (← readBase d n)

end BufferElement

namespace Datum

variable {α : Type} [Scalar α] [Readable α]

def buffer {β : Type} (d : Datum) (key : String) (n : Nat) (make : BufferElement α → β) :
    Answer (Array β) := do
  return (← BufferElement.readMany (← d.get key) n).map make

def scalars (d : Datum) (key : String) (n : Nat) : Answer (Array α) := d.buffer key n (·.scalar 0)

def vectors (d : Datum) (key : String) (n : Nat) : Answer (Array (Vec4 α)) :=
  d.buffer key n BufferElement.vec4

def surfaces (d : Datum) (key : String) (n : Nat) : Answer (Array (SurfaceTexel α)) :=
  d.buffer key n BufferElement.surface

def image (d : Datum) (key : String) (size : Vec2 Nat) : Answer (Texels (Vec4 α)) := do
  return ⟨← d.vectors key (size.x * size.y), size⟩

end Datum

end IrradianceField
