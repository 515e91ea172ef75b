import IrradianceField.Radiance.Sampler

/-!
Indirect lighting: the light that a surface reflects of what the probes see, and its addition to
every pixel of a screen.
-/

namespace IrradianceField

/-- What is known of the surface in a pixel: its albedo and its normal, packed in a word. -/
structure SurfaceTexel (α : Type) where
  albedo : Vec3 α
  normal : Nat
  deriving DecidableEq, Repr, Inhabited

namespace SurfaceTexel

variable {α : Type} [Scalar α]

def ofNormal (albedo normal : Vec3 α) : SurfaceTexel α := ⟨albedo, Octahedral.pack normal⟩

def normalVector (t : SurfaceTexel α) : Vec3 α := Octahedral.unpack t.normal

end SurfaceTexel

structure View (α : Type) where
  clipToWorld : Mat4 α
  viewport : Vec2 Nat
  deriving Repr, Inhabited

namespace View

variable {α : Type} [Scalar α]

def contains (v : View α) (pixel : Vec2 Nat) : Bool :=
  pixel.x < v.viewport.x && pixel.y < v.viewport.y

def index (v : View α) (pixel : Vec2 Nat) : Except Fault Nat := Texels.index v.viewport pixel

def worldPosition (v : View α) (pixel : Vec2 Nat) (depth : α) : Vec3 α :=
  let middle : Vec2 α := (Vec2.ofNat pixel).shift 0.5
  let ndc := ((middle / Vec2.ofNat v.viewport).scale 2.0).shiftDown 1.0
  let pos := v.clipToWorld.apply ⟨ndc.x, -ndc.y, depth, 1.0⟩
  pos.xyz.divide pos.w

end View

namespace Lighting

open Scalar

variable {α : Type} [Scalar α]

def indirect (albedo irradiance : Vec3 α) (intensity : α) : Vec3 α :=
  (albedo.divide pi * irradiance).scale intensity

def atSurface (s : Sampler α) (pos : Vec3 α) (texel : SurfaceTexel α) (bias : α) :
    Except Fault (Vec4 α) := do
  let irradiance ← s.sample pos texel.normalVector bias
  return (indirect texel.albedo irradiance s.volume.intensity).extend 0.0

/-- Adds indirect light to one pixel; there is no surface at depth one. -/
def applyPixel (view : View α) (s : Sampler α) (bias : α) (depth : Array α)
    (surfaces : Array (SurfaceTexel α)) (pixel : Vec2 Nat) (output : Array (Vec4 α)) :
    Except Fault (Array (Vec4 α)) := do
  if !view.contains pixel then return output
  let i ← view.index pixel
  let pixelDepth ← fetch depth i
  if le 1.0 pixelDepth then return output
  let texel ← fetch surfaces i
  let light ← atSurface s (view.worldPosition pixel pixelDepth) texel bias
  store output i ((← fetch output i) + light)

def groupSide : Nat := 8

def threads (width height : Nat) : List (Vec2 Nat) :=
  let cover (n : Nat) := (n + (groupSide - 1)) / groupSide * groupSide
  (List.range (cover height)).flatMap fun y => (List.range (cover width)).map fun x => ⟨x, y⟩

def apply (view : View α) (s : Sampler α) (bias : α) (depth : Array α)
    (surfaces : Array (SurfaceTexel α)) (output : Array (Vec4 α)) :
    Except Fault (Array (Vec4 α)) :=
  (threads view.viewport.x view.viewport.y).foldlM
    (fun output pixel => applyPixel view s bias depth surfaces pixel output) output

end Lighting

end IrradianceField
