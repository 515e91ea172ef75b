import IrradianceField.Direction.Octahedral
import IrradianceField.Probe.Texels

/-!
The sky: radiance by direction, kept as a square octahedral map.
-/

namespace IrradianceField.Sky

variable {α : Type} [Scalar α]

def resolution : Nat := 64

def size : Vec2 Nat := .splat resolution

def bakeTexel (radiance : Vec3 α → Vec3 α) (i : Nat) : Except Fault (Vec4 α) := do
  let texel ← Texels.position size i
  return (radiance (Octahedral.texelDirection texel resolution)).extend 1.0

def bake (radiance : Vec3 α → Vec3 α) : Except Fault (Array (Vec4 α)) := do
  let count ← Word.mul size.x size.y
  return (← (List.range count).mapM (bakeTexel radiance)).toArray

def sample (map : Array (Vec4 α)) (dir : Vec3 α) : Except Fault (Vec3 α) := do
  let uv := ((Octahedral.encode dir).scale 0.5).shift 0.5
  let texels : Texels (Vec4 α) := ⟨map, size⟩
  return (← texels.sampleBilinear (uv.scale (Scalar.ofNat resolution))).xyz

end IrradianceField.Sky
