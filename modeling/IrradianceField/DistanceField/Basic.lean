import IrradianceField.Radiance.Ray
import IrradianceField.Word

/-!
Signed distance fields: the distance from a point to the nearest surface, negative inside of it.
Rays are marched through a field by steps of the distance itself.
-/

namespace IrradianceField

/-- A field in cascades of decreasing precision; `voxelSize` is the precision of each, and
`cascadeAt` the finest cascade that contains a point. -/
structure DistanceField (α : Type) where
  sample : Vec3 α → Except Fault α
  voxelSize : Nat → Except Fault α
  cascadeAt : Vec3 α → Except Fault Nat

def maxMarchSteps : Nat := 128

/-- Where a ray met a surface: `time` along the ray and the value of the field, which is not
positive if the ray was inside of the geometry. -/
structure Hit (α : Type) where
  time : α
  distance : α
  cascade : Nat
  normal : Vec3 α
  deriving Repr

namespace DistanceField

open Scalar

variable {α : Type} [Scalar α]

def difference (f : DistanceField α) (pos step : Vec3 α) : Except Fault α := do
  return (← f.sample (pos + step)) - (← f.sample (pos - step))

def sampleGradient (f : DistanceField α) (pos : Vec3 α) : Except Fault (Vec3 α × α) := do
  let h := (← f.voxelSize (← f.cascadeAt pos)) * 0.5
  let x ← f.difference pos ⟨h, 0.0, 0.0⟩
  let y ← f.difference pos ⟨0.0, h, 0.0⟩
  let z ← f.difference pos ⟨0.0, 0.0, h⟩
  return (Vec3.normalizeOrZero ⟨x, y, z⟩, ← f.sample pos)

def march (f : DistanceField α) (ray : Ray α) (maxDistance : α) :
    Nat → α → Except Fault (Option (Hit α))
  | 0, _ => return none
  | steps + 1, time => do
    if lt time maxDistance then
      let pos := ray.point time
      let cascade ← f.cascadeAt pos
      let distance ← f.sample pos
      let threshold := (← f.voxelSize cascade) * 0.25
      if lt distance threshold then
        let (normal, _) ← f.sampleGradient pos
        return some ⟨time, distance, cascade, normal⟩
      f.march ray maxDistance steps (time + maxNum distance threshold)
    else return none

def trace (f : DistanceField α) (ray : Ray α) (maxDistance : α) : Except Fault (Option (Hit α)) :=
  f.march ray maxDistance maxMarchSteps 0.0

end DistanceField

end IrradianceField
