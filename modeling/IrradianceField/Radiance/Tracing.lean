import IrradianceField.Probe.Batch
import IrradianceField.Probe.Classification

/-!
Tracing: what the rays of the active probes see. The sign of the stored distance is what tells the
later passes that a ray started inside of geometry.
-/

namespace IrradianceField

/-- What rays meet: a field of distances, the radiance of the sky by direction, and the radiance of
a surface by position, normal and tolerance. -/
structure Surroundings (α : Type) where
  field : DistanceField α
  sky : Vec3 α → Except Fault (Vec3 α)
  surface : Vec3 α → Vec3 α → α → Except Fault (Vec4 α)

namespace Tracing

open Scalar

variable {α : Type} [Scalar α]

def skyDistance : α := 1e27

/-- Radiance and signed distance of a ray. One that starts inside of geometry carries no radiance
and a negative distance, even if it is stuck at its origin. -/
def traceRay (s : Surroundings α) (ray : Ray α) (maxDistance : α) : Except Fault (Vec4 α) := do
  match ← s.field.trace ray maxDistance with
  | none => return (← s.sky ray.direction).extend skyDistance
  | some hit =>
    let voxelSize ← s.field.voxelSize hit.cascade
    if lt hit.time voxelSize && le hit.distance 0.0 then
      return Vec3.zero.extend (-maxNum (hit.time * 0.2) 1e-4)
    let radiance ← s.surface (ray.point hit.time) (-ray.direction) voxelSize
    return radiance.xyz.extend (hit.time + 0.5 * voxelSize)

def traceProbe (volume : Volume α) (pass : BatchPass) (probes : Array PackedProbe)
    (active : ActiveList) (s : Surroundings α) (ray batchProbe : Nat) (trace : Array (Vec4 α)) :
    Except Fault (Array (Vec4 α)) := do
  let place ← Word.add pass.probesOffset batchProbe
  if min volume.raysCount Batch.raysLimit ≤ ray then return trace
  if active.count ≤ place then return trace
  let index ← fetch active.entries place
  let probe ← volume.readProbe probes pass.cascade index
  let origin ← volume.relocatedPosition pass.cascade index probe
  let direction := Ray.probeDirection ray volume.raysCount volume.raysRotation
  let result ← traceRay s ⟨origin, direction⟩ volume.rayMaxDistance
  store trace (← Batch.traceIndex batchProbe ray) result

def run (volume : Volume α) (pass : BatchPass) (probes : Array PackedProbe) (active : ActiveList)
    (s : Surroundings α) (groups : Vec3 Nat) (trace : Array (Vec4 α)) :
    Except Fault (Array (Vec4 α)) :=
  (List.range groups.y).foldlM (fun trace batchProbe =>
    (List.range (groups.x * Batch.traceGroupSize)).foldlM (fun trace ray =>
      traceProbe volume pass probes active s ray batchProbe trace) trace) trace

end Tracing

end IrradianceField
