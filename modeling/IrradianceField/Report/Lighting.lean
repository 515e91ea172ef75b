import IrradianceField.Datum.Writing
import IrradianceField.DistanceField.Basic
import IrradianceField.Radiance.Sampler
import IrradianceField.Volume.Cascades

/-!
Reports of the lighting: the grids of probes, the passes over them, rays, and images that changed.
-/

namespace IrradianceField

open Datum

variable {α : Type} [Scalar α]

instance : Writable (Probe α) := ⟨fun p => of (p.offset, p.state.code)⟩

instance : Writable ActiveList := ⟨fun l => of l.toList⟩

instance : Writable ClassificationPass := ⟨fun p =>
  of (p.cascade, p.mode.code, p.reset.toNat, p.scrollClear.extend 0, p.scrollDirections.extend 0)⟩

instance : Writable (Cascade α) := ⟨fun c =>
  .record [("origin", of c.placement.origin), ("spacing", of c.placement.spacing),
    ("scroll", of c.placement.scroll), ("clear", of c.scrollClear),
    ("dirs", of c.scrollDirections), ("reset", of c.reset), ("center", of c.center)]⟩

instance : Writable (Volume α) := ⟨fun v =>
  .record [
    ("origin_and_spacing", of (v.placements.map fun p => p.origin.extend p.spacing)),
    ("scroll_offsets", of (v.placements.map fun p => p.scroll.extend 0)),
    ("probes_counts", of (v.grid.counts.extend v.grid.cascades)),
    ("rays_rotation", of v.raysRotation),
    ("view_pos", of (v.viewPos.extend v.rayMaxDistance)),
    ("rays_count", of v.raysCount), ("history_weight", of v.historyWeight),
    ("irradiance_gamma", of v.gamma), ("intensity", of v.intensity)]⟩

/-- A ray's hit with the point of it; a ray that misses stays at its origin. -/
def Ray.report (ray : Ray α) (hit : Option (Hit α)) : Datum :=
  let h := hit.getD ⟨0.0, 0.0, 0, .zero⟩
  .record [("hit", of hit.isSome), ("time", of h.time), ("sdf", of h.distance),
    ("cascade", of h.cascade), ("normal", of h.normal), ("pos", of (ray.point h.time))]

def Volume.reportProbes (v : Volume α) (cascade : Nat) (probes : Array PackedProbe) :
    Except Fault Datum := do
  let count ← v.grid.probesPerCascade
  return of ((probes.toList.drop (cascade * count)).take count)

def Vec4.storedDiffer (a b : Vec4 α) : Bool := a.map Scalar.toBits != b.map Scalar.toBits

def Texels.reportChanges (before after : Texels (Vec4 α)) : Datum :=
  of ((before.data.toList.zip after.data.toList).zipIdx.filterMap fun ((a, b), i) =>
    if a.storedDiffer b then some (i % after.size.x, i / after.size.x, b) else none)

end IrradianceField
