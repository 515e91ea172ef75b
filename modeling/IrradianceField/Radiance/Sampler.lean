import IrradianceField.Probe.Texels
import IrradianceField.Volume.Basic

/-!
Sampling: irradiance at a point, out of the eight probes around it. Each probe counts by its
distance, by whether it faces the point, and by whether it is likely to see it.
-/

namespace IrradianceField

structure Sampler (α : Type) where
  volume : Volume α
  probes : Array PackedProbe
  irradiance : Texels (Vec4 α)
  distance : Texels (Vec4 α)
  deriving Repr

namespace Sampler

open Scalar

variable {α : Type} [Scalar α]

/-- Weights below this are pushed further towards zero. -/
def crushThreshold : α := 0.2

/-- The `i`-th corner of a cell: its bits are the steps along the axes. -/
def cornerOffset (i : Nat) : Vec3 Nat := ⟨i % 2, i / 2 % 2, i / 4 % 2⟩

def trilinearWeights (offset : Vec3 Nat) (alpha : Vec3 α) : Vec3 α :=
  let one : Vec3 α := .splat 1.0
  let offset : Vec3 α := .ofNat offset
  (one - alpha) * (one - offset) + alpha * offset

/-- How far a cascade covers a point: one inside, zero outside, and linear over the last half of a
spacing. -/
def cascadeFade (s : Sampler α) (cascade : Nat) (pos : Vec3 α) : Except Fault α := do
  let spacing ← s.volume.spacing cascade
  let extent ← s.volume.extent cascade
  let center ← s.volume.center cascade
  let edgeDistance := (extent - (pos - center).abs).minElement
  return saturate (edgeDistance / (spacing * 0.5))

/-- Weight of a probe that faces the point, from one at its front to zero at its back. -/
def facingWeight (probePos pos normal : Vec3 α) : α :=
  sqr ((probePos - pos).normalizeOrZero.dot normal * 0.5 + 0.5)

/-- Bound on the chance that a point at `distance` is seen, by the mean and the mean square of the
distances seen in its direction. -/
def chebyshevBound (distance mean meanSquare : α) : α :=
  let variance := Scalar.abs (sqr mean - meanSquare)
  variance / (variance + sqr (distance - mean))

def crush (weight : α) : α :=
  if lt weight crushThreshold then weight * (sqr weight / sqr crushThreshold) else weight

def probeWeight (s : Sampler α) (cascade : Nat) (coords offset : Vec3 Nat)
    (alpha pos biasedPos normal : Vec3 α) : Except Fault α := do
  let index ← s.volume.grid.probeIndex coords
  let probe ← s.volume.readProbe s.probes cascade index
  if probe.state.isInactive then return 0.0
  let probePos ← s.volume.relocatedPosition cascade index probe
  let facing := facingWeight probePos pos normal
  let toBiased := biasedPos - probePos
  let distance := toBiased.length
  let physical ← s.volume.physicalIndex cascade index
  let uv ← s.volume.atlasPosition cascade physical
    (Octahedral.encode toBiased.normalizeOrZero) distanceResolution
  let moments := (← s.distance.sampleBilinear uv).xy
  let visible :=
    if lt moments.x distance then
      let bound := chebyshevBound distance moments.x moments.y
      facing * maxNum (bound * bound * bound) 0.05
    else facing
  let weight := crush (maxNum visible 0.000001)
  let trilinear := trilinearWeights offset alpha
  return weight * maxNum (trilinear.x * trilinear.y * trilinear.z) 0.001

structure WeightedSum (α : Type) where
  sum : Vec3 α
  weight : α
  deriving Repr

def probeValue (s : Sampler α) (cascade : Nat) (coords : Vec3 Nat) (normal : Vec3 α) :
    Except Fault (Vec3 α) := do
  let index ← s.volume.grid.probeIndex coords
  let physical ← s.volume.physicalIndex cascade index
  let uv ← s.volume.atlasPosition cascade physical (Octahedral.encode normal)
    irradianceResolution
  return (← s.irradiance.sampleBilinear uv).xyz.powPositive (s.volume.gamma * 0.5)

/-- Irradiance as the probes of one cascade see it. The point is moved away from the surface by
`bias` before it is tested, so that the surface does not hide it from its own probes. -/
def sampleCascade (s : Sampler α) (cascade : Nat) (pos normal : Vec3 α) (bias : α) :
    Except Fault (Vec3 α) := do
  let spacing ← s.volume.spacing cascade
  let counts := s.volume.grid.counts
  let gridMin := (← s.volume.center cascade) - (← s.volume.extent cascade)
  let viewDir := (s.volume.viewPos - pos).normalizeOrZero
  let biasedPos := pos + (normal.scale 0.2 + viewDir.scale 0.8).scale (0.75 * spacing * bias)
  let lastCell ← counts.mapM (Word.sub · 2)
  let cell := (((pos - gridMin).divide spacing).floor.zipWith maxNum .zero).toNat
  let base := cell.zipWith min lastCell
  let basePos := gridMin + (Vec3.ofNat base).scale spacing
  let alpha := ((biasedPos - basePos).divide spacing).confine .zero (.splat 1.0)
  let total ← (List.range 8).foldlM (fun (total : WeightedSum α) corner => do
    let offset := cornerOffset corner
    let coords ← base.zipWithM Word.add offset
    let coords := coords.zipWith min (← counts.mapM (Word.sub · 1))
    let weight ← s.probeWeight cascade coords offset alpha pos biasedPos normal
    if lt 0.0 weight then
      let value ← s.probeValue cascade coords normal
      return ⟨total.sum + value.scale weight, total.weight + weight⟩
    else return total) ⟨.zero, 0.0⟩
  if le total.weight 0.0 then return .zero
  let irradiance := total.sum.divide total.weight
  return (irradiance * irradiance).scale (2.0 * pi)

/-- Looks for the first of `remaining` cascades that covers the point, and blends it with the next
one near its edge. -/
def sampleFrom (s : Sampler α) (pos normal : Vec3 α) (bias : α) :
    Nat → Nat → Except Fault (Vec3 α)
  | 0, _ => return .zero
  | remaining + 1, cascade => do
    let fade ← s.cascadeFade cascade pos
    if lt 0.0 fade then
      let irradiance ← s.sampleCascade cascade pos normal bias
      if le 1.0 fade then return irradiance
      let next ←
        if 0 < remaining then s.sampleCascade (cascade + 1) pos normal bias else pure .zero
      return next + (irradiance - next).scale fade
    else s.sampleFrom pos normal bias remaining (cascade + 1)

/-- Irradiance that arrives at a point, black outside of all cascades. -/
def sample (s : Sampler α) (pos normal : Vec3 α) (bias : α) : Except Fault (Vec3 α) :=
  s.sampleFrom pos normal bias s.volume.grid.cascades 0

end Sampler

end IrradianceField
