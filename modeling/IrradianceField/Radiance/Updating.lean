import IrradianceField.Probe.Texels
import IrradianceField.Radiance.Tracing

/-!
Updating: gathers the rays of a probe into the texels of its irradiance and distance tiles, and
blends them with what the texels held.
-/

namespace IrradianceField.Updating

open Scalar

variable {α : Type} [Scalar α]

/-- A probe of a batch whose tiles are updated: its storage slot and the weight of its history. -/
structure Target (α : Type) where
  cascade : Nat
  physicalIndex : Nat
  historyWeight : α
  deriving Repr

/-- The probe at a place of the batch, if there is one. A probe that has just become active would
blend with what its slot held before, so it has no history. -/
def target? (volume : Volume α) (pass : BatchPass) (probes : Array PackedProbe)
    (active : ActiveList) (batchProbe : Nat) : Except Fault (Option (Target α)) := do
  let place ← Word.add pass.probesOffset batchProbe
  if Batch.probesLimit ≤ batchProbe || active.count ≤ place then return none
  let index ← fetch active.entries place
  let probe : Probe α ← volume.readProbe probes pass.cascade index
  let weight := if pass.resetBlend || probe.state.isActivated then 0.0 else volume.historyWeight
  return some ⟨pass.cascade, ← volume.physicalIndex pass.cascade index, weight⟩

def Target.texel (t : Target α) (grid : Grid) (texel : Vec2 Nat) (resolution : Nat) :
    Except Fault (Vec2 Nat) := do
  let origin ← grid.tileOrigin t.cascade t.physicalIndex resolution
  (← origin.mapM (Word.add · 1)).zipWithM Word.add texel

def raysRead (volume : Volume α) : Nat := min volume.raysCount Batch.raysLimit

/-- A ray as the gathering sees it: its direction, and the stored radiance and distance. -/
def rayAt (volume : Volume α) (trace : Array (Vec4 α)) (batchProbe ray : Nat) :
    Except Fault (Vec3 α × Vec4 α) := do
  let stored ← fetch trace (← Batch.traceIndex batchProbe ray)
  return (Ray.probeDirection ray (raysRead volume) volume.raysRotation, stored)

/-- Share of rays inside of geometry from which on a probe counts as stuck in it. -/
def backfaceShare : α := 0.1

structure IrradianceSum (α : Type) where
  sum : Vec3 α
  weight : α
  backfaces : Nat
  deriving Repr

/-- Adds a ray by the cosine of its angle; rays inside of geometry are only counted. -/
def IrradianceSum.add (s : IrradianceSum α) (dir rayDir : Vec3 α) (ray : Vec4 α) :
    IrradianceSum α :=
  if lt ray.w 0.0 then { s with backfaces := s.backfaces + 1 }
  else
    let weight := maxNum (dir.dot rayDir) 0.0
    { s with sum := s.sum + ray.xyz.scale weight, weight := s.weight + weight }

/-- Irradiance and confidence around `dir`; both are zero if too many rays are inside of
geometry. -/
def gatherIrradiance (volume : Volume α) (trace : Array (Vec4 α)) (batchProbe : Nat)
    (dir : Vec3 α) : Except Fault (Vec4 α) := do
  let rays := raysRead volume
  let limit := toNat (floor (backfaceShare * ofNat rays : α))
  let total ← (List.range rays).foldlM (fun (s : IrradianceSum α) ray => do
    let (rayDir, stored) ← rayAt volume trace batchProbe ray
    return s.add dir rayDir stored) ⟨.zero, 0.0, 0⟩
  if limit < total.backfaces then return .zero
  let floorWeight := ofNat rays * 1e-9
  return (total.sum.divide (2.0 * maxNum total.weight floorWeight)).extend 1.0

/-- A change beyond this on any channel halves the weight of history. -/
def flickerThreshold : α := 0.5

/-- Of a change longer than this only a quarter is applied. -/
def flickerLimit : α := 2.0

def blendIrradiance (raw previous : Vec3 α) (historyWeight : α) : Vec3 α :=
  if le historyWeight 0.0 then raw
  else
    let delta := raw - previous
    let weight :=
      if lt flickerThreshold delta.abs.maxElement then historyWeight * 0.5 else historyWeight
    let raw := if lt flickerLimit delta.length then previous + delta.scale 0.25 else raw
    raw + (previous - raw).scale weight

def clampMoments (moments : Vec2 α) (limit : α) : Except Fault (Vec2 α) := do
  return ⟨← clamp 0.0 limit moments.x, ← clamp 0.0 (sqr limit) moments.y⟩

def distanceExponent : Nat := 10

structure DistanceSum (α : Type) where
  sum : Vec2 α
  weight : α
  deriving Repr

def DistanceSum.add (s : DistanceSum α) (dir rayDir : Vec3 α) (ray : Vec4 α) (limit : α) :
    Except Fault (DistanceSum α) := do
  let weight := powNat (maxNum (dir.dot rayDir) 0.0) distanceExponent
  let distance ← clamp 0.0 limit ray.w
  return ⟨s.sum + Vec2.scale ⟨distance, sqr distance⟩ weight, s.weight + weight⟩

/-- Mean distance and mean squared distance around `dir`, each ray's cut at `limit`. -/
def gatherDistance (volume : Volume α) (trace : Array (Vec4 α)) (batchProbe : Nat) (dir : Vec3 α)
    (limit : α) : Except Fault (Vec2 α) := do
  let rays := raysRead volume
  let total ← (List.range rays).foldlM (fun (s : DistanceSum α) ray => do
    let (rayDir, stored) ← rayAt volume trace batchProbe ray
    s.add dir rayDir stored limit) ⟨.splat 0.0, 0.0⟩
  let floorWeight := ofNat rays * 1e-9
  clampMoments (total.sum.divide (maxNum total.weight floorWeight)) limit

def blendDistance (raw previous : Vec2 α) (historyWeight limit : α) : Except Fault (Vec2 α) := do
  if le historyWeight 0.0 then return raw
  clampMoments (raw + (previous - raw).scale historyWeight) limit

/-- Updates one texel of a probe's irradiance tile, which holds values to the power of the
reciprocal of gamma. -/
def updateIrradiance (volume : Volume α) (pass : BatchPass) (probes : Array PackedProbe)
    (active : ActiveList) (trace : Array (Vec4 α)) (batchProbe : Nat) (texel : Vec2 Nat)
    (atlas : Texels (Vec4 α)) : Except Fault (Texels (Vec4 α)) := do
  let some target ← target? volume pass probes active batchProbe | return atlas
  let resolution := irradianceResolution
  if resolution ≤ texel.x || resolution ≤ texel.y then return atlas
  let dir := Octahedral.texelDirection texel resolution
  let gathered ← gatherIrradiance volume trace batchProbe dir
  let raw := gathered.xyz.powPositive (1.0 / volume.gamma)
  let pos ← target.texel volume.grid texel resolution
  let previous ← atlas.read pos
  atlas.write pos ((blendIrradiance raw previous.xyz target.historyWeight).extend 1.0)

/-- Distances beyond this many spacings are not told apart. -/
def distanceLimit (volume : Volume α) (cascade : Nat) : Except Fault α := do
  return Classification.distanceLimit * (← volume.spacing cascade)

def updateDistance (volume : Volume α) (pass : BatchPass) (probes : Array PackedProbe)
    (active : ActiveList) (trace : Array (Vec4 α)) (batchProbe : Nat) (texel : Vec2 Nat)
    (atlas : Texels (Vec4 α)) : Except Fault (Texels (Vec4 α)) := do
  let some target ← target? volume pass probes active batchProbe | return atlas
  let resolution := distanceResolution
  if resolution ≤ texel.x || resolution ≤ texel.y then return atlas
  let dir := Octahedral.texelDirection texel resolution
  let limit ← distanceLimit volume pass.cascade
  let raw ← gatherDistance volume trace batchProbe dir limit
  let pos ← target.texel volume.grid texel resolution
  let previous ← atlas.read pos
  let out ← blendDistance raw previous.xy target.historyWeight limit
  atlas.write pos ((out.extend 0.0).extend 0.0)

def tileTexels (resolution : Nat) : List (Vec2 Nat) :=
  (List.range resolution).flatMap fun y => (List.range resolution).map fun x => ⟨x, y⟩

def runIrradiance (volume : Volume α) (pass : BatchPass) (probes : Array PackedProbe)
    (active : ActiveList) (trace : Array (Vec4 α)) (probesCount : Nat) (atlas : Texels (Vec4 α)) :
    Except Fault (Texels (Vec4 α)) :=
  (List.range probesCount).foldlM (fun atlas batchProbe =>
    (tileTexels irradianceResolution).foldlM (fun atlas texel =>
      updateIrradiance volume pass probes active trace batchProbe texel atlas) atlas) atlas

def runDistance (volume : Volume α) (pass : BatchPass) (probes : Array PackedProbe)
    (active : ActiveList) (trace : Array (Vec4 α)) (probesCount : Nat) (atlas : Texels (Vec4 α)) :
    Except Fault (Texels (Vec4 α)) :=
  (List.range probesCount).foldlM (fun atlas batchProbe =>
    (tileTexels distanceResolution).foldlM (fun atlas texel =>
      updateDistance volume pass probes active trace batchProbe texel atlas) atlas) atlas

end IrradianceField.Updating
