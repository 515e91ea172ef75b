import IrradianceField.Atlas.Culling
import IrradianceField.DistanceField.Voxels
import IrradianceField.Probe.Batch
import IrradianceField.Probe.Classification

/-!
Configuration of the renderer, and the problems that make one unusable.
-/

namespace IrradianceField

structure Config (α : Type) where
  cascades : Nat
  probesCounts : Vec3 Nat
  probesSpacing : α
  spacingMultiplier : α
  raysCount : Nat
  rayMaxDistance : α
  historyWeight : α
  irradianceGamma : α
  lightingIntensity : α
  relocationMode : RelocationMode
  samplerBias : α
  sdfResolution : Nat
  sdfCascades : Nat
  atlasResolution : Nat
  atlasChunkResolution : Nat
  atlasViewDistance : α
  atlasMaxObjects : Nat
  atlasCulledCapacity : Nat
  atlasDebug : Bool
  atlasSampleAllTiles : Bool
  viewportSize : Vec2 Nat
  deriving Repr

/-- Something that is wrong with a configuration, and the value that is. -/
inductive ConfigProblem (α : Type) where
  | cascades (got : Nat)
  | probesCounts (got : Vec3 Nat)
  | probesTotal (got : Nat)
  | probesSpacing (got : α)
  | spacingMultiplier (got : α)
  | raysCount (got : Nat)
  | rayMaxDistance (got : α)
  | historyWeight (got : α)
  | irradianceGamma (got : α)
  | sdfResolution (got : Nat)
  | sdfCascades (got : Nat)
  | atlasResolution (got : Nat)
  | atlasChunkResolution (got : Nat)
  | atlasViewDistance (got : α)
  | atlasMaxObjects
  | atlasCulledCapacity (got : Nat)
  | viewportSize (got : Vec2 Nat)
  deriving DecidableEq, Repr

/-- Border passes run one group for each probe, of which there are at most this many. -/
def maxProbes : Nat := 65535

/-- Most bytes of a buffer that kernels can read. -/
def maxBindingSize : Nat := 134217728

namespace ConfigProblem

variable {α : Type} [Scalar α]

def number (a : α) : String := Decimal.render .plain (Scalar.toBits a)

def vector2 (v : Vec2 Nat) : String :=
  let ⟨x, y⟩ := v
  s!"[{x}, {y}]"

def vector3 (v : Vec3 Nat) : String :=
  let ⟨x, y, z⟩ := v
  s!"[{x}, {y}, {z}]"

def message : ConfigProblem α → String
  | cascades got => s!"cascades must be within 1..={maxCascades}, got {got}"
  | probesCounts got =>
    "probes_counts must be at least 2 along each axis, got " ++ vector3 got
  | probesTotal got => s!"total number of probes must not exceed {maxProbes}, got {got}"
  | probesSpacing got => "probes_spacing must be positive, got " ++ number got
  | spacingMultiplier got =>
    "cascades_spacing_multiplier must be at least 1.0, got " ++ number got
  | raysCount got =>
    let unit := Batch.traceGroupSize
    let limit := Batch.raysLimit
    s!"rays_count must be a multiple of {unit} within {unit}..={limit}, got {got}"
  | rayMaxDistance got => "ray_max_distance must be positive, got " ++ number got
  | historyWeight got => "history_weight must be within 0.0..1.0, got " ++ number got
  | irradianceGamma got => "irradiance_gamma must be positive, got " ++ number got
  | sdfResolution got => s!"sdf_resolution must be at least 2, got {got}"
  | sdfCascades got => s!"sdf_cascades must be within 1..={maxVoxelCascades}, got {got}"
  | atlasResolution got =>
    s!"atlas_resolution must be non-zero and fit within a single storage buffer " ++
      s!"({maxBindingSize} bytes), got {got}"
  | atlasChunkResolution got =>
    let unit := Culling.blockSide
    s!"atlas_chunk_resolution must be a non-zero multiple of {unit}, got {got}"
  | atlasViewDistance got => "atlas_view_distance must be positive, got " ++ number got
  | atlasMaxObjects => "atlas_max_objects must be non-zero"
  | atlasCulledCapacity got => s!"atlas_culled_objects_capacity must be at least 2, got {got}"
  | viewportSize got => "viewport_size must be non-zero, got " ++ vector2 got

end ConfigProblem

namespace Config

open Scalar

variable {α : Type} [Scalar α]

def standard : Config α where
  cascades := 4
  probesCounts := ⟨16, 8, 16⟩
  probesSpacing := 2.0
  spacingMultiplier := 2.0
  raysCount := 128
  rayMaxDistance := 100.0
  historyWeight := 0.95
  irradianceGamma := 5.0
  lightingIntensity := 1.0
  relocationMode := .lattice
  samplerBias := 0.2
  sdfResolution := 128
  sdfCascades := 4
  atlasResolution := 2048
  atlasChunkResolution := 40
  atlasViewDistance := 200.0
  atlasMaxObjects := 4096
  atlasCulledCapacity := 262144
  atlasDebug := false
  atlasSampleAllTiles := false
  viewportSize := ⟨1280, 720⟩

/-- Equality of all values; a configuration with an undefined one differs from itself. -/
def same (a b : Config α) : Bool :=
  a.cascades = b.cascades && a.probesCounts = b.probesCounts &&
    Scalar.same a.probesSpacing b.probesSpacing &&
    Scalar.same a.spacingMultiplier b.spacingMultiplier &&
    a.raysCount = b.raysCount && Scalar.same a.rayMaxDistance b.rayMaxDistance &&
    Scalar.same a.historyWeight b.historyWeight &&
    Scalar.same a.irradianceGamma b.irradianceGamma &&
    Scalar.same a.lightingIntensity b.lightingIntensity &&
    a.relocationMode = b.relocationMode && Scalar.same a.samplerBias b.samplerBias &&
    a.sdfResolution = b.sdfResolution && a.sdfCascades = b.sdfCascades &&
    a.atlasResolution = b.atlasResolution &&
    a.atlasChunkResolution = b.atlasChunkResolution &&
    Scalar.same a.atlasViewDistance b.atlasViewDistance &&
    a.atlasMaxObjects = b.atlasMaxObjects && a.atlasCulledCapacity = b.atlasCulledCapacity &&
    a.atlasDebug = b.atlasDebug && a.atlasSampleAllTiles = b.atlasSampleAllTiles &&
    a.viewportSize = b.viewportSize

def grid (c : Config α) : Grid := ⟨c.probesCounts, c.cascades⟩

/-- Distance between neighbouring probes of a cascade; numbers beyond the signed range count as
negative ones. -/
def cascadeSpacing (c : Config α) (cascade : Nat) : α :=
  c.probesSpacing * powInt c.spacingMultiplier (Word.toSigned cascade)

def probesPerCascade (c : Config α) : Except Fault Nat := c.grid.probesPerCascade

def probesCount (c : Config α) : Except Fault Nat := do
  Word.mul (← c.probesPerCascade) c.cascades

def chunkSize (c : Config α) : α :=
  2.0 * c.atlasViewDistance / ofNat c.atlasChunkResolution

def atlasConstants (c : Config α) (viewPos : Vec3 α) (objectsCount : Nat) : AtlasConstants α where
  viewPos
  chunkSize := c.chunkSize
  resolution := c.atlasResolution
  chunkResolution := c.atlasChunkResolution
  objectsCount
  culledCapacity := c.atlasCulledCapacity
  isDebug := c.atlasDebug
  sampleAllTiles := c.atlasSampleAllTiles

def atlasBytes (c : Config α) : Except Fault Nat := do
  Size.mul (← Size.mul c.atlasResolution c.atlasResolution) 16

def reportIf (condition : Bool) (problem : ConfigProblem α) : List (ConfigProblem α) :=
  if condition then [problem] else []

def validate (c : Config α) : Except Fault (List (ConfigProblem α)) := do
  let ⟨x, y, z⟩ := c.probesCounts
  let probes ← c.probesCount
  let atlasBytes ← c.atlasBytes
  return reportIf (c.cascades = 0 || maxCascades < c.cascades) (.cascades c.cascades) ++
    reportIf (min x (min y z) < 2) (.probesCounts c.probesCounts) ++
    reportIf (maxProbes < probes) (.probesTotal probes) ++
    reportIf (le c.probesSpacing 0.0) (.probesSpacing c.probesSpacing) ++
    reportIf (lt c.spacingMultiplier 1.0) (.spacingMultiplier c.spacingMultiplier) ++
    reportIf (c.raysCount < Batch.traceGroupSize || Batch.raysLimit < c.raysCount ||
      c.raysCount % Batch.traceGroupSize ≠ 0) (.raysCount c.raysCount) ++
    reportIf (le c.rayMaxDistance 0.0) (.rayMaxDistance c.rayMaxDistance) ++
    reportIf (!(le 0.0 c.historyWeight && lt c.historyWeight 1.0))
      (.historyWeight c.historyWeight) ++
    reportIf (le c.irradianceGamma 0.0) (.irradianceGamma c.irradianceGamma) ++
    reportIf (c.sdfResolution < 2) (.sdfResolution c.sdfResolution) ++
    reportIf (c.sdfCascades = 0 || maxVoxelCascades < c.sdfCascades)
      (.sdfCascades c.sdfCascades) ++
    reportIf (c.atlasResolution = 0 || maxBindingSize < atlasBytes)
      (.atlasResolution c.atlasResolution) ++
    reportIf (c.atlasChunkResolution = 0 || c.atlasChunkResolution % Culling.blockSide ≠ 0)
      (.atlasChunkResolution c.atlasChunkResolution) ++
    reportIf (le c.atlasViewDistance 0.0) (.atlasViewDistance c.atlasViewDistance) ++
    reportIf (c.atlasMaxObjects = 0) .atlasMaxObjects ++
    reportIf (c.atlasCulledCapacity < 2) (.atlasCulledCapacity c.atlasCulledCapacity) ++
    reportIf (min c.viewportSize.x c.viewportSize.y = 0) (.viewportSize c.viewportSize)

end Config

end IrradianceField
