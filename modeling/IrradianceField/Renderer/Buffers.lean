import IrradianceField.Radiance.Sky
import IrradianceField.Volume.Config

/-!
Buffers: those that a renderer has on its device, what each is used for, and how large it is under a
configuration.
-/

namespace IrradianceField

/-- Constants that all kernels read come first; then the memory of the probes, of the surface atlas
and of the screen. -/
inductive BufferName where
  | volume
  | voxelLayout
  | atlas
  | view
  | voxels
  | probes
  | activeProbes
  | dispatches
  | trace
  | irradiance
  | distance
  | sky
  | objects
  | addresses
  | tiles
  | chunks
  | culled
  | atlasDepth
  | atlasSurfaces
  | atlasDirect
  | atlasLighting
  | screenDepth
  | screenSurfaces
  | screenOutput
  deriving DecidableEq, Repr

inductive BufferUsage where
  | copySource
  | copyTarget
  | uniform
  | storage
  | indirect
  deriving DecidableEq, Repr

namespace BufferName

variable {α : Type} [Scalar α]

def all : List BufferName :=
  [volume, voxelLayout, atlas, view, voxels, probes, activeProbes, dispatches, trace, irradiance,
    distance, sky, objects, addresses, tiles, chunks, culled, atlasDepth, atlasSurfaces,
    atlasDirect, atlasLighting, screenDepth, screenSurfaces, screenOutput]

def label : BufferName → String
  | volume => "ddgi_data"
  | voxelLayout => "ddgi_sdf"
  | atlas => "ddgi_atlas"
  | view => "ddgi_view"
  | voxels => "ddgi_sdf_voxels"
  | probes => "ddgi_probes"
  | activeProbes => "ddgi_active_probes"
  | dispatches => "ddgi_indirect_args"
  | trace => "ddgi_trace"
  | irradiance => "ddgi_irradiance"
  | distance => "ddgi_distance"
  | sky => "ddgi_sky"
  | objects => "ddgi_atlas_objects"
  | addresses => "ddgi_atlas_addresses"
  | tiles => "ddgi_atlas_tiles"
  | chunks => "ddgi_atlas_culled_chunks"
  | culled => "ddgi_atlas_culled_objects"
  | atlasDepth => "ddgi_atlas_depth"
  | atlasSurfaces => "ddgi_atlas_gbuffer"
  | atlasDirect => "ddgi_atlas_direct"
  | atlasLighting => "ddgi_atlas_lighting"
  | screenDepth => "ddgi_screen_depth"
  | screenSurfaces => "ddgi_screen_gbuffer"
  | screenOutput => "ddgi_screen_output"

/-- Constants live in uniform buffers, all else in storage buffers. -/
def isUniform : BufferName → Bool
  | volume | voxelLayout | atlas | view => true
  | _ => false

def usage (b : BufferName) : List BufferUsage :=
  if b.isUniform then [.copyTarget, .uniform]
  else if b = dispatches then [.storage, .copyTarget, .copySource, .indirect]
  else [.storage, .copyTarget, .copySource]

def wordBytes : Nat := 4
def texelBytes : Nat := 16

def maxRecordSize : Nat := headerSize + directionsCount * tileSize

def bytes (count : Except Fault Nat) (element : Nat) : Except Fault Nat := do
  Size.mul (← count) element

def texelsOf (size : Vec2 Nat) : Except Fault Nat := Size.mul size.x size.y

def probeTexels (config : Config α) (resolution : Nat) : Except Fault Nat := do
  texelsOf (← config.grid.atlasSize resolution)

def cubed (n : Nat) : Except Fault Nat := do Size.mul n (← Size.mul n n)

/-- Bytes that the contents of a buffer take. The list of active probes follows its counter. -/
def contentSize (config : Config α) : BufferName → Except Fault Nat
  | volume => .ok 192
  | voxelLayout => .ok 80
  | atlas => .ok 48
  | view => .ok 80
  | voxels => do
    bytes (do Size.mul (← cubed config.sdfResolution) config.sdfCascades) wordBytes
  | probes => bytes (bytes config.probesCount 2) wordBytes
  | activeProbes => bytes (do Size.add 1 (← config.probesPerCascade)) wordBytes
  | dispatches =>
    bytes (do Word.mul (← Batch.needed (← config.probesPerCascade)) Batch.stride) wordBytes
  | trace => bytes (do Batch.traceSize (← config.probesPerCascade)) texelBytes
  | irradiance => bytes (probeTexels config irradianceResolution) texelBytes
  | distance => bytes (probeTexels config distanceResolution) texelBytes
  | sky => bytes (texelsOf Sky.size) texelBytes
  | objects => bytes (Size.mul config.atlasMaxObjects maxRecordSize) texelBytes
  | addresses => bytes (.ok config.atlasMaxObjects) wordBytes
  | tiles => bytes (Size.mul config.atlasMaxObjects directionsCount) wordBytes
  | chunks => bytes (cubed config.atlasChunkResolution) wordBytes
  | culled => bytes (.ok config.atlasCulledCapacity) wordBytes
  | atlasDepth => bytes (texelsOf (.splat config.atlasResolution)) wordBytes
  | atlasSurfaces | atlasDirect | atlasLighting =>
    bytes (texelsOf (.splat config.atlasResolution)) texelBytes
  | screenDepth => bytes (texelsOf config.viewportSize) wordBytes
  | screenSurfaces | screenOutput => bytes (texelsOf config.viewportSize) texelBytes

def roundUp (size unit : Nat) : Except Fault Nat := do
  return (← Size.add size (unit - 1)) / unit * unit

/-- Bytes of a buffer. Storage buffers hold at least one texel, so that each can be read as an array
of texels. -/
def size (config : Config α) (b : BufferName) : Except Fault Nat := do
  let content ← b.contentSize config
  if b.isUniform then roundUp content 32 else return max (← roundUp content texelBytes) texelBytes

end BufferName

end IrradianceField
