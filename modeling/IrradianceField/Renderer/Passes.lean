import IrradianceField.Renderer.Buffers

/-!
Passes: the kernels that a renderer runs on its device, and the buffers that are bound to each.
-/

namespace IrradianceField

inductive ShaderName where
  | cull
  | lightAtlas
  | lightScreen
  | classify
  | sizeBatches
  | trace
  | updateIrradiance
  | updateDistance
  | borderRows
  | borderColumns
  deriving DecidableEq, Repr

namespace ShaderName

def all : List ShaderName :=
  [cull, lightAtlas, lightScreen, classify, sizeBatches, trace, updateIrradiance, updateDistance,
    borderRows, borderColumns]

def file : ShaderName → String
  | cull => "atlas_cull"
  | lightAtlas => "atlas_lighting"
  | lightScreen => "ddgi_apply"
  | classify => "ddgi_classify"
  | sizeBatches => "ddgi_init_args"
  | trace => "ddgi_trace"
  | updateIrradiance => "ddgi_update_irradiance"
  | updateDistance => "ddgi_update_distance"
  | borderRows => "ddgi_update_borders_rows"
  | borderColumns => "ddgi_update_borders_columns"

def label (s : ShaderName) : String := "ddgi_" ++ s.file

def entryPoint : ShaderName → String
  | updateIrradiance => "ddgi_update::irradiance"
  | updateDistance => "ddgi_update::distance"
  | borderRows => "ddgi_update_borders::rows"
  | borderColumns => "ddgi_update_borders::columns"
  | s => s.file ++ "::main"

end ShaderName

/-- How a kernel uses a buffer that is bound to it. -/
inductive Access where
  | uniform
  | readable
  | writable
  deriving DecidableEq, Repr

structure Binding where
  buffer : BufferName
  access : Access
  deriving DecidableEq, Repr

namespace Binding

def uniform (b : BufferName) : Binding := ⟨b, .uniform⟩
def readable (b : BufferName) : Binding := ⟨b, .readable⟩
def writable (b : BufferName) : Binding := ⟨b, .writable⟩

end Binding

inductive PassName where
  | culling
  | atlasLighting
  | batchSizes
  | screenLighting
  | irradianceRows
  | irradianceColumns
  | distanceRows
  | distanceColumns
  | classification
  | tracing
  | irradianceUpdate
  | distanceUpdate
  deriving DecidableEq, Repr

namespace PassName

open Binding

def all : List PassName :=
  [culling, atlasLighting, batchSizes, screenLighting, irradianceRows, irradianceColumns,
    distanceRows, distanceColumns, classification, tracing, irradianceUpdate, distanceUpdate]

def label : PassName → String
  | culling => "ddgi_atlas_culling"
  | atlasLighting => "ddgi_atlas_lighting"
  | batchSizes => "ddgi_indirect_args"
  | screenLighting => "ddgi_indirect_lighting"
  | irradianceRows => "ddgi_probe_borders_irradiance_rows"
  | irradianceColumns => "ddgi_probe_borders_irradiance_columns"
  | distanceRows => "ddgi_probe_borders_distance_rows"
  | distanceColumns => "ddgi_probe_borders_distance_columns"
  | classification => "ddgi_probe_classification"
  | tracing => "ddgi_probe_tracing"
  | irradianceUpdate => "ddgi_probe_updating_irradiance"
  | distanceUpdate => "ddgi_probe_updating_distance"

def runLabel (p : PassName) : String := p.label ++ "_pass"

def pipelineLabel (p : PassName) : String := p.label ++ "_pipeline"

def pipelineLayoutLabel (p : PassName) : String := p.label ++ "_pipeline_layout"

def shader : PassName → ShaderName
  | culling => .cull
  | atlasLighting => .lightAtlas
  | batchSizes => .sizeBatches
  | screenLighting => .lightScreen
  | irradianceRows | distanceRows => .borderRows
  | irradianceColumns | distanceColumns => .borderColumns
  | classification => .classify
  | tracing => .trace
  | irradianceUpdate => .updateIrradiance
  | distanceUpdate => .updateDistance

def constantCells : PassName → Nat
  | culling => 0
  | classification => 12
  | _ => 4

def samplerGroup : List Binding :=
  [uniform .volume, readable .probes, readable .irradiance, readable .distance]

def updateGroup (target : BufferName) : List Binding :=
  [uniform .volume, readable .probes, readable .activeProbes, readable .trace, writable target]

def groups : PassName → List (List Binding)
  | culling =>
    [[uniform .atlas, readable .objects, readable .addresses, writable .chunks, writable .culled]]
  | atlasLighting =>
    [samplerGroup,
      [uniform .atlas, readable .objects, readable .tiles, readable .atlasDepth,
        readable .atlasSurfaces, readable .atlasDirect, writable .atlasLighting]]
  | batchSizes => [[uniform .volume, readable .activeProbes, writable .dispatches]]
  | screenLighting =>
    [samplerGroup,
      [uniform .view, readable .screenDepth, readable .screenSurfaces, writable .screenOutput]]
  | irradianceRows | irradianceColumns => [[uniform .volume, writable .irradiance]]
  | distanceRows | distanceColumns => [[uniform .volume, writable .distance]]
  | classification =>
    [[uniform .volume, uniform .voxelLayout, readable .voxels, writable .probes,
      writable .activeProbes]]
  | tracing =>
    [[uniform .volume, uniform .voxelLayout, readable .voxels, readable .probes,
        readable .activeProbes, writable .trace, readable .sky],
      [uniform .atlas, readable .objects, readable .chunks, readable .culled, readable .atlasDepth,
        readable .atlasLighting]]
  | irradianceUpdate => [updateGroup .irradiance]
  | distanceUpdate => [updateGroup .distance]

end PassName

structure GroupName where
  pass : PassName
  index : Nat
  deriving DecidableEq, Repr

namespace GroupName

def label (g : GroupName) : String := g.pass.label ++ "_bg" ++ g.index.repr

def layoutLabel (g : GroupName) : String := g.label ++ "_layout"

end GroupName

end IrradianceField
