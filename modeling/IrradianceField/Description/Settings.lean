import IrradianceField.Datum.Reading
import IrradianceField.Volume.Config

/-!
Descriptions of settings: a record that names the settings which differ from the standard ones.
-/

namespace IrradianceField

open Datum

variable {α : Type} [Scalar α] [Readable α]

instance : Readable RelocationMode := ⟨fun d => do
  let code : Nat ← d.as
  return .ofCode code⟩

def Config.override (c : Config α) (d : Datum) : Answer (Config α) := do
  return {
    cascades := ← d.getD "cascades" c.cascades
    probesCounts := ← d.getD "probes_counts" c.probesCounts
    probesSpacing := ← d.getD "probes_spacing" c.probesSpacing
    spacingMultiplier := ← d.getD "cascades_spacing_multiplier" c.spacingMultiplier
    raysCount := ← d.getD "rays_count" c.raysCount
    rayMaxDistance := ← d.getD "ray_max_distance" c.rayMaxDistance
    historyWeight := ← d.getD "history_weight" c.historyWeight
    irradianceGamma := ← d.getD "irradiance_gamma" c.irradianceGamma
    lightingIntensity := ← d.getD "indirect_lighting_intensity" c.lightingIntensity
    relocationMode := ← d.getD "relocation_mode" c.relocationMode
    samplerBias := ← d.getD "sampler_bias" c.samplerBias
    sdfResolution := ← d.getD "sdf_resolution" c.sdfResolution
    sdfCascades := ← d.getD "sdf_cascades" c.sdfCascades
    atlasResolution := ← d.getD "atlas_resolution" c.atlasResolution
    atlasChunkResolution := ← d.getD "atlas_chunk_resolution" c.atlasChunkResolution
    atlasViewDistance := ← d.getD "atlas_view_distance" c.atlasViewDistance
    atlasMaxObjects := ← d.getD "atlas_max_objects" c.atlasMaxObjects
    atlasCulledCapacity := ← d.getD "atlas_culled_objects_capacity" c.atlasCulledCapacity
    atlasDebug := ← d.getD "atlas_debug" c.atlasDebug
    atlasSampleAllTiles := ← d.getD "atlas_sample_all_tiles" c.atlasSampleAllTiles
    viewportSize := ← d.getD "viewport_size" c.viewportSize }

instance : Readable (Config α) := ⟨Config.standard.override⟩

end IrradianceField
