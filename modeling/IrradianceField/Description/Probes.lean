import IrradianceField.Description.Buffer
import IrradianceField.Description.Settings
import IrradianceField.Probe.Batch
import IrradianceField.Probe.Classification
import IrradianceField.Radiance.Sampler

/-!
Descriptions of the probes: where their grids stand, what their buffers hold, and what the passes
over them are told.
-/

namespace IrradianceField

open Datum

variable {α : Type} [Scalar α] [Readable α]

instance : Readable (Probe α) := ⟨fun d => do
  return ⟨← Readable.triple d 0, ⟨← d.nth 3⟩⟩⟩

instance : Readable (Placement α) := ⟨fun d => do
  return ⟨← d.getD "o" .zero, ← d.get "s", ← d.getD "scroll" ⟨0, 0, 0⟩⟩⟩

instance : Readable (Volume α) := ⟨fun d => do
  let listed ← d.get "cascades"
  return {
    grid := ⟨← d.get "counts", ← d.getD "ncasc" listed.length⟩
    placements := Readable.vectorOf _ listed Volume.unlistedPlacement
    raysRotation := ← d.getD "rot" .identity
    viewPos := ← d.getD "view" .zero
    rayMaxDistance := ← d.getD "maxd" 1000.0
    raysCount := ← d.getD "rays" 32
    historyWeight := ← d.getD "hist" 0.0
    gamma := ← d.getD "gamma" 1.0
    intensity := ← d.getD "intensity" 1.0 }⟩

def Probe.place (buffer : Array PackedProbe) (probes : List (Nat × Probe α)) : Array PackedProbe :=
  probes.foldl (fun out (slot, probe) => out.setIfInBounds slot probe.pack) buffer

/-- The buffer of all probes: one that fills it, and others that are set afterwards. -/
def Volume.readProbes (v : Volume α) (d : Datum) : Answer (Array PackedProbe) := do
  let probes : Datum ← d.getD "probes" .null
  let all : Probe α ← probes.getD "all" .dormant
  let others : List (Nat × Probe α) ← probes.getD "set" []
  return Probe.place (.replicate ((← v.grid.probesPerCascade) * v.grid.cascades) all.pack) others

/-- A volume with the contents of its buffers. -/
instance : Readable (Sampler α) := ⟨fun d => do
  let volume : Volume α ← d.get "data"
  let atlas (key : String) (resolution : Nat) : Answer (Texels (Vec4 α)) := do
    d.image key (← volume.grid.atlasSize resolution)
  return ⟨volume, ← volume.readProbes d, ← atlas "irradiance" irradianceResolution,
    ← atlas "distance" distanceResolution⟩⟩

instance : Readable ClassificationPass := ⟨fun d => do
  return ⟨← d.getD "cascade" 0, ← d.getD "mode" .lattice, ← d.getD "reset" false,
    ← d.getD "clear" ⟨0, 0, 0⟩, ← d.getD "dirs" ⟨0, 0, 0⟩⟩⟩

instance : Readable BatchPass := ⟨fun d => do
  return ⟨← d.getD "cascade" 0, ← d.getD "offset" 0, ← d.getD "reset" false⟩⟩

end IrradianceField
