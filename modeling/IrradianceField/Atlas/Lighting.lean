import IrradianceField.Atlas.Chunks
import IrradianceField.Atlas.Record
import IrradianceField.Radiance.Lighting

/-!
Lighting of the surface atlas: direct light of every texel of a tile plus the indirect light that
the probes see there, which closes the loop between the probes and the surfaces.
-/

namespace IrradianceField

/-- What the pass is told: the number of tiles, the side of the largest, and the bias of
sampling. -/
structure AtlasLightingPass (α : Type) where
  tilesCount : Nat
  maxTileSize : Nat
  bias : α
  deriving Repr

structure AtlasSurfaces (α : Type) where
  depth : Texels α
  surfaces : Texels (SurfaceTexel α)
  direct : Texels (Vec4 α)
  deriving Repr

namespace AtlasLighting

open Scalar

variable {α : Type} [Scalar α]

/-- Lights one texel of one of the listed tiles; nothing was captured at depth one. -/
def lightTexel (pass : AtlasLightingPass α) (a : AtlasConstants α) (s : Sampler α)
    (objects : Array (RecordWord α)) (tiles : Array Nat) (captured : AtlasSurfaces α)
    (texel : Vec2 Nat) (tileIndex : Nat) (lighting : Texels (Vec4 α)) :
    Except Fault (Texels (Vec4 α)) := do
  if pass.tilesCount ≤ tileIndex then return lighting
  let tile ← TileRecord.read objects (← fetch tiles tileIndex)
  let (origin, size) := tile.rect a.resolution
  if size.x ≤ texel.x || size.y ≤ texel.y then return lighting
  let place ← origin.zipWithM Word.add texel
  let depth ← captured.depth.read place
  let direct ← captured.direct.read place
  if le 1.0 depth then lighting.write place direct
  else
    let surface ← captured.surfaces.read place
    let light ← Lighting.atSurface s (tile.texelPosition texel size depth) surface pass.bias
    lighting.write place (direct + light)

def threads (maxTileSize : Nat) : List (Vec2 Nat) := Lighting.threads maxTileSize maxTileSize

def run (pass : AtlasLightingPass α) (a : AtlasConstants α) (s : Sampler α)
    (objects : Array (RecordWord α)) (tiles : Array Nat) (captured : AtlasSurfaces α)
    (layers : Nat) (lighting : Texels (Vec4 α)) : Except Fault (Texels (Vec4 α)) :=
  (List.range layers).foldlM (fun lighting tileIndex =>
    (threads pass.maxTileSize).foldlM (fun lighting texel =>
      lightTexel pass a s objects tiles captured texel tileIndex lighting) lighting) lighting

end AtlasLighting

end IrradianceField
