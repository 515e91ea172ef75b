import IrradianceField.Atlas.Culling
import IrradianceField.Probe.Texels

/-!
Sampling of the surface atlas: the light of a surface at a point, out of the tiles of the objects
that are near it.
-/

namespace IrradianceField

structure AtlasSampler (α : Type) where
  constants : AtlasConstants α
  objects : Array (RecordWord α)
  lists : CulledLists
  depth : Texels α
  lighting : Texels (Vec4 α)
  deriving Repr

namespace AtlasSampler

open Scalar

variable {α : Type} [Scalar α]

/-- Tiles that a surface faces by less than this are not sampled. -/
def normalThreshold : α := 0.1

/-- One where the depth of the point is that of the tile, and less with the difference; nothing was
captured at depth one. -/
def depthVisibility (depth tileDepth threshold : α) : α :=
  if le 1.0 tileDepth then 0.0
  else 1.0 - saturate ((Scalar.abs (depth - tileDepth) - threshold) / (0.5 * threshold))

/-- Point of the atlas that shows a position in the space of a tile's view. -/
def tilePosition (a : AtlasConstants α) (tile : TileRecord α) (tilePos : Vec3 α) : Vec2 α :=
  let uv := ((tilePos.xy / tile.viewBounds.xy).shift 0.5).confine (.splat 0.0) (.splat 1.0)
  let uv := (⟨uv.x, 1.0 - uv.y⟩ : Vec2 α).map (minNum · 0.999999)
  (uv * tile.atlasRect.zw + tile.atlasRect.xy).scale (ofNat a.resolution)

/-- How much a tile shows of a surface with the given normal in the space of its view. -/
def facingWeight (tileNormal : Vec3 α) : α := (saturate (-tileNormal.z) - 0.2) / 0.8

def sampleTile (s : AtlasSampler α) (tile : TileRecord α) (pos normal : Vec3 α)
    (normalWeight threshold : α) : Except Fault (Vec4 α) := do
  let tileWeight := facingWeight (tile.worldToLocal.vector normal).normalizeOrZero
  if le tileWeight 0.0 then return .zero
  let tilePos := tile.worldToLocal.point pos
  let tileDepth := tilePos.z / tile.viewBounds.z
  let atlasPos := tilePosition s.constants tile tilePos
  let (depths, frac) ← s.depth.gather atlasPos
  let tolerance := 2.0 * threshold / tile.viewBounds.z
  let visibility : Vec4 α :=
    ⟨depthVisibility tileDepth depths.topLeft tolerance,
      depthVisibility tileDepth depths.topRight tolerance,
      depthVisibility tileDepth depths.bottomLeft tolerance,
      depthVisibility tileDepth depths.bottomRight tolerance⟩
  let weights := visibility * Texels.bilinearWeights frac
  let weight := normalWeight * tileWeight * weights.sum
  if le weight 0.0 then return .zero
  let (light, _) ← s.lighting.gather atlasPos
  let sum := light.topLeft.xyz.scale weights.x + light.topRight.xyz.scale weights.y +
    light.bottomLeft.xyz.scale weights.z + light.bottomRight.xyz.scale weights.w
  return ((sum.scale normalWeight).scale tileWeight).extend weight

/-- Share of a direction in a surface: the square of the normal's component along it. -/
def normalWeight (a : AtlasConstants α) (localNormal : Vec3 α) (dir : Nat) : α :=
  let component := localNormal.axis (dir / 2)
  if a.sampleAllTiles then 1.0
  else if lt 0.0 component = decide (dir % 2 = 0) then sqr component
  else 0.0

def isSampled (s : AtlasSampler α) (object : ObjectRecord α) (localNormal : Vec3 α) (dir : Nat) :
    Bool :=
  object.tileOffset dir ≠ 0 &&
    (s.constants.sampleAllTiles || lt normalThreshold (normalWeight s.constants localNormal dir))

def sampleObject (s : AtlasSampler α) (object : ObjectRecord α) (address : Nat)
    (pos normal : Vec3 α) (threshold : α) : Except Fault (Vec4 α) := do
  let localNormal := (object.worldToLocal.vector normal).normalizeOrZero
  (List.range directionsCount).foldlM (fun sum dir => do
    if s.isSampled object localNormal dir then
      let tile ← TileRecord.read s.objects (← Word.add address (object.tileOffset dir))
      let weight := normalWeight s.constants localNormal dir
      return sum + (← s.sampleTile tile pos normal weight threshold)
    else return sum) .zero

def isNear (object : ObjectRecord α) (pos : Vec3 α) (threshold : α) : Bool :=
  let localPos := (object.worldToLocal.point pos).abs
  let limit := object.extent.shift threshold
  !lt (object.radius + threshold) (pos.distance object.center) &&
    !((localPos.zipWith (fun a b => lt b a) limit).any id)

/-- Adds the light of the `i`-th object of the list at `place` of the culled words. -/
def addObject (s : AtlasSampler α) (place : Nat) (pos normal : Vec3 α) (threshold : α)
    (total : Option (Vec4 α)) (i : Nat) : Except Fault (Option (Vec4 α)) := do
  let address ← fetch s.lists.words (← Word.add (← Word.add place 1) i)
  let object ← ObjectRecord.read s.objects address
  if !isNear object pos threshold then return total
  let light ← s.sampleObject object address pos normal threshold
  return some (total.getD .zero + light)

/-- Mean of the weighted light; a debug colour stands for surfaces that the atlas hardly has. -/
def resolve (a : AtlasConstants α) (total : Vec4 α) : Vec4 α :=
  let color := total.xyz.divide (maxNum total.w 0.0001)
  let color := if a.isDebug && lt total.w 0.5 then ⟨1.0, 0.0, 1.0⟩ else color
  color.extend total.w

/-- Light at a point and the confidence in it. A list longer than the number of objects is one that
is just being rebuilt. -/
def sample (s : AtlasSampler α) (pos normal : Vec3 α) (threshold : α) :
    Except Fault (Vec4 α) := do
  let chunk ← s.constants.chunkCoords pos
  let place ← fetch s.lists.chunks (← s.constants.chunkAddress chunk)
  if place = 0 then return .zero
  let count ← fetch s.lists.words place
  if s.constants.objectsCount < count then return .zero
  match ← (List.range count).foldlM (s.addObject place pos normal threshold) none with
  | none => return .zero
  | some total => return resolve s.constants total

end AtlasSampler

end IrradianceField
