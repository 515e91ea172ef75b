import IrradianceField.Atlas.Lighting
import IrradianceField.Atlas.Registry
import IrradianceField.Description.Buffer

/-!
Descriptions of the surface atlas: its constants, the objects in it, their records, and what was
captured of their surfaces.
-/

namespace IrradianceField

open Datum

variable {α : Type} [Scalar α] [Readable α]

instance : Readable (AtlasConstants α) := ⟨fun d => do
  return {
    viewPos := ← d.getD "view" .zero
    chunkSize := ← d.get "chunk"
    resolution := ← d.getD "res" 16
    chunkResolution := ← d.get "cres"
    objectsCount := ← d.getD "n" 0
    culledCapacity := ← d.getD "cap" 1024
    isDebug := ← d.getD "debug" false
    sampleAllTiles := ← d.getD "all" false }⟩

def Rows.ofField (d : Datum) : Answer (Rows α) := do
  match d.field? "rows", d.field? "t" with
  | some rows, _ => rows.as
  | none, some t => return .ofAffine (← t.as)
  | none, none => return .identity

instance : Readable (TileRecord α) := ⟨fun d => do
  return ⟨← d.get "rect", ← Rows.ofField d, ← d.get "bounds"⟩⟩

def ObjectRecord.ofOffsets (d : Datum) (offsets : Vector Nat directionsCount) :
    Answer (ObjectRecord α) := do
  return ⟨← d.get "sphere", packOffsets offsets, ← Rows.ofField d, ← d.getD "extent" (.splat 1.0)⟩

def ObjectRecord.describedWords (d : Datum) : Answer (List (RecordWord α)) := do
  let tiles : List Datum ← d.getD "tiles" []
  let (offsets, words) ← tiles.zipIdx.foldlM (fun (offsets, words) (tile, i) => do
    let record : TileRecord α ← tile.as
    return (Vector.setIfInBounds offsets (← tile.get "dir") (headerSize + tileSize * i),
      words ++ record.words)) (Vector.replicate directionsCount 0, [])
  let object ← ObjectRecord.ofOffsets d offsets
  return object.words (headerSize + tileSize * tiles.length) ++ words

/-- The sizes of an object's tiles are listed, or follow from a density of texels. -/
instance : Readable (ObjectDesc α) := ⟨fun d => do
  let transform ← d.getD "t" .identity
  let extent ← d.getD "extent" (.splat 1.0)
  match d.field? "tiles" with
  | some tiles => return ⟨transform, extent, Readable.vectorOf _ (← tiles.as) ⟨0, 0⟩⟩
  | none => ObjectDesc.ofDensity transform extent (← d.get "density") (← d.get "max")⟩

inductive ObjectChange (α : Type) where
  | set (id : Nat) (desc : ObjectDesc α)
  | remove (id : Nat)

instance : Readable (ObjectChange α) := ⟨fun d => do
  match (← d.nth 0 : String) with
  | "set" => return .set (← d.nth 1) (← d.nth 2)
  | "remove" => return .remove (← d.nth 1)
  | _ => .malformed⟩

def AtlasSurfaces.ofFields (d : Datum) (resolution : Nat) : Answer (AtlasSurfaces α) := do
  let size : Vec2 Nat := .splat resolution
  let texels := resolution * resolution
  return ⟨⟨← d.scalars "depth" texels, size⟩, ⟨← d.surfaces "gbuffer" texels, size⟩,
    ← d.image "direct" size⟩

instance : Readable (View α) := ⟨fun d => do
  return ⟨← d.getD "m" .identity, ← d.get "viewport"⟩⟩

end IrradianceField
