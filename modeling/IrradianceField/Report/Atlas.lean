import IrradianceField.Atlas.Registry
import IrradianceField.Datum.Writing
import IrradianceField.Radiance.Lighting

/-!
Reports of the surface atlas: its records, the tiles to be drawn again, and messages.
-/

namespace IrradianceField

open Datum

variable {α : Type} [Scalar α]

instance : Writable (SurfaceTexel α) := ⟨fun t => of (t.albedo, t.normal)⟩

instance : Writable (RecordWord α) := ⟨fun
  | .scalars lanes => of lanes
  | .packed lanes => of lanes⟩

instance : Writable Rect := ⟨fun r => of (r.origin, r.size)⟩

instance : Writable RegistryMessage := ⟨fun m => of m.render⟩

namespace DirtyTile

def brief (t : DirtyTile α) : Datum := of (t.object, t.direction, t.rect.origin, t.rect.size)

def details (t : DirtyTile α) : List (String × Datum) :=
  [("object", of t.object), ("dir", of t.direction), ("size", of t.rect.size),
    ("rows", of (Rows.ofAffine t.worldToTile)), ("bounds", of t.viewBounds)]

end DirtyTile

namespace ObjectRecord

/-- A tile of a record; its place is left out unless it is asked for. -/
def reportTile (withPlace : Bool) (resolution : Nat) (words : Array (RecordWord α))
    (address offset : Nat) : Except Fault Datum := do
  let tile ← TileRecord.read words (address + offset)
  let (origin, size) := tile.rect resolution
  return of (offset, (if withPlace then some origin else none), size, tile.worldToLocal,
    tile.viewBounds)

def report (withPlace : Bool) (resolution : Nat) (words : Array (RecordWord α)) (address : Nat) :
    Except Fault Datum := do
  let object ← ObjectRecord.read words address
  let size := (← fetch words (address + 1)).toWords.w
  let offsets := (List.range directionsCount).map object.tileOffset
  let tiles ← (offsets.filter (· ≠ 0)).mapM (reportTile withPlace resolution words address)
  return of (object.bounds, offsets, size, object.worldToLocal, object.extent, tiles)

end ObjectRecord

end IrradianceField
