import IrradianceField.Word

/-!
Records: how objects of the surface atlas and their tiles are laid out in a buffer of four-lane
words. A record is the object's header followed by its tiles.
-/

namespace IrradianceField

/-- Four lanes of the record buffer: scalars, or packed words. -/
inductive RecordWord (α : Type) where
  | scalars (lanes : Vec4 α)
  | packed (lanes : Vec4 Nat)
  deriving Repr, Inhabited

namespace RecordWord

variable {α : Type} [Scalar α]

/-- The lanes as scalars; packed words are taken for what they would store. -/
def toScalars : RecordWord α → Vec4 α
  | scalars v => v
  | packed v => v.map Scalar.ofBits

def toWords : RecordWord α → Vec4 Nat
  | scalars v => v.map Scalar.toBits
  | packed v => v

end RecordWord

abbrev Rows (α : Type) := Vec3 (Vec4 α)

namespace Rows

variable {α : Type} [Scalar α]

def identity : Rows α := ⟨⟨1.0, 0.0, 0.0, 0.0⟩, ⟨0.0, 1.0, 0.0, 0.0⟩, ⟨0.0, 0.0, 1.0, 0.0⟩⟩

def ofAffine (t : Affine α) : Rows α :=
  ⟨⟨t.xAxis.x, t.yAxis.x, t.zAxis.x, t.offset.x⟩,
    ⟨t.xAxis.y, t.yAxis.y, t.zAxis.y, t.offset.y⟩,
    ⟨t.xAxis.z, t.yAxis.z, t.zAxis.z, t.offset.z⟩⟩

def toAffine (rows : Rows α) : Affine α :=
  ⟨⟨rows.x.x, rows.y.x, rows.z.x⟩, ⟨rows.x.y, rows.y.y, rows.z.y⟩,
    ⟨rows.x.z, rows.y.z, rows.z.z⟩, ⟨rows.x.w, rows.y.w, rows.z.w⟩⟩

def point (rows : Rows α) (p : Vec3 α) : Vec3 α := Vec3.map (·.dot (p.extend 1.0)) rows

def vector (rows : Rows α) (v : Vec3 α) : Vec3 α := Vec3.map (·.xyz.dot v) rows

end Rows

def headerSize : Nat := 6
def tileSize : Nat := 5

/-- An object has at most one tile for each direction of an axis: `+x`, `-x`, `+y`, `-y`, `+z` and
`-z`, in this order. -/
def directionsCount : Nat := 6

def directionNormal {α : Type} [Scalar α] (dir : Nat) : Vec3 α :=
  let sign : α := if dir % 2 = 0 then 1.0 else -1.0
  match dir / 2 with
  | 0 => ⟨sign, 0.0, 0.0⟩
  | 1 => ⟨0.0, sign, 0.0⟩
  | _ => ⟨0.0, 0.0, sign⟩

/-- Header of an object: bounding sphere, packed offsets of its tiles, map to its local space, and
half the size of its box there. -/
structure ObjectRecord (α : Type) where
  bounds : Vec4 α
  tileOffsets : Vec3 Nat
  worldToLocal : Rows α
  extent : Vec3 α
  deriving Repr, Inhabited

/-- A tile: its rectangle as a share of the atlas, map to the space of its view, and size of the
view. The view looks along `z`, from zero on; `x` and `y` are centred. -/
structure TileRecord (α : Type) where
  atlasRect : Vec4 α
  worldToLocal : Rows α
  viewBounds : Vec3 α
  deriving Repr, Inhabited

namespace ObjectRecord

variable {α : Type} [Scalar α]

/-- Offsets of the six tiles, two to a word. -/
def packOffsets (offsets : Vector Nat directionsCount) : Vec3 Nat :=
  ⟨Word.ofHalves offsets[0] offsets[1], Word.ofHalves offsets[2] offsets[3],
    Word.ofHalves offsets[4] offsets[5]⟩

/-- Offset from the object's address to its tile for a direction; zero if it has none. -/
def tileOffset (o : ObjectRecord α) (dir : Nat) : Nat :=
  let (lo, hi) := Word.halves (o.tileOffsets.axis (dir / 2))
  if dir % 2 = 0 then lo else hi

def center (o : ObjectRecord α) : Vec3 α := o.bounds.xyz

def radius (o : ObjectRecord α) : α := o.bounds.w

def words (o : ObjectRecord α) (recordSize : Nat) : List (RecordWord α) :=
  [.scalars o.bounds, .packed (o.tileOffsets.extend recordSize), .scalars o.worldToLocal.x,
    .scalars o.worldToLocal.y, .scalars o.worldToLocal.z, .scalars (o.extent.extend 0.0)]

def read (buffer : Array (RecordWord α)) (address : Nat) : Except Fault (ObjectRecord α) := do
  let lanes (i : Nat) : Except Fault (RecordWord α) := do fetch buffer (← Word.add address i)
  let bounds ← lanes 0
  let packed := (← lanes 1).toWords
  let row0 ← lanes 2
  let row1 ← lanes 3
  let row2 ← lanes 4
  let extent ← lanes 5
  return ⟨bounds.toScalars, packed.xyz, ⟨row0.toScalars, row1.toScalars, row2.toScalars⟩,
    extent.toScalars.xyz⟩

end ObjectRecord

namespace TileRecord

variable {α : Type} [Scalar α]

def words (t : TileRecord α) : List (RecordWord α) :=
  [.scalars t.atlasRect, .scalars t.worldToLocal.x, .scalars t.worldToLocal.y,
    .scalars t.worldToLocal.z, .scalars (t.viewBounds.extend 0.0)]

def read (buffer : Array (RecordWord α)) (address : Nat) : Except Fault (TileRecord α) := do
  let lanes (i : Nat) : Except Fault (Vec4 α) := do
    return (← fetch buffer (← Word.add address i)).toScalars
  let rect ← lanes 0
  let row0 ← lanes 1
  let row1 ← lanes 2
  let row2 ← lanes 3
  let bounds ← lanes 4
  return ⟨rect, ⟨row0, row1, row2⟩, bounds.xyz⟩

def rect (t : TileRecord α) (resolution : Nat) : Vec2 Nat × Vec2 Nat :=
  let texels (share : Vec2 α) : Vec2 Nat :=
    (share.scale (Scalar.ofNat resolution)).map fun a => Scalar.toNat (Scalar.round a)
  (texels t.atlasRect.xy, texels t.atlasRect.zw)

/-- Point of the world that a texel of a tile of the given size shows at a depth. -/
def texelPosition (t : TileRecord α) (texel size : Vec2 Nat) (depth : α) : Vec3 α :=
  let uv : Vec2 α := (Vec2.ofNat texel).shift 0.5 / Vec2.ofNat size
  let uv : Vec2 α := ⟨uv.x, 1.0 - uv.y⟩
  let across := uv.shiftDown 0.5 * t.viewBounds.xy
  t.worldToLocal.toAffine.inverse.point (across.extend (depth * t.viewBounds.z))

end TileRecord

end IrradianceField
