import IrradianceField.Atlas.Allocation
import IrradianceField.Atlas.Culling

/-!
Registry of the objects in the surface atlas: which of them there are, where their tiles lie, which
tiles have to be drawn again, and the records that the kernels read.
-/

namespace IrradianceField

open Scalar

/-- An object as the atlas sees it: a box of half size `extent` in its local space, and the size of
the tile for each direction, zero without one. -/
structure ObjectDesc (α : Type) where
  transform : Affine α
  extent : Vec3 α
  tileSizes : Vector (Vec2 Nat) directionsCount
  deriving Repr

/-- The view of a tile in the local space of its object; `forward` looks into the object. -/
structure TileBasis (α : Type) where
  right : Vec3 α
  up : Vec3 α
  forward : Vec3 α
  deriving Repr

namespace TileBasis

variable {α : Type} [Scalar α]

def ofDirection (dir : Nat) : TileBasis α :=
  let x : Vec3 α := ⟨1.0, 0.0, 0.0⟩
  let y : Vec3 α := ⟨0.0, 1.0, 0.0⟩
  let z : Vec3 α := ⟨0.0, 0.0, 1.0⟩
  match dir with
  | 0 => ⟨z, y, -x⟩
  | 1 => ⟨-z, y, x⟩
  | 2 => ⟨x, -z, -y⟩
  | 3 => ⟨x, z, y⟩
  | 4 => ⟨-x, y, -z⟩
  | _ => ⟨x, y, z⟩

/-- Map from the local space of an object to that of a view whose front is at `depth`. -/
def toView (b : TileBasis α) (depth : α) : Affine α :=
  ⟨⟨b.right.x, b.up.x, b.forward.x⟩, ⟨b.right.y, b.up.y, b.forward.y⟩,
    ⟨b.right.z, b.up.z, b.forward.z⟩, ⟨0.0, 0.0, depth⟩⟩

end TileBasis

namespace ObjectDesc

variable {α : Type} [Scalar α]

def densitySide (transform : Affine α) (extent axis : Vec3 α) (density : α) (maxTileSize : Nat) :
    Except Fault Nat :=
  let world := transform.vector (axis * extent)
  Word.clamp (toNat (ceil (2.0 * world.length * density))) 1 maxTileSize

def ofDensity (transform : Affine α) (extent : Vec3 α) (density : α) (maxTileSize : Nat) :
    Except Fault (ObjectDesc α) := do
  let sizes ← (Vector.range directionsCount).mapM fun dir => do
    let basis := TileBasis.ofDirection dir
    let width ← densitySide transform extent basis.right density maxTileSize
    return ⟨width, ← densitySide transform extent basis.up density maxTileSize⟩
  return ⟨transform, extent, sizes⟩

def same (a b : ObjectDesc α) : Bool :=
  a.transform.same b.transform && Scalar.same a.extent.x b.extent.x &&
    Scalar.same a.extent.y b.extent.y && Scalar.same a.extent.z b.extent.z &&
    a.tileSizes = b.tileSizes

def tileSize (d : ObjectDesc α) (dir : Nat) : Vec2 Nat := d.tileSizes[dir]?.getD ⟨0, 0⟩

/-- Map from the world to the view of a tile, and the size of the view. -/
def tileView (d : ObjectDesc α) (dir : Nat) : Affine α × Vec3 α :=
  let basis : TileBasis α := .ofDirection dir
  let reach (axis : Vec3 α) : α := axis.abs.dot d.extent
  let bounds : Vec3 α := ⟨reach basis.right, reach basis.up, reach basis.forward⟩
  ((basis.toView (reach basis.forward)).comp d.transform.inverse, bounds.scale 2.0)

def cornerSigns (i : Nat) : Vec3 α :=
  let sign (bit : Nat) : α := if i / bit % 2 = 0 then -1.0 else 1.0
  ⟨sign 1, sign 2, sign 4⟩

def boundingSphere (d : ObjectDesc α) : Vec4 α :=
  let radius := (List.range 8).foldl (fun radius i =>
    maxNum radius (d.transform.vector (cornerSigns i * d.extent)).length) 0.0
  d.transform.offset.extend radius

end ObjectDesc

/-- What the registry tells a reader of its log. -/
inductive RegistryMessage where
  | adding (id : Nat)
  | updating (id : Nat)
  | removing (id : Nat)
  | tooManyObjects (id limit : Nat)
  | noSpace (dir id : Nat) (size : Vec2 Nat)
  | crowded (objects : Nat)
  deriving DecidableEq, Repr

namespace RegistryMessage

def isWarning : RegistryMessage → Bool
  | tooManyObjects .. | noSpace .. | crowded .. => true
  | _ => false

def text : RegistryMessage → String
  | adding id => s!"Adding object `{id}`"
  | updating id => s!"Updating object `{id}`"
  | removing id => s!"Removing object `{id}`"
  | tooManyObjects id limit =>
    s!"Cannot add object `{id}` - reached the limit of {limit} objects"
  | noSpace dir id size =>
    let width := size.x
    let height := size.y
    s!"Cannot allocate tile {dir} of object `{id}` ({width}x{height}) - no more space in the atlas"
  | crowded objects =>
    let cached := Culling.cacheSize
    s!"Surface atlas has {objects} objects, but culling caches up to {cached} objects " ++
      "per block of chunks; crowded blocks will miss some"

def render (m : RegistryMessage) : String :=
  (if m.isWarning then "WARN " else "TRACE ") ++ m.text

end RegistryMessage

/-- Tiles of an object by direction, none where there is no tile or no space for it. -/
abbrev HeldTiles := Vector (Option Allocation) directionsCount

structure RegistryEntry (α : Type) where
  id : Nat
  desc : ObjectDesc α
  tiles : HeldTiles
  deriving Repr

/-- Objects are kept in the order in which they were added, as one of the orders that there might be:
that in which they are visited is arbitrary. `dirtyTiles` are those that have to be drawn again, by
object and direction; `isDirty` tells whether the records are out of date. -/
structure Registry (A α : Type) where
  allocator : A
  resolution : Nat
  maxObjects : Nat
  entries : List (RegistryEntry α)
  dirtyTiles : List (Nat × Nat)
  isDirty : Bool
  deriving Repr

structure DirtyTile (α : Type) where
  object : Nat
  direction : Nat
  rect : Rect
  worldToTile : Affine α
  viewBounds : Vec3 α
  deriving Repr

/-- Records of all objects, each followed by its tiles, and the addresses of both. -/
structure SerializedAtlas (α : Type) where
  objects : Array (RecordWord α)
  addresses : Array Nat
  tiles : Array Nat
  maxTileSize : Nat
  deriving Repr, Inhabited

namespace Registry

variable {A α : Type} [RectAllocator A] [Scalar α]

def create (resolution maxObjects : Nat) : Except Fault (Registry A α) := do
  return ⟨← RectAllocator.create resolution, resolution, maxObjects, [], [], true⟩

def find? (r : Registry A α) (id : Nat) : Option (RegistryEntry α) := r.entries.find? (·.id = id)

def allocateTile (id : Nat) (sizes : Vector (Vec2 Nat) directionsCount)
    (state : A × HeldTiles × List RegistryMessage) (dir : Nat) :
    A × HeldTiles × List RegistryMessage :=
  let (allocator, tiles, log) := state
  let size := sizes[dir]?.getD ⟨0, 0⟩
  if min size.x size.y = 0 then state
  else match RectAllocator.allocate allocator size with
    | (some tile, allocator) => (allocator, tiles.setIfInBounds dir (some tile), log)
    | (none, allocator) => (allocator, tiles, log ++ [.noSpace dir id size])

def allocateTiles (allocator : A) (id : Nat) (sizes : Vector (Vec2 Nat) directionsCount) :
    A × HeldTiles × List RegistryMessage :=
  (List.range directionsCount).foldl (allocateTile id sizes)
    (allocator, .replicate directionsCount none, [])

def releaseTiles (allocator : A) (tiles : HeldTiles) : A :=
  tiles.toList.foldl (fun allocator tile => match tile with
    | some t => RectAllocator.release allocator t.id
    | none => allocator) allocator

def heldDirections (tiles : HeldTiles) : List Nat :=
  (List.range directionsCount).filter fun dir => (tiles[dir]?.getD none).isSome

/-- Marks all tiles of an object to be drawn again, after those of all others. -/
def markTiles (dirty : List (Nat × Nat)) (id : Nat) (tiles : HeldTiles) : List (Nat × Nat) :=
  dirty.filter (·.1 ≠ id) ++ (heldDirections tiles).map (id, ·)

def replace (entries : List (RegistryEntry α)) (entry : RegistryEntry α) :
    List (RegistryEntry α) :=
  entries.map fun e => if e.id = entry.id then entry else e

/-- Updates an object that is registered; its tiles are only allocated anew if their sizes
change. -/
def updateObject (r : Registry A α) (entry : RegistryEntry α) (desc : ObjectDesc α) :
    Registry A α × List RegistryMessage :=
  let id := entry.id
  let (allocator, tiles, log) :=
    if entry.desc.tileSizes = desc.tileSizes then (r.allocator, entry.tiles, [])
    else allocateTiles (releaseTiles r.allocator entry.tiles) id desc.tileSizes
  ({ r with
      allocator
      entries := replace r.entries ⟨id, desc, tiles⟩
      dirtyTiles := markTiles r.dirtyTiles id tiles
      isDirty := true },
    .updating id :: log)

def addObject (r : Registry A α) (id : Nat) (desc : ObjectDesc α) :
    Registry A α × List RegistryMessage :=
  let (allocator, tiles, log) := allocateTiles r.allocator id desc.tileSizes
  ({ r with
      allocator
      entries := r.entries ++ [⟨id, desc, tiles⟩]
      dirtyTiles := markTiles r.dirtyTiles id tiles
      isDirty := true },
    .adding id :: log)

/-- Adds or updates an object; nothing happens if it is as before, or if there are too many. -/
def setObject (r : Registry A α) (id : Nat) (desc : ObjectDesc α) :
    Registry A α × List RegistryMessage :=
  match r.find? id with
  | some entry => if entry.desc.same desc then (r, []) else r.updateObject entry desc
  | none =>
    if r.maxObjects ≤ r.entries.length then (r, [.tooManyObjects id r.maxObjects])
    else r.addObject id desc

def removeObject (r : Registry A α) (id : Nat) : Registry A α × List RegistryMessage :=
  match r.find? id with
  | none => (r, [])
  | some entry =>
    ({ r with
        allocator := releaseTiles r.allocator entry.tiles
        entries := r.entries.filter (·.id ≠ id)
        dirtyTiles := r.dirtyTiles.filter (·.1 ≠ id)
        isDirty := true },
      [.removing id])

def reallocate (state : Registry A α × List RegistryMessage) (entry : RegistryEntry α) :
    Registry A α × List RegistryMessage :=
  let (r, log) := state
  let (allocator, tiles, messages) := allocateTiles r.allocator entry.id entry.desc.tileSizes
  ({ r with
      allocator
      entries := replace r.entries { entry with tiles }
      dirtyTiles := markTiles r.dirtyTiles entry.id tiles },
    log ++ messages)

def reconfigure (r : Registry A α) (resolution maxObjects : Nat) :
    Except Fault (Registry A α × List RegistryMessage) := do
  let allocator ← RectAllocator.create resolution
  let r := { r with allocator, resolution, maxObjects, dirtyTiles := [], isDirty := true }
  return r.entries.foldl reallocate (r, [])

def dirtyTile? (r : Registry A α) (key : Nat × Nat) : Option (DirtyTile α) := do
  let entry ← r.find? key.1
  let tile ← entry.tiles[key.2]?.getD none
  let (worldToTile, viewBounds) := entry.desc.tileView key.2
  return ⟨key.1, key.2, ⟨tile.rect.origin, entry.desc.tileSize key.2⟩, worldToTile, viewBounds⟩

def takeDirtyTiles (r : Registry A α) : List (DirtyTile α) × Registry A α :=
  (r.dirtyTiles.filterMap r.dirtyTile?, { r with dirtyTiles := [] })

def tileRecord (resolution : Nat) (desc : ObjectDesc α) (dir : Nat) (origin : Vec2 Nat) :
    TileRecord α :=
  let size := desc.tileSize dir
  let (worldToTile, viewBounds) := desc.tileView dir
  let rect : Vec4 α := ⟨ofNat origin.x, ofNat origin.y, ofNat size.x, ofNat size.y⟩
  ⟨rect.divide (ofNat resolution), .ofAffine worldToTile, viewBounds⟩

def heldTiles (e : RegistryEntry α) : List (Nat × Allocation) :=
  (List.range directionsCount).filterMap fun dir => (e.tiles[dir]?.getD none).map (dir, ·)

def tileOffsetOf (i : Nat) : Nat := headerSize + tileSize * i

def tileOffsets (e : RegistryEntry α) : Vector Nat directionsCount :=
  (heldTiles e).zipIdx.foldl (fun offsets ((dir, _), i) =>
    offsets.setIfInBounds dir (tileOffsetOf i)) (.replicate directionsCount 0)

def objectRecord (e : RegistryEntry α) : ObjectRecord α :=
  ⟨e.desc.boundingSphere, ObjectRecord.packOffsets (tileOffsets e),
    .ofAffine e.desc.transform.inverse, e.desc.extent⟩

def recordWords (resolution : Nat) (e : RegistryEntry α) : List (RecordWord α) :=
  let held := heldTiles e
  (objectRecord e).words (tileOffsetOf held.length) ++
    held.flatMap fun (dir, tile) => (tileRecord resolution e.desc dir tile.rect.origin).words

def serializeEntry (resolution : Nat) (out : SerializedAtlas α) (e : RegistryEntry α) :
    SerializedAtlas α :=
  let address := out.objects.size
  let held := heldTiles e
  { objects := out.objects ++ (recordWords resolution e).toArray
    addresses := out.addresses.push address
    tiles := out.tiles ++ ((List.range held.length).map (address + tileOffsetOf ·)).toArray
    maxTileSize := held.foldl (fun largest (dir, _) =>
      let size := e.desc.tileSize dir
      max largest (max size.x size.y)) out.maxTileSize }

def serialized (r : Registry A α) : SerializedAtlas α :=
  r.entries.foldl (serializeEntry r.resolution) ⟨#[], #[], #[], 0⟩

def serialize (r : Registry A α) :
    SerializedAtlas α × Registry A α × List RegistryMessage :=
  let objects := r.entries.length
  (r.serialized, { r with isDirty := false },
    if Culling.cacheSize < objects then [.crowded objects] else [])

end Registry

end IrradianceField
