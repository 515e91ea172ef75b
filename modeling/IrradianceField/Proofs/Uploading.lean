import IrradianceField.Scalar.Real
import IrradianceField.Atlas.Lighting
import IrradianceField.Proofs.Holding
import IrradianceField.Proofs.Placing

/-!
Uploading: the texels of a tile are written to the elements of the atlas where the kernels look for
them, each of them once and nothing else.
-/

namespace IrradianceField

variable {A α : Type}

section Reading

variable [Scalar α]

def Cell.toScalar : Cell α → α
  | scalar a => a
  | word n => Scalar.ofBits n
  | signed i => Scalar.ofBits (SignedWord.toWord i)

def SurfaceTexel.ofCells (v : Vec4 (Cell α)) : SurfaceTexel α :=
  ⟨⟨v.x.toScalar, v.y.toScalar, v.z.toScalar⟩, v.w.toWord⟩

namespace Memory

variable {cells : List (Cell α)} {e : Nat}

/-- A buffer as the kernels see it: as scalars, or as texels of four cells. -/
def scalarsOf (cells : List (Cell α)) : Array α := (cells.map Cell.toScalar).toArray
def lanesOf (cells : List (Cell α)) : Array (Vec4 (Cell α)) :=
  Array.ofFn fun i : Fin (cells.length / 4) =>
    ⟨cells.getD (i * 4) (.word 0), cells.getD (i * 4 + 1) (.word 0),
      cells.getD (i * 4 + 2) (.word 0), cells.getD (i * 4 + 3) (.word 0)⟩

theorem getElem?_scalarsOf : (scalarsOf cells)[e]? = cells[e]?.map Cell.toScalar := by
  simp [scalarsOf]

omit [Scalar α] in
theorem getElem?_lanesOf {v : Vec4 (Cell α)}
    (held : ∀ lane < 4, cells[e * 4 + lane]? = [v.x, v.y, v.z, v.w][lane]?) :
    (lanesOf cells)[e]? = some v := by
  have short : e < cells.length / 4 := by
    have last := (List.getElem?_eq_some_iff.mp (held 3 (by decide))).1
    omega
  have first : cells[e * 4]? = some v.x := held 0 (by decide)
  have second : cells[e * 4 + 1]? = some v.y := held 1 (by decide)
  have third : cells[e * 4 + 2]? = some v.z := held 2 (by decide)
  have fourth : cells[e * 4 + 3]? = some v.w := held 3 (by decide)
  simp [lanesOf, short, first, second, third, fourth]

end Memory

namespace Renderer

/-- What the kernels see of the atlas. -/
def surfaces (r : Renderer A α) (m : Memory α) : AtlasSurfaces α where
  depth := ⟨Memory.scalarsOf (m (r.buffer .atlasDepth)), .splat r.config.atlasResolution⟩
  surfaces :=
    ⟨(Memory.lanesOf (m (r.buffer .atlasSurfaces))).map .ofCells, .splat r.config.atlasResolution⟩
  direct :=
    ⟨(Memory.lanesOf (m (r.buffer .atlasDirect))).map (·.map Cell.toScalar),
      .splat r.config.atlasResolution⟩

variable {r : Renderer A α} {rect : Rect} {c : Capture α} {m : Memory α} {p : Vec2 Nat}

theorem surfaces_of_upload (within : rect.Within r.config.atlasResolution)
    (small : r.config.atlasResolution * r.config.atlasResolution ≤ 8388608)
    (full : c.hasSize (rect.size.x * rect.size.y) = true)
    (room : ∀ b : BufferName, b.isCaptured = true →
      r.config.atlasResolution * r.config.atlasResolution * b.texelCells ≤
        (m (r.buffer b)).length)
    (inside : rect.Contains p) :
    ∃ depth surface direct,
      c.depth[elementIn rect p]? = some depth ∧ c.surfaces[elementIn rect p]? = some surface ∧
      c.direct[elementIn rect p]? = some direct ∧
      (r.surfaces (m.replay (r.tileCommands rect c))).depth.read p = .ok depth ∧
      (r.surfaces (m.replay (r.tileCommands rect c))).surfaces.read p = .ok surface ∧
      (r.surfaces (m.replay (r.tileCommands rect c))).direct.read p = .ok direct := by
  have place := index_of_contains small within inside
  have there := elementIn_lt inside
  obtain ⟨depths, entries, directs⟩ : c.depth.size = rect.size.x * rect.size.y ∧
      c.surfaces.size = rect.size.x * rect.size.y ∧ c.direct.size = rect.size.x * rect.size.y := by
    simpa [Capture.hasSize, and_assoc] using full
  have depth : c.depth[elementIn rect p]? = some _ := Array.getElem?_eq_getElem (depths ▸ there)
  have surface : c.surfaces[elementIn rect p]? = some _ :=
    Array.getElem?_eq_getElem (entries ▸ there)
  have direct : c.direct[elementIn rect p]? = some _ := Array.getElem?_eq_getElem (directs ▸ there)
  have cells : ∀ (b : BufferName), b.isCaptured = true → ∀ lane < b.texelCells,
      (m.replay (r.tileCommands rect c) (r.buffer b))[
        elementAt r.config.atlasResolution p * b.texelCells + lane]? =
          cellOf c b (elementIn rect p) lane :=
    fun b captured lane short =>
      getElem?_uploaded within full (room b captured) captured inside short
  refine ⟨_, _, _, depth, surface, direct, ?_, ?_, ?_⟩
  · have cell := cells .atlasDepth rfl 0 (by decide)
    rw [cellOf_depth, depth, BufferName.texelCells, Nat.mul_one] at cell
    refine bind_eq_ok.mpr ⟨_, place, fetch_eq_ok.mpr ?_⟩
    exact Memory.getElem?_scalarsOf.trans (congrArg (Option.map Cell.toScalar) cell)
  · have texel : (Memory.lanesOf (m.replay (r.tileCommands rect c) (r.buffer .atlasSurfaces)))[
        elementAt r.config.atlasResolution p]? = some
          ⟨.scalar c.surfaces[elementIn rect p].albedo.x,
            .scalar c.surfaces[elementIn rect p].albedo.y,
            .scalar c.surfaces[elementIn rect p].albedo.z,
            .word c.surfaces[elementIn rect p].normal⟩ := by
      refine Memory.getElem?_lanesOf fun lane short => ?_
      have cell := cells .atlasSurfaces rfl lane short
      rw [cellOf_surfaces, surface] at cell
      exact cell
    refine bind_eq_ok.mpr ⟨_, place, fetch_eq_ok.mpr ?_⟩
    exact Array.getElem?_map.trans (congrArg (Option.map SurfaceTexel.ofCells) texel)
  · have texel : (Memory.lanesOf (m.replay (r.tileCommands rect c) (r.buffer .atlasDirect)))[
        elementAt r.config.atlasResolution p]? = some (c.direct[elementIn rect p].map .scalar) := by
      refine Memory.getElem?_lanesOf fun lane short => ?_
      have cell := cells .atlasDirect rfl lane short
      rw [cellOf_direct, direct] at cell
      exact cell
    refine bind_eq_ok.mpr ⟨_, place, fetch_eq_ok.mpr ?_⟩
    exact Array.getElem?_map.trans (congrArg (Option.map (Vec4.map Cell.toScalar)) texel)

end Renderer

end Reading

section Records

namespace Registry

/-- The tile that the kernels find for a direction of the `i`-th object, and where its record is. -/
def readTile [Scalar α] (out : SerializedAtlas α) (i dir : Nat) :
    Except Fault (Nat × TileRecord α) := do
  let address ← fetch out.addresses i
  let object ← ObjectRecord.read out.objects address
  let place ← Word.add address (object.tileOffset dir)
  return (place, ← TileRecord.read out.objects place)

variable [Scalar α] {r : Registry A α} {key : Nat × Nat} {tile : Allocation}

theorem read_of_readTile {out : SerializedAtlas α} {i dir place : Nat} {record : TileRecord α}
    (found : readTile out i dir = .ok (place, record)) :
    TileRecord.read out.objects place = .ok record := by
  obtain ⟨address, -, found⟩ := bind_eq_ok.mp found
  obtain ⟨object, -, found⟩ := bind_eq_ok.mp found
  obtain ⟨place', -, found⟩ := bind_eq_ok.mp found
  obtain ⟨record', read, ended⟩ := bind_eq_ok.mp found
  obtain ⟨rfl, rfl⟩ := Prod.mk.inj (Except.ok.inj ended)
  exact read

theorem readTile_of_held (short : r.serialized.objects.size < 4294967296)
    (held : r.tileAt key = some tile) :
    ∃ i e place, r.entries[i]? = some e ∧ e.id = key.1 ∧ tileIn e.tiles key.2 = some tile ∧
      place ∈ r.serialized.tiles.toList ∧
      readTile r.serialized i key.2 =
        .ok (place, tileRecord r.resolution e.desc key.2 tile.rect.origin) := by
  obtain ⟨e, found, own⟩ := Option.bind_eq_some_iff.mp held
  obtain ⟨i, entry⟩ := List.getElem?_of_mem (mem_of_entryOf found)
  have laid := laidOut_serialized r
  have reads := laid.readsBack short entry
  have before : i < r.entries.length := (List.getElem?_eq_some_iff.mp entry).1
  have address : fetch r.serialized.addresses i = .ok (addressIn r.entries i) := by
    rw [fetch_eq_ok, ← Array.getElem?_toList, laid.addresses]
    simp [before]
  have listed : addressIn r.entries i + (objectRecord e).tileOffset key.2 ∈
      r.serialized.tiles.toList := by
    rw [laid.tiles, List.mem_flatMap]
    refine ⟨(e, i), List.mk_mem_zipIdx_iff_getElem?.mpr entry, List.mem_map.mpr ⟨key.2, ?_, rfl⟩⟩
    exact mem_heldDirections.mpr (by rw [own]; rfl)
  have below := laid.below _ listed
  refine ⟨i, e, _, entry, id_of_entryOf found, own, listed, ?_⟩
  rw [readTile, address, ok_bind, reads.header, ok_bind, Word.add_eq_ok.mpr ⟨rfl, by omega⟩, ok_bind,
    reads.tiles key.2 tile own]
  rfl

theorem texels_of_share {resolution n : Nat} (positive : 0 < resolution) (short : n < 4294967296) :
    Scalar.toNat (Scalar.round ((n : ℝ) / (resolution : ℝ) * (resolution : ℝ))) = n := by
  have nonzero : (resolution : ℝ) ≠ 0 := Nat.cast_ne_zero.mpr positive.ne'
  rw [div_mul_cancel₀ _ nonzero, Scalar.round_natCast_real, Scalar.toNat_ofNat_real short]

theorem rect_tileRecord {resolution dir : Nat} {desc : ObjectDesc ℝ} {origin : Vec2 Nat}
    (positive : 0 < resolution) (short : resolution < 4294967296)
    (within : (Rect.mk origin (desc.tileSize dir)).Within resolution) :
    (tileRecord resolution desc dir origin).rect resolution = (origin, desc.tileSize dir) := by
  obtain ⟨width, height⟩ := within
  dsimp only at width height
  have same : (tileRecord resolution desc dir origin).rect resolution =
      (⟨_, _⟩, ⟨_, _⟩) := rfl
  rw [same]
  exact Prod.ext
    (congrArg₂ Vec2.mk (texels_of_share positive (by omega)) (texels_of_share positive (by omega)))
    (congrArg₂ Vec2.mk (texels_of_share positive (by omega)) (texels_of_share positive (by omega)))

end Registry

end Records

section Lighting

namespace AtlasLighting

variable [Scalar α] {pass : AtlasLightingPass α} {a : AtlasConstants α} {s : Sampler α}
  {objects : Array (RecordWord α)} {tiles : Array Nat} {captured : AtlasSurfaces α}
  {texel origin size : Vec2 Nat} {lighting : Texels (Vec4 α)}

def lightCaptured (pass : AtlasLightingPass α) (s : Sampler α) (tile : TileRecord α)
    (texel size place : Vec2 Nat) (depth : α) (surface : SurfaceTexel α) (direct : Vec4 α)
    (lighting : Texels (Vec4 α)) : Except Fault (Texels (Vec4 α)) := do
  if Scalar.le 1.0 depth then lighting.write place direct
  else
    let light ← Lighting.atSurface s (tile.texelPosition texel size depth) surface pass.bias
    lighting.write place (direct + light)

theorem lightTexel_eq {index address : Nat} {tile : TileRecord α} {depth : α}
    {surface : SurfaceTexel α} {direct : Vec4 α} (listed : index < pass.tilesCount)
    (found : tiles[index]? = some address) (read : TileRecord.read objects address = .ok tile)
    (rect : tile.rect a.resolution = (origin, size)) (hx : texel.x < size.x) (hy : texel.y < size.y)
    (shortX : origin.x + texel.x < 4294967296) (shortY : origin.y + texel.y < 4294967296)
    (depths : captured.depth.read ⟨origin.x + texel.x, origin.y + texel.y⟩ = .ok depth)
    (surfaces : captured.surfaces.read ⟨origin.x + texel.x, origin.y + texel.y⟩ = .ok surface)
    (directs : captured.direct.read ⟨origin.x + texel.x, origin.y + texel.y⟩ = .ok direct) :
    lightTexel pass a s objects tiles captured texel index lighting =
      lightCaptured pass s tile texel size ⟨origin.x + texel.x, origin.y + texel.y⟩ depth surface
        direct lighting := by
  have place : origin.zipWithM Word.add texel =
      .ok ⟨origin.x + texel.x, origin.y + texel.y⟩ :=
    Vec2.zipWithM_eq_ok.mpr ⟨Word.add_eq_ok.mpr ⟨rfl, shortX⟩, Word.add_eq_ok.mpr ⟨rfl, shortY⟩⟩
  have inside : ¬(size.x ≤ texel.x || size.y ≤ texel.y) = true := by simp [hx, hy]
  rw [lightTexel, if_neg (Nat.not_le.mpr listed), fetch_eq_ok.mpr found, ok_bind, read, ok_bind]
  simp only [rect, if_neg inside, place, depths, directs, surfaces, ok_bind]
  rfl

end AtlasLighting

end Lighting

namespace Registry

variable [Scalar α] {r : Registry A α} {key : Nat × Nat} {t : DirtyTile α}

theorem held_of_dirtyTile? (drawn : r.dirtyTile? key = some t) :
    ∃ tile, r.tileAt key = some tile := by
  obtain ⟨e, found, drawn⟩ := Option.bind_eq_some_iff.mp drawn
  obtain ⟨tile, own, -⟩ := Option.bind_eq_some_iff.mp drawn
  exact ⟨tile, Option.bind_eq_some_iff.mpr ⟨e, found, own⟩⟩

theorem dirtyTile?_of_taken (sized : ∀ e ∈ r.entries, AreSized e.desc.tileSizes e.tiles)
    (taken : t ∈ r.takeDirtyTiles.1) : r.dirtyTile? (t.object, t.direction) = some t := by
  obtain ⟨key, -, drawn⟩ := List.mem_filterMap.mp taken
  obtain ⟨tile, held⟩ := held_of_dirtyTile? drawn
  obtain ⟨t', drawn', rfl, -⟩ := dirtyTile?_eq_some sized held
  rw [drawn'] at drawn
  exact Option.some.inj drawn ▸ drawn'

end Registry

namespace Renderer

open Command Recorded

section Uploads

variable {r : Renderer A α} {m : Memory α} {rect other : Rect} {c d : Capture α}

/-- An upload that takes one memory to another: it stays within the buffers, it writes each cell of
each texel of the tile once, at the element of the texel, and nothing else. -/
structure IsUploaded (r : Renderer A α) (m m' : Memory α) (rect : Rect) (c : Capture α) : Prop where
  done : (r.writeTile rect c).Gives m () m'
  inside : ∀ command ∈ (r.writeTile rect c).commands, ∃ b offset cells,
    command = .write (r.buffer b) offset cells ∧
      offset + cells.length * Cell.size ≤ (m (r.buffer b)).length * Cell.size
  addressed : ∀ p, rect.Contains p →
    Texels.index (.splat r.config.atlasResolution) p = .ok (elementAt r.config.atlasResolution p)
  once : ∀ (b : BufferName) p lane, b.isCaptured = true → rect.Contains p → lane < b.texelCells →
    ∃ cell, cellOf c b (elementIn rect p) lane = some cell ∧
      puts (r.writeTile rect c).commands (r.buffer b)
        (elementAt r.config.atlasResolution p * b.texelCells + lane) = [cell]
  nothingElse : ∀ h i, puts (r.writeTile rect c).commands h i ≠ [] → ∃ (b : BufferName) (p : Vec2 Nat)
    (lane : Nat), b.isCaptured = true ∧ h = r.buffer b ∧ rect.Contains p ∧ lane < b.texelCells ∧
      i = elementAt r.config.atlasResolution p * b.texelCells + lane

/-- The kernel lights each texel of a listed tile by what has been captured of it. -/
def IsLitBy [Scalar α] (r : Renderer A α) (m : Memory α) (out : SerializedAtlas α) (index : Nat)
    (tile : TileRecord α) (rect : Rect) (c : Capture α) : Prop :=
  ∀ (pass : AtlasLightingPass α) (s : Sampler α) (texel : Vec2 Nat) (lighting : Texels (Vec4 α)),
    index < pass.tilesCount → texel.x < rect.size.x → texel.y < rect.size.y →
      ∃ depth surface direct,
        c.depth[texel.y * rect.size.x + texel.x]? = some depth ∧
        c.surfaces[texel.y * rect.size.x + texel.x]? = some surface ∧
        c.direct[texel.y * rect.size.x + texel.x]? = some direct ∧
        AtlasLighting.lightTexel pass r.atlas.value s out.objects out.tiles (r.surfaces m) texel index
          lighting =
            AtlasLighting.lightCaptured pass s tile texel rect.size
              ⟨rect.origin.x + texel.x, rect.origin.y + texel.y⟩ depth surface direct lighting

variable (sized : ∀ b : BufferName, ∃ size, b.size r.config = .ok size ∧
    (m (r.buffer b)).length = size / 4)
  (small : r.config.atlasResolution * r.config.atlasResolution ≤ 8388608)
  (within : rect.Within r.config.atlasResolution)
  (full : c.hasSize (rect.size.x * rect.size.y) = true)

include sized in
theorem room_of_sized {b : BufferName} (captured : b.isCaptured = true) :
    r.config.atlasResolution * r.config.atlasResolution * b.texelCells ≤
      (m (r.buffer b)).length := by
  obtain ⟨size, known, length⟩ := sized b
  have room := texels_le captured known
  rw [Cell.size, ← Nat.mul_assoc] at room
  omega

theorem lt_of_small {n : Nat} (small : n * n ≤ 8388608) : n < 4294967296 := by
  by_contra large
  have least := Nat.mul_le_mul (Nat.not_lt.mp large) (Nat.not_lt.mp large)
  omega

include sized small within full in
theorem isUploaded : r.IsUploaded m (m.replay (r.tileCommands rect c)) rect c := by
  have known : ∀ b : BufferName, ∃ size, b.size r.config = .ok size := fun b =>
    ⟨_, (sized b).choose_spec.1⟩
  have same := writeTile_eq known small within full
  refine ⟨?_, ?_, fun p inside => index_of_contains small within inside, ?_, ?_⟩
  · rw [same]
    exact ⟨rfl, rfl⟩
  · rw [same]
    intro command member
    obtain ⟨j, row, member⟩ := List.mem_flatMap.mp member
    obtain ⟨b, listed, rfl⟩ := List.mem_map.mp member
    have captured := mem_capturedBuffers.mp listed
    have inside := List.mem_range.mp row
    refine ⟨b, _, _, rfl, ?_⟩
    calc rowStart r.config.atlasResolution rect j * (b.texelCells * Cell.size) +
          ((c.row rect.size.x j).cellsOf b).flatten.length * Cell.size
        = (rowStart r.config.atlasResolution rect j + rect.size.x) * b.texelCells * Cell.size := by
          rw [Capture.length_flatten_cellsOf (Capture.hasSize_row full inside) captured]
          ring
      _ ≤ r.config.atlasResolution * r.config.atlasResolution * b.texelCells * Cell.size :=
          Nat.mul_le_mul_right _ (Nat.mul_le_mul_right _ (rowStart_le within inside))
      _ ≤ (m (r.buffer b)).length * Cell.size :=
          Nat.mul_le_mul_right _ (room_of_sized sized captured)
  · rw [same]
    intro b p lane captured inside short
    obtain ⟨cell, found⟩ := cellOf_eq_some full captured inside short
    refine ⟨cell, found, ?_⟩
    rw [puts_of_contains within captured inside short, found]
    rfl
  · rw [same]
    exact fun h i written => contains_of_puts written

include sized small within full in
theorem isLitBy [Scalar α] {out : SerializedAtlas α} {index place : Nat} {tile : TileRecord α}
    (constants : r.atlas.value.resolution = r.config.atlasResolution)
    (listed : out.tiles[index]? = some place) (read : TileRecord.read out.objects place = .ok tile)
    (found : tile.rect r.config.atlasResolution = (rect.origin, rect.size)) :
    r.IsLitBy (m.replay (r.tileCommands rect c)) out index tile rect c := by
  intro pass s texel lighting many hx hy
  have contained : rect.Contains ⟨rect.origin.x + texel.x, rect.origin.y + texel.y⟩ :=
    ⟨Nat.le_add_right _ _, Nat.add_lt_add_left hx _, Nat.le_add_right _ _,
      Nat.add_lt_add_left hy _⟩
  have element : elementIn rect ⟨rect.origin.x + texel.x, rect.origin.y + texel.y⟩ =
      texel.y * rect.size.x + texel.x := by
    simp only [elementIn, Nat.add_sub_cancel_left]
  have side := lt_of_small small
  obtain ⟨width, height⟩ := within
  obtain ⟨depth, surface, direct, depths, surfaces, directs, reads⟩ :=
    surfaces_of_upload ⟨width, height⟩ small full (fun b captured => room_of_sized sized captured)
      contained
  rw [element] at depths surfaces directs
  refine ⟨depth, surface, direct, depths, surfaces, directs, ?_⟩
  exact AtlasLighting.lightTexel_eq many listed read (constants ▸ found) hx hy (by omega) (by omega)
    reads.1 reads.2.1 reads.2.2

include sized small within full in
theorem puts_apart (other_within : other.Within r.config.atlasResolution)
    (other_full : d.hasSize (other.size.x * other.size.y) = true) (apart : rect.Apart other)
    (h : Handle BufferName) (i : Nat) :
    puts (r.writeTile rect c).commands h i = [] ∨ puts (r.writeTile other d).commands h i = [] := by
  by_contra both
  rw [not_or] at both
  obtain ⟨b, p, lane, -, rfl, inside, short, rfl⟩ :=
    (isUploaded sized small within full).nothingElse _ _ both.1
  obtain ⟨b', p', lane', -, same, inside', short', place⟩ :=
    (isUploaded sized small other_within other_full).nothingElse _ _ both.2
  obtain rfl : b = b' := congrArg Handle.name same
  obtain ⟨elements, -⟩ := mul_add_unique short short' place
  have reached : p.x < r.config.atlasResolution := inside.2.1.trans_le within.1
  have reached' : p'.x < r.config.atlasResolution := inside'.2.1.trans_le other_within.1
  obtain ⟨rows, columns⟩ := mul_add_unique reached reached' elements
  have equal : p = p' := by
    cases p
    cases p'
    simp_all
  exact apart p inside (equal ▸ inside')

include sized small within full in
theorem replay_apart (other_within : other.Within r.config.atlasResolution)
    (other_full : d.hasSize (other.size.x * other.size.y) = true) (apart : rect.Apart other)
    (n : Memory α) :
    n.replay ((r.writeTile rect c).commands ++ (r.writeTile other d).commands) =
      n.replay ((r.writeTile other d).commands ++ (r.writeTile rect c).commands) := by
  refine Memory.replay_comm ?_ (puts_apart sized small within full other_within other_full apart)
  have known : ∀ b : BufferName, ∃ size, b.size r.config = .ok size := fun b =>
    ⟨_, (sized b).choose_spec.1⟩
  rw [writeTile_eq known small within full, writeTile_eq known small other_within other_full]
  intro command member
  cases List.mem_append.mp member with
  | inl first => exact isWrite_of_mem_tileCommands first
  | inr second => exact isWrite_of_mem_tileCommands second

end Uploads

section Tiles

variable [RectAllocator A] {laws : RectAllocator.Laws A} {r : Renderer A ℝ} {key : Nat × Nat}
  {tile : Allocation}

theorem HoldsTiles.within (holds : r.HoldsTiles laws) (held : r.registry.tileAt key = some tile) :
    tile.rect.Within r.config.atlasResolution :=
  holds.resolution ▸ holds.registry.ledger.within key tile held

theorem HoldsTiles.found (holds : r.HoldsTiles laws) (held : r.registry.tileAt key = some tile)
    (short : r.registry.serialized.objects.size < 4294967296) :
    ∃ (i : Nat) (e : RegistryEntry ℝ) (index place : Nat) (record : TileRecord ℝ),
      r.registry.entries[i]? = some e ∧ e.id = key.1 ∧
      Registry.readTile r.registry.serialized i key.2 = .ok (place, record) ∧
      r.registry.serialized.tiles[index]? = some place ∧
      record.rect r.config.atlasResolution = (tile.rect.origin, tile.rect.size) := by
  obtain ⟨i, e, place, entry, own, tiles, listed, read⟩ := Registry.readTile_of_held short held
  obtain ⟨index, found⟩ := List.getElem?_of_mem listed
  have size : tile.rect.size = e.desc.tileSize key.2 :=
    (holds.registry.sized e (List.mem_of_getElem? entry) key.2 tile tiles).1
  rw [Array.getElem?_toList] at found
  refine ⟨i, e, index, place, _, entry, own, read, found, ?_⟩
  rw [size, holds.resolution]
  apply Registry.rect_tileRecord holds.positive (lt_of_small holds.small)
  rw [← size]
  exact holds.within held

end Tiles

section Results

variable [RectAllocator A] {laws : RectAllocator.Laws A} {config : Config ℝ}
  {actions : List (Action ℝ)} {r : Renderer A ℝ} {m : Memory ℝ}

/-- However a renderer has been called, each tile that its registry holds is uploaded where the kernels
look for it: the rectangle of the tile to be drawn is the one that they find in its record, and
there they light each of its texels by what has been captured of it. Uploads of different tiles do
not meet, so their order does not matter. -/
theorem uploads_where_read (refuses : laws.RefusesOthers)
    (ran : (session config actions).Gives .blank r m)
    (short : r.registry.serialize.1.objects.size < 4294967296) :
    (∀ t ∈ r.registry.takeDirtyTiles.1, r.registry.dirtyTile? (t.object, t.direction) = some t) ∧
    ∀ key tile, r.registry.tileAt key = some tile → ∃ t,
      r.registry.dirtyTile? key = some t ∧ t.rect = tile.rect ∧
      (∃ i e index place record,
        r.registry.entries[i]? = some e ∧ e.id = key.1 ∧
        Registry.readTile r.registry.serialize.1 i key.2 = .ok (place, record) ∧
        r.registry.serialize.1.tiles[index]? = some place ∧
        record.rect r.config.atlasResolution = (t.rect.origin, t.rect.size) ∧
        ∀ c, c.hasSize (t.rect.size.x * t.rect.size.y) = true → ∃ m',
          r.IsUploaded m m' t.rect c ∧ r.IsLitBy m' r.registry.serialize.1 index record t.rect c) ∧
      ∀ other u c d, other ≠ key → r.registry.dirtyTile? other = some u →
        c.hasSize (t.rect.size.x * t.rect.size.y) = true →
        d.hasSize (u.rect.size.x * u.rect.size.y) = true →
          (∀ h i, puts (r.writeTile t.rect c).commands h i = [] ∨
            puts (r.writeTile u.rect d).commands h i = []) ∧
          ∀ n : Memory ℝ,
            n.replay ((r.writeTile t.rect c).commands ++ (r.writeTile u.rect d).commands) =
              n.replay ((r.writeTile u.rect d).commands ++ (r.writeTile t.rect c).commands) := by
  have holds : r.HoldsTiles laws := holdsTiles_of_session refuses ran.1
  obtain ⟨start, m₀, created, called⟩ := gives_bind.mp ran
  have sized := ((tracks_create created).along called).sized
  constructor
  · intro t taken
    exact Registry.dirtyTile?_of_taken holds.registry.sized taken
  · intro key tile held
    obtain ⟨t, drawn, -, same⟩ := Registry.dirtyTile?_eq_some holds.registry.sized held
    have within := holds.within held
    rw [← same] at within
    refine ⟨t, drawn, same, ?_, ?_⟩
    · obtain ⟨i, e, index, place, record, entry, own, read, found, rect⟩ := holds.found held short
      rw [← same] at rect
      refine ⟨i, e, index, place, record, entry, own, read, found, rect, fun c full => ?_⟩
      exact ⟨_, isUploaded sized holds.small within full, isLitBy sized holds.small within full
        holds.constants found (Registry.read_of_readTile read) rect⟩
    · intro other u c d different drawn' full full'
      obtain ⟨tile', held'⟩ := Registry.held_of_dirtyTile? drawn'
      obtain ⟨u', again, -, same'⟩ := Registry.dirtyTile?_eq_some holds.registry.sized held'
      obtain rfl : u' = u := Option.some.inj (again.symm.trans drawn')
      have within' := holds.within held'
      have apart := (holds.registry.ledger.once key other tile tile' held held' different.symm).2
      rw [← same'] at within'
      rw [← same, ← same'] at apart
      constructor
      · exact puts_apart sized holds.small within full within' full' apart
      · exact replay_apart sized holds.small within full within' full' apart

noncomputable def yard : Config ℝ :=
  { Config.standard with
    cascades := 1
    probesCounts := ⟨2, 2, 2⟩
    probesSpacing := 2
    spacingMultiplier := 2
    raysCount := 32
    rayMaxDistance := 100
    historyWeight := 0
    irradianceGamma := 1
    sdfResolution := 2
    sdfCascades := 2
    atlasResolution := 16
    atlasChunkResolution := 4
    atlasViewDistance := 6
    atlasMaxObjects := 2
    atlasCulledCapacity := 64
    viewportSize := ⟨3, 2⟩ }

noncomputable def chest : ObjectDesc ℝ :=
  ⟨.identity, ⟨1, 1, 1⟩, #v[⟨4, 2⟩, ⟨0, 0⟩, ⟨0, 0⟩, ⟨3, 5⟩, ⟨0, 0⟩, ⟨0, 0⟩]⟩

theorem validate_yard : yard.validate = .ok [] := by
  have probes : yard.probesCount = .ok 8 := rfl
  have bytes : yard.atlasBytes = .ok 4096 := rfl
  simp only [Config.validate, probes, bytes, ok_bind]
  norm_num [yard, Config.reportIf, maxCascades, maxProbes, Batch.traceGroupSize, Batch.raysLimit,
    maxVoxelCascades, maxBindingSize, Culling.blockSide]

theorem guarded_refuses : Registry.Guarded.laws.RefusesOthers := by
  intro g size _ improper
  have refused : g.tree.allocate size = (none, g.tree) := by
    rw [Guillotine.allocate, if_pos]
    simp only [Bool.or_eq_true, decide_eq_true_eq]
    by_contra proper
    exact improper (by rw [IsTileSize]; omega)
  change g.allocate size = (none, g)
  rw [Registry.Guarded.allocate, refused]

/-- How many objects there are, and the size of the first tile of the first one. -/
def glance (r : Renderer Registry.Guarded ℝ) : Nat × Option (Vec2 Nat) :=
  (r.registry.entries.length, (r.registry.tileAt (1, 0)).map (·.rect.size))

theorem glance_chest : (session yard [.call (.set 1 chest)]).result.toOption.map glance =
    some (1, some ⟨4, 2⟩) := by
  rw [session, create, createResources, validate_yard]
  decide +kernel

theorem chest_uploads : ∃ (r : Renderer Registry.Guarded ℝ) (m : Memory ℝ),
    (session yard [.call (.set 1 chest)]).Gives .blank r m ∧
    ∃ t, r.registry.dirtyTile? (1, 0) = some t ∧ t.rect.size = ⟨4, 2⟩ ∧
      ∃ index record, record.rect r.config.atlasResolution = (t.rect.origin, t.rect.size) ∧
        ∀ c, c.hasSize 8 = true → ∃ m',
          r.IsUploaded m m' t.rect c ∧ r.IsLitBy m' r.registry.serialize.1 index record t.rect c := by
  have known := glance_chest
  cases ran : (session yard [.call (.set 1 chest)] :
      Recorded ℝ (Renderer Registry.Guarded ℝ)).result with
  | error e =>
      rw [ran] at known
      cases known
  | ok r =>
      rw [ran] at known
      obtain ⟨one, size⟩ := Prod.mk.inj (Option.some.inj known)
      obtain ⟨tile, held, width⟩ := Option.map_eq_some_iff.mp size
      have short : r.registry.serialize.1.objects.size < 4294967296 := by
        have few := (Registry.laidOut_serialized r.registry).objects_le
        rw [one] at few
        exact few.trans_lt (by decide)
      obtain ⟨-, all⟩ := uploads_where_read guarded_refuses ⟨ran, rfl⟩ short
      obtain ⟨t, drawn, same, ⟨_, _, index, _, record, -, -, -, -, rect, uploads⟩, -⟩ :=
        all (1, 0) tile held
      have area : t.rect.size = ⟨4, 2⟩ := by rw [same, width]
      rw [area] at uploads
      exact ⟨r, _, ⟨ran, rfl⟩, t, drawn, area, index, record, rect, uploads⟩

end Results

end Renderer

end IrradianceField
