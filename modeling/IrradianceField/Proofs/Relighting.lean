import IrradianceField.Scalar.Real
import IrradianceField.Proofs.Edits
import IrradianceField.Proofs.Overlooking
import IrradianceField.Proofs.Uploading
import IrradianceField.Renderer.Rendering

/-!
Relighting: a pass over the surface atlas lights each texel of the listed tiles and no other, in
whichever order its threads run and however often it is repeated.
-/

namespace IrradianceField

open Scalar

section Threads

def groupThreads (groups : Vec3 Nat) : List (Vec3 Nat) :=
  (List.range groups.z).flatMap fun z =>
    (List.range (groups.y * Lighting.groupSide)).flatMap fun y =>
      (List.range (groups.x * Lighting.groupSide)).map fun x => ⟨x, y, z⟩

variable {groups id : Vec3 Nat}

theorem mem_groupThreads : id ∈ groupThreads groups ↔ id.x < groups.x * Lighting.groupSide ∧
    id.y < groups.y * Lighting.groupSide ∧ id.z < groups.z := by
  obtain ⟨x, y, z⟩ := id
  simp only [groupThreads, List.mem_flatMap, List.mem_map, List.mem_range, Vec3.mk.injEq]
  constructor
  · rintro ⟨_, layer, _, row, _, column, rfl, rfl, rfl⟩
    exact ⟨column, row, layer⟩
  · rintro ⟨column, row, layer⟩
    exact ⟨z, layer, y, row, x, column, rfl, rfl, rfl⟩

theorem nodup_groupThreads : (groupThreads groups).Nodup := by
  apply List.nodup_flatMap.mpr
  constructor
  · intro z _
    apply List.nodup_flatMap.mpr
    constructor
    · exact fun y _ => List.nodup_range.map fun _ _ same => (Vec3.mk.inj same).1
    · refine List.nodup_range.imp fun different id first second => ?_
      rcases List.mem_map.mp first with ⟨_, -, rfl⟩
      rcases List.mem_map.mp second with ⟨_, -, same⟩
      exact different (Vec3.mk.inj same).2.1.symm
  · refine List.nodup_range.imp fun different id first second => ?_
    rcases List.mem_flatMap.mp first with ⟨_, -, first⟩
    rcases List.mem_flatMap.mp second with ⟨_, -, second⟩
    rcases List.mem_map.mp first with ⟨_, -, rfl⟩
    rcases List.mem_map.mp second with ⟨_, -, same⟩
    exact different (Vec3.mk.inj same).2.2.symm

end Threads

def layersOf (length layers : Nat) : Vec3 Nat :=
  let groups := (length + (Lighting.groupSide - 1)) / Lighting.groupSide
  ⟨groups, groups, layers⟩

def Command.threads {α : Type} : Command α → List (Vec3 Nat)
  | run _ _ _ (.groups groups) => groupThreads groups
  | _ => []

namespace Rect

variable {r : Rect} {p texel : Vec2 Nat} {side : Nat}

def texelAt (r : Rect) (texel : Vec2 Nat) : Vec2 Nat := ⟨r.origin.x + texel.x, r.origin.y + texel.y⟩

def Holds (r : Rect) (texel : Vec2 Nat) : Prop := texel.x < r.size.x ∧ texel.y < r.size.y

instance : Decidable (r.Holds texel) := inferInstanceAs (Decidable (_ ∧ _))

theorem contains_texelAt (holds : r.Holds texel) : r.Contains (r.texelAt texel) :=
  ⟨Nat.le_add_right .., Nat.add_lt_add_left holds.1 _, Nat.le_add_right ..,
    Nat.add_lt_add_left holds.2 _⟩

theorem exists_texelAt (inside : r.Contains p) : ∃ texel, r.Holds texel ∧ r.texelAt texel = p := by
  obtain ⟨left, right, top, bottom⟩ := inside
  refine ⟨⟨p.x - r.origin.x, p.y - r.origin.y⟩, ⟨?_, ?_⟩, ?_⟩
  · dsimp only
    omega
  · dsimp only
    omega
  · rw [texelAt, Nat.add_sub_cancel' left, Nat.add_sub_cancel' top]

theorem texelAt_lt (within : r.Within side) (holds : r.Holds texel) :
    (r.texelAt texel).x < side ∧ (r.texelAt texel).y < side := by
  obtain ⟨width, height⟩ := within
  obtain ⟨left, above⟩ := holds
  dsimp only [texelAt]
  omega

theorem texelAt_inj {texel' : Vec2 Nat} (same : r.texelAt texel = r.texelAt texel') :
    texel = texel' := by
  cases texel
  cases texel'
  obtain ⟨x, y⟩ := Vec2.mk.inj same
  exact congrArg₂ Vec2.mk (Nat.add_left_cancel x) (Nat.add_left_cancel y)

end Rect

structure Texels.IsSquare {β : Type} (t : Texels β) (side : Nat) : Prop where
  size : t.size = .splat side
  full : t.data.size = side * side

section Squares

variable {β : Type} {t : Texels β} {side : Nat} {p : Vec2 Nat} {value : β}
  (words : side * side ≤ 4294967296) (left : p.x < side) (above : p.y < side)

include words left above

theorem Texels.index_square :
    Texels.index (.splat side) p = .ok (p.y * side + p.x) ∧ p.y * side + p.x < side * side :=
  @Texels.index_of_lt ⟨side, side⟩ p left above words

theorem Texels.read_square (size : t.size = .splat side) :
    t.read p = .ok value ↔ t.data[p.y * side + p.x]? = some value := by
  rw [Texels.read, size, (Texels.index_square words left above).1, ok_bind, fetch_eq_ok]

theorem Texels.IsSquare.read_ends (square : t.IsSquare side) : ∃ value, t.read p = .ok value := by
  obtain ⟨indexed, inside⟩ := Texels.index_square words left above
  rw [Texels.read, square.size, indexed, ok_bind]
  exact fetch_of_lt (square.full.symm ▸ inside)

end Squares

/-- All texels of what has been captured for an atlas of given side are there. -/
structure AtlasSurfaces.IsWhole {α : Type} (captured : AtlasSurfaces α) (side : Nat) : Prop where
  depth : captured.depth.IsSquare side
  surfaces : captured.surfaces.IsSquare side
  direct : captured.direct.IsSquare side

def TileRecord.area {α : Type} [Scalar α] (tile : TileRecord α) (side : Nat) : Rect :=
  ⟨(tile.rect side).1, (tile.rect side).2⟩

theorem TileRecord.area_eq {α : Type} [Scalar α] {tile : TileRecord α} {side : Nat}
    {origin size : Vec2 Nat} (found : tile.rect side = (origin, size)) :
    tile.area side = ⟨origin, size⟩ := by
  rw [area, found]

namespace AtlasLighting

structure Inputs (α : Type) where
  pass : AtlasLightingPass α
  constants : AtlasConstants α
  sampler : Sampler α
  objects : Array (RecordWord α)
  tiles : Array Nat
  captured : AtlasSurfaces α

variable {α : Type} [Scalar α]

namespace Inputs

section Definitions

variable (x : Inputs α)

def side : Nat := x.constants.resolution

def Lists (i : Nat) (tile : TileRecord α) : Prop :=
  i < x.pass.tilesCount ∧ (do TileRecord.read x.objects (← fetch x.tiles i)) = Except.ok tile

/-- Listed tiles can be read and share no texel of the atlas, and none is larger than the pass is
told. -/
structure IsListing : Prop where
  found : ∀ i < x.pass.tilesCount, ∃ tile, x.Lists i tile
  within : ∀ i tile, x.Lists i tile → (tile.area x.side).Within x.side
  covered : ∀ i tile, x.Lists i tile → (tile.area x.side).size.x ≤ x.pass.maxTileSize ∧
    (tile.area x.side).size.y ≤ x.pass.maxTileSize
  apart : ∀ i j tile other, x.Lists i tile → x.Lists j other → i ≠ j →
    (tile.area x.side).Apart (other.area x.side)

/-- All that the pass reads is there, and texels of the atlas have words for places. -/
structure IsComplete : Prop where
  words : x.side * x.side ≤ 4294967296
  whole : x.captured.IsWhole x.side
  listing : x.IsListing

/-- The light of a texel of a tile: what falls on it directly and, where there is a surface, the
share that its albedo leaves of what the probes see, spread evenly and scaled by the intensity. -/
def lightAt (tile : TileRecord α) (texel : Vec2 Nat) : Except Fault (Vec4 α) := do
  let area := tile.area x.side
  let place := area.texelAt texel
  let depth ← x.captured.depth.read place
  let direct ← x.captured.direct.read place
  if le 1.0 depth then return direct
  let surface ← x.captured.surfaces.read place
  let irradiance ← x.sampler.sample (tile.texelPosition texel area.size depth) surface.normalVector
    x.pass.bias
  return direct +
    ((surface.albedo.divide pi * irradiance).scale x.sampler.volume.intensity).extend 0.0

def runThread (id : Vec3 Nat) (lighting : Texels (Vec4 α)) : Except Fault (Texels (Vec4 α)) :=
  lightTexel x.pass x.constants x.sampler x.objects x.tiles x.captured ⟨id.x, id.y⟩ id.z lighting

def runThreads (threads : List (Vec3 Nat)) (lighting : Texels (Vec4 α)) :
    Except Fault (Texels (Vec4 α)) :=
  threads.foldlM (fun lighting id => x.runThread id lighting) lighting

/-- No listed tile has the texel. -/
def IsUnlisted (p : Vec2 Nat) : Prop :=
  ∀ i tile, x.Lists i tile → ¬(tile.area x.side).Contains p

def AgreeOutside (t t' : Texels (Vec4 α)) : Prop :=
  ∀ p : Vec2 Nat, p.x < x.side → p.y < x.side → x.IsUnlisted p → t'.read p = t.read p

/-- Texels of listed tiles are lit, and all others are as they were. -/
structure IsLit (before after : Texels (Vec4 α)) : Prop where
  square : after.IsSquare x.side
  lit : ∀ i tile texel, x.Lists i tile → (tile.area x.side).Holds texel →
    ∃ light, x.lightAt tile texel = .ok light ∧
      after.read ((tile.area x.side).texelAt texel) = .ok light
  kept : x.AgreeOutside before after

def edit (tile : TileRecord α) (texel : Vec2 Nat) : Edit (Vec4 α) where
  place := ((tile.area x.side).texelAt texel).y * x.side + ((tile.area x.side).texelAt texel).x
  change := fun _ => x.lightAt tile texel

def threadEdits (id : Vec3 Nat) : List (Edit (Vec4 α)) :=
  match (do TileRecord.read x.objects (← fetch x.tiles id.z)) with
  | .error _ => []
  | .ok tile => if (tile.area x.side).Holds ⟨id.x, id.y⟩ then [x.edit tile ⟨id.x, id.y⟩] else []

/-- There is a layer of groups for each tile, and each of them has a thread for each texel of the
largest. -/
structure Covers (groups : Vec3 Nat) : Prop where
  layers : groups.z = x.pass.tilesCount
  columns : x.pass.maxTileSize ≤ groups.x * Lighting.groupSide
  rows : x.pass.maxTileSize ≤ groups.y * Lighting.groupSide

def edits (groups : Vec3 Nat) : List (Edit (Vec4 α)) := (groupThreads groups).flatMap x.threadEdits

end Definitions

variable {x : Inputs α} {i j : Nat} {tile other : TileRecord α} {texel texel' p : Vec2 Nat}
  {id groups : Vec3 Nat} {threads : List (Vec3 Nat)} {e : Edit (Vec4 α)}

omit [Scalar α] in
theorem covers_layersOf (x : Inputs α) :
    x.Covers (layersOf x.pass.maxTileSize x.pass.tilesCount) := by
  have reach : x.pass.maxTileSize ≤ (x.pass.maxTileSize + (Lighting.groupSide - 1)) /
      Lighting.groupSide * Lighting.groupSide := by
    unfold Lighting.groupSide
    omega
  exact ⟨rfl, reach, reach⟩

theorem threadEdits_of_lists (lists : x.Lists id.z tile) : x.threadEdits id =
    if (tile.area x.side).Holds ⟨id.x, id.y⟩ then [x.edit tile ⟨id.x, id.y⟩] else [] := by
  rw [threadEdits, lists.2]

theorem runThread_idle (lists : x.Lists id.z tile)
    (beyond : ¬(tile.area x.side).Holds ⟨id.x, id.y⟩) (lighting : Texels (Vec4 α)) :
    x.runThread id lighting = .ok lighting := by
  rcases bind_eq_ok.mp lists.2 with ⟨address, found, read⟩
  have outside : ((tile.rect x.constants.resolution).2.x ≤ id.x ||
      (tile.rect x.constants.resolution).2.y ≤ id.y) = true := by
    rw [Rect.Holds, not_and_or, Nat.not_lt, Nat.not_lt] at beyond
    rw [Bool.or_eq_true, decide_eq_true_eq, decide_eq_true_eq]
    exact beyond
  rw [runThread, lightTexel, if_neg (Nat.not_le.mpr lists.1), found, ok_bind, read, ok_bind]
  exact if_pos outside

section Lists

variable (listing : x.IsListing)

include listing

theorem edit_inj (lists : x.Lists i tile) (lists' : x.Lists j other)
    (holds : (tile.area x.side).Holds texel) (holds' : (other.area x.side).Holds texel')
    (same : (x.edit tile texel).place = (x.edit other texel').place) : i = j ∧ texel = texel' := by
  obtain ⟨left, -⟩ := Rect.texelAt_lt (listing.within i tile lists) holds
  obtain ⟨left', -⟩ := Rect.texelAt_lt (listing.within j other lists') holds'
  obtain ⟨row, column⟩ := mul_add_unique left left' same
  have place : (tile.area x.side).texelAt texel = (other.area x.side).texelAt texel' :=
    congrArg₂ Vec2.mk column row
  by_cases own : i = j
  · subst own
    obtain rfl := Except.ok.inj (lists.2.symm.trans lists'.2)
    exact ⟨rfl, Rect.texelAt_inj place⟩
  · exact absurd (place ▸ Rect.contains_texelAt holds')
      (listing.apart i j tile other lists lists' own _ (Rect.contains_texelAt holds))

theorem mem_threadEdits (known : id.z < x.pass.tilesCount) : e ∈ x.threadEdits id ↔
    ∃ tile, x.Lists id.z tile ∧ (tile.area x.side).Holds ⟨id.x, id.y⟩ ∧
      e = x.edit tile ⟨id.x, id.y⟩ := by
  rcases listing.found id.z known with ⟨tile, lists⟩
  rw [threadEdits_of_lists lists]
  constructor
  · intro member
    split at member
    · exact ⟨tile, lists, ‹_›, List.mem_singleton.mp member⟩
    · exact absurd member List.not_mem_nil
  · intro stores
    rcases stores with ⟨tile', lists', holds, rfl⟩
    obtain rfl := Except.ok.inj (lists.2.symm.trans lists'.2)
    rw [if_pos holds]
    exact List.mem_singleton_self _

variable (covers : x.Covers groups)

include covers

theorem distinct_edits : ((x.edits groups).map Edit.place).Nodup := by
  rw [edits, List.map_flatMap]
  apply List.nodup_flatMap.mpr
  constructor
  · intro id member
    rcases listing.found id.z (covers.layers ▸ (mem_groupThreads.mp member).2.2) with ⟨tile, lists⟩
    rw [threadEdits_of_lists lists]
    split
    · exact List.nodup_singleton _
    · exact List.nodup_nil
  · refine nodup_groupThreads.imp_of_mem fun {id id'} member member' different place first second => ?_
    rcases List.mem_map.mp first with ⟨e, stored, rfl⟩
    rcases List.mem_map.mp second with ⟨e', stored', same⟩
    rcases (mem_threadEdits listing (covers.layers ▸ (mem_groupThreads.mp member).2.2)).mp stored
      with ⟨tile, lists, holds, rfl⟩
    rcases (mem_threadEdits listing (covers.layers ▸ (mem_groupThreads.mp member').2.2)).mp stored'
      with ⟨other, lists', holds', rfl⟩
    obtain ⟨layer, texels⟩ := edit_inj listing lists lists' holds holds' same.symm
    obtain ⟨column, row⟩ := Vec2.mk.inj texels
    cases id
    cases id'
    exact different (Vec3.mk.injEq .. ▸ ⟨column, row, layer⟩)

theorem mem_edits : e ∈ x.edits groups ↔
    ∃ i tile texel, x.Lists i tile ∧ (tile.area x.side).Holds texel ∧ e = x.edit tile texel := by
  rw [edits, List.mem_flatMap]
  constructor
  · intro stored
    rcases stored with ⟨id, member, stored⟩
    rcases (mem_threadEdits listing (covers.layers ▸ (mem_groupThreads.mp member).2.2)).mp stored
      with ⟨tile, lists, holds, rfl⟩
    exact ⟨id.z, tile, _, lists, holds, rfl⟩
  · intro stores
    rcases stores with ⟨i, tile, texel, lists, holds, rfl⟩
    obtain ⟨width, height⟩ := listing.covered i tile lists
    obtain ⟨left, above⟩ := holds
    refine ⟨⟨texel.x, texel.y, i⟩, mem_groupThreads.mpr ⟨?_, ?_, ?_⟩, ?_⟩
    · exact left.trans_le (width.trans covers.columns)
    · exact above.trans_le (height.trans covers.rows)
    · exact covers.layers ▸ lists.1
    · exact (mem_threadEdits listing lists.1).mpr ⟨tile, lists, ⟨left, above⟩, rfl⟩

theorem edit_mem_edits (lists : x.Lists i tile) (holds : (tile.area x.side).Holds texel) :
    x.edit tile texel ∈ x.edits groups :=
  (mem_edits listing covers).mpr ⟨i, tile, texel, lists, holds, rfl⟩

theorem place_ne (unlisted : x.IsUnlisted p) (left : p.x < x.side) (stored : e ∈ x.edits groups) :
    e.place ≠ p.y * x.side + p.x := by
  intro same
  rcases (mem_edits listing covers).mp stored with ⟨i, tile, texel, lists, holds, rfl⟩
  obtain ⟨row, column⟩ :=
    mul_add_unique (Rect.texelAt_lt (listing.within i tile lists) holds).1 left same
  have place : (tile.area x.side).texelAt texel = p := congrArg₂ Vec2.mk column row
  exact unlisted i tile lists (place ▸ Rect.contains_texelAt holds)

theorem unlisted_of_place_ne {place : Nat} (away : ∀ e ∈ x.edits groups, e.place ≠ place) :
    x.IsUnlisted ⟨place % x.side, place / x.side⟩ := by
  intro i tile lists inside
  rcases Rect.exists_texelAt inside with ⟨texel, holds, same⟩
  apply away _ (edit_mem_edits listing covers lists holds)
  rw [edit, same]
  exact Nat.div_add_mod' place x.side

end Lists

theorem edits_blind : ∀ e ∈ x.edits groups, e.IsBlind := by
  intro e stored
  rcases List.mem_flatMap.mp stored with ⟨id, -, stored⟩
  rw [threadEdits] at stored
  split at stored
  · exact absurd stored List.not_mem_nil
  · split at stored
    · obtain rfl := List.mem_singleton.mp stored
      exact fun _ _ => rfl
    · exact absurd stored List.not_mem_nil

namespace IsComplete

variable (complete : x.IsComplete)

include complete

theorem captured_ends (lists : x.Lists i tile) (holds : (tile.area x.side).Holds texel) :
    ∃ depth direct surface,
      x.captured.depth.read ((tile.area x.side).texelAt texel) = .ok depth ∧
      x.captured.direct.read ((tile.area x.side).texelAt texel) = .ok direct ∧
      x.captured.surfaces.read ((tile.area x.side).texelAt texel) = .ok surface := by
  obtain ⟨left, above⟩ := Rect.texelAt_lt (complete.listing.within i tile lists) holds
  rcases complete.whole.depth.read_ends complete.words left above with ⟨depth, depths⟩
  rcases complete.whole.direct.read_ends complete.words left above with ⟨direct, directs⟩
  rcases complete.whole.surfaces.read_ends complete.words left above with ⟨surface, surfaces⟩
  exact ⟨depth, direct, surface, depths, directs, surfaces⟩

theorem runThread_eq (lists : x.Lists id.z tile) (holds : (tile.area x.side).Holds ⟨id.x, id.y⟩)
    (lighting : Texels (Vec4 α)) : x.runThread id lighting = (do
      let light ← x.lightAt tile ⟨id.x, id.y⟩
      lighting.write ((tile.area x.side).texelAt ⟨id.x, id.y⟩) light) := by
  obtain ⟨left, above⟩ := Rect.texelAt_lt (complete.listing.within id.z tile lists) holds
  have side : x.side ≤ 4294967296 :=
    (Nat.le_mul_of_pos_right _ (Nat.zero_lt_of_lt left)).trans complete.words
  rcases complete.captured_ends lists holds with ⟨depth, direct, surface, depths, directs, surfaces⟩
  rcases bind_eq_ok.mp lists.2 with ⟨address, found, read⟩
  rw [runThread, lightTexel_eq lists.1 (fetch_eq_ok.mp found) read rfl holds.1 holds.2
    (left.trans_le side) (above.trans_le side) depths surfaces directs, lightCaptured, lightAt]
  dsimp only
  rw [depths, ok_bind, directs, ok_bind, surfaces, ok_bind]
  split
  · rfl
  · simp only [Lighting.atSurface, bind_assoc, pure_bind]
    rfl

theorem runThread_performs (known : id.z < x.pass.tilesCount) :
    Edit.Performs (⟨·, .splat x.side⟩) (x.runThread id) (x.threadEdits id) := by
  rcases complete.listing.found id.z known with ⟨tile, lists⟩
  rw [threadEdits_of_lists lists]
  split
  · rename_i holds
    obtain ⟨left, above⟩ := Rect.texelAt_lt (complete.listing.within id.z tile lists) holds
    obtain ⟨indexed, -⟩ := Texels.index_square complete.words left above
    intro data after
    rw [complete.runThread_eq lists holds, Edit.foldlM_apply_singleton]
    simp only [Edit.apply_eq_ok, edit, bind_eq_ok, Texels.write, indexed, ok_bind, store_eq_ok,
      pure_eq_ok, Except.ok.injEq]
    constructor
    · intro ran
      rcases ran with ⟨light, lit, stored, ⟨inside, rfl⟩, rfl⟩
      exact ⟨_, ⟨data[_], light, Array.getElem?_eq_getElem inside, lit, rfl⟩, rfl⟩
    · intro ran
      rcases ran with ⟨_, ⟨old, light, held, lit, rfl⟩, rfl⟩
      exact ⟨light, lit, _, ⟨(Array.getElem?_eq_some_iff.mp held).1, rfl⟩, rfl⟩
  · rename_i beyond
    exact Edit.performs_nil fun data => runThread_idle lists beyond _

theorem lightAt_ends (lists : x.Lists i tile) (holds : (tile.area x.side).Holds texel)
    (answers : ∀ pos normal, ∃ irradiance,
      x.sampler.sample pos normal x.pass.bias = .ok irradiance) :
    ∃ light, x.lightAt tile texel = .ok light := by
  rcases complete.captured_ends lists holds with ⟨depth, direct, surface, depths, directs, surfaces⟩
  rcases answers (tile.texelPosition texel (tile.area x.side).size depth) surface.normalVector
    with ⟨irradiance, sampled⟩
  rw [lightAt, depths, ok_bind, directs, ok_bind, surfaces, ok_bind, sampled, ok_bind]
  split
  · exact ⟨_, rfl⟩
  · exact ⟨_, rfl⟩

variable (covers : x.Covers groups) {before before' after : Texels (Vec4 α)}
  (square : before.IsSquare x.side)

include covers square

theorem runThreads_eq_ok (order : threads.Perm (groupThreads groups)) :
    x.runThreads threads before = .ok after ↔
      after.size = .splat x.side ∧ Edit.Made (x.edits groups) before.data after.data := by
  have performs : Edit.Performs (⟨·, .splat x.side⟩) (x.runThreads threads)
      (threads.flatMap x.threadEdits) := Edit.Performs.foldlM fun id member =>
    complete.runThread_performs
      (covers.layers ▸ (mem_groupThreads.mp (order.mem_iff.mp member)).2.2)
  have same : (x.edits groups).Perm (threads.flatMap x.threadEdits) := order.symm.flatMap_right _
  have distinct := distinct_edits complete.listing covers
  obtain ⟨data, size⟩ := before
  obtain rfl : size = _ := square.size
  rw [performs data after]
  simp only [← Edit.run_perm distinct same, Edit.run_eq_ok distinct]
  constructor
  · intro ran
    rcases ran with ⟨lit, made, rfl⟩
    exact ⟨rfl, made⟩
  · intro ran
    exact ⟨after.data, ran.2, congrArg (Texels.mk after.data) ran.1⟩

theorem runThreads_ends_iff (order : threads.Perm (groupThreads groups)) :
    (∃ after, x.runThreads threads before = .ok after) ↔ ∀ i tile texel, x.Lists i tile →
      (tile.area x.side).Holds texel → ∃ light, x.lightAt tile texel = .ok light := by
  constructor
  · intro ended i tile texel lists holds
    rcases ended with ⟨after, ran⟩
    have made := ((complete.runThreads_eq_ok covers square order).mp ran).2
    rcases made.changed _ (edit_mem_edits complete.listing covers lists holds)
      with ⟨old, light, -, lit, -⟩
    exact ⟨light, lit⟩
  · intro each
    have ends : ∃ after, (x.edits groups).foldlM Edit.apply before.data = .ok after := by
      apply Edit.run_ends (distinct_edits complete.listing covers)
      intro e stored
      rcases (mem_edits complete.listing covers).mp stored with ⟨i, tile, texel, lists, holds, rfl⟩
      rcases each i tile texel lists holds with ⟨light, lit⟩
      obtain ⟨left, above⟩ := Rect.texelAt_lt (complete.listing.within i tile lists) holds
      have inside := (Texels.index_square complete.words left above).2
      exact ⟨_, light, Array.getElem?_eq_getElem (square.full.symm ▸ inside), lit⟩
    rcases ends with ⟨data, ran⟩
    exact ⟨⟨data, .splat x.side⟩, (complete.runThreads_eq_ok covers square order).mpr
      ⟨rfl, (Edit.run_eq_ok (distinct_edits complete.listing covers)).mp ran⟩⟩

theorem isLit_of_made (size : after.size = .splat x.side)
    (made : Edit.Made (x.edits groups) before.data after.data) : x.IsLit before after := by
  refine ⟨⟨size, made.size.trans square.full⟩, ?_, ?_⟩
  · intro i tile texel lists holds
    obtain ⟨left, above⟩ := Rect.texelAt_lt (complete.listing.within i tile lists) holds
    rcases made.changed _ (edit_mem_edits complete.listing covers lists holds)
      with ⟨old, light, -, lit, stored⟩
    exact ⟨light, lit, (Texels.read_square complete.words left above size).mpr stored⟩
  · intro p left above unlisted
    have same := made.kept _ fun e stored => place_ne complete.listing covers unlisted left stored
    rw [Texels.read, Texels.read, size, square.size,
      (Texels.index_square complete.words left above).1, ok_bind, ok_bind]
    exact fetch_congr made.size same

theorem runThreads_overwrite {threads' : List (Vec3 Nat)} (order : threads.Perm (groupThreads groups))
    (order' : threads'.Perm (groupThreads groups)) (square' : before'.IsSquare x.side)
    (agree : x.AgreeOutside before before') (ran : x.runThreads threads before = .ok after) :
    x.runThreads threads' before' = .ok after := by
  obtain ⟨size, made⟩ := (complete.runThreads_eq_ok covers square order).mp ran
  apply (complete.runThreads_eq_ok covers square' order').mpr
  refine ⟨size, made.overwrite edits_blind (square'.full.trans square.full.symm) ?_⟩
  intro i away
  by_cases inside : i < x.side * x.side
  · have some : 0 < x.side := Nat.pos_of_mul_pos_left (Nat.zero_lt_of_lt inside)
    have left : i % x.side < x.side := Nat.mod_lt i some
    have above : i / x.side < x.side := (Nat.div_lt_iff_lt_mul some).mpr inside
    have same := agree ⟨_, _⟩ left above (unlisted_of_place_ne complete.listing covers away)
    rcases square.read_ends (p := ⟨_, _⟩) complete.words left above with ⟨value, read⟩
    have held := (Texels.read_square complete.words left above square.size).mp read
    have held' := (Texels.read_square complete.words left above square'.size).mp (same.trans read)
    dsimp only at held held'
    rw [Nat.div_add_mod'] at held held'
    rw [held, held']
  · rw [Array.getElem?_eq_none (by rw [square'.full]; omega),
      Array.getElem?_eq_none (by rw [square.full]; omega)]

theorem runThreads_again (order : threads.Perm (groupThreads groups))
    (ran : x.runThreads threads before = .ok after) {runs : List (List (Vec3 Nat))}
    (orders : ∀ threads' ∈ runs, threads'.Perm (groupThreads groups)) :
    runs.foldlM (fun lighting threads' => x.runThreads threads' lighting) after = .ok after := by
  obtain ⟨size, made⟩ := (complete.runThreads_eq_ok covers square order).mp ran
  have lit := complete.isLit_of_made covers square size made
  induction runs with
  | nil => rfl
  | cons threads' runs ih =>
      have same := complete.runThreads_overwrite covers square order
        (orders threads' List.mem_cons_self) lit.square lit.kept ran
      rw [List.foldlM_cons, same, ok_bind]
      exact ih fun other member => orders other (List.mem_cons_of_mem _ member)

end IsComplete

theorem run_eq_runThreads (layers : Nat) (lighting : Texels (Vec4 α)) :
    run x.pass x.constants x.sampler x.objects x.tiles x.captured layers lighting =
      x.runThreads (groupThreads (layersOf x.pass.maxTileSize layers)) lighting := by
  simp only [run, AtlasLighting.threads, Lighting.threads, runThreads, groupThreads, foldlM_flatMap,
    List.foldlM_map]
  rfl

end Inputs

end AtlasLighting

namespace Renderer

variable {A α : Type} [Scalar α]

def lightingPass (r : Renderer A α) : AtlasLightingPass α :=
  ⟨r.tilesCount, r.maxTileSize, r.config.samplerBias⟩

/-- All threads of the run that a renderer issues to light its atlas, none if there is no tile. -/
def lightingThreads (r : Renderer A α) : List (Vec3 Nat) :=
  r.renderAtlasLighting.commands.flatMap Command.threads

omit [Scalar α] in
theorem lightingThreads_eq {r : Renderer A α} (issued : r.renderAtlasLighting.result = .ok ()) :
    r.lightingThreads = groupThreads (layersOf r.maxTileSize r.tilesCount) := by
  rw [renderAtlasLighting] at issued
  rw [lightingThreads, renderAtlasLighting]
  by_cases none : r.tilesCount = 0
  · rw [if_pos none, none]
    rfl
  · rw [if_neg none] at issued ⊢
    cases added : Word.add r.maxTileSize (Lighting.groupSide - 1) with
    | error e =>
        rw [squareGroups, added] at issued
        cases issued
    | ok length =>
        obtain ⟨rfl, -⟩ := Word.add_eq_ok.mp added
        rw [squareGroups, added]
        exact List.append_nil _

end Renderer

namespace AtlasLighting

variable {A α : Type} [Scalar α]

/-- The threads that a renderer issues light each texel of each listed tile by what has been captured
of it and by what the probes add there, and no other. They do so in whichever order they run, from
whatever was in the tiles before, and any number of runs comes to the same as one. -/
theorem lights_listed_tiles (r : Renderer A α) (x : Inputs α)
    (issued : r.renderAtlasLighting.result = .ok ()) (told : x.pass = r.lightingPass)
    (complete : x.IsComplete) :
    ∀ threads, threads.Perm r.lightingThreads → ∀ before : Texels (Vec4 α), before.IsSquare x.side →
      ((∃ after, x.runThreads threads before = .ok after) ↔ ∀ i tile texel, x.Lists i tile →
        (tile.area x.side).Holds texel → ∃ light, x.lightAt tile texel = .ok light) ∧
      ((∀ pos normal, ∃ irradiance, x.sampler.sample pos normal x.pass.bias = .ok irradiance) →
        ∃ after, x.runThreads threads before = .ok after) ∧
      ∀ after, x.runThreads threads before = .ok after →
        x.IsLit before after ∧
        (∀ threads' before', threads'.Perm r.lightingThreads → before'.IsSquare x.side →
          x.AgreeOutside before before' → x.runThreads threads' before' = .ok after) ∧
        run x.pass x.constants x.sampler x.objects x.tiles x.captured x.pass.tilesCount before =
          .ok after ∧
        ∀ runs, runs ≠ [] → (∀ threads' ∈ runs, threads'.Perm r.lightingThreads) →
          runs.foldlM (fun lighting threads' => x.runThreads threads' lighting) before =
            .ok after := by
  have same : r.lightingThreads = groupThreads (layersOf x.pass.maxTileSize x.pass.tilesCount) := by
    rw [Renderer.lightingThreads_eq issued, told, Renderer.lightingPass]
  have covers := x.covers_layersOf
  rw [same]
  intro threads order before square
  have ends := complete.runThreads_ends_iff covers square order
  refine ⟨ends, ?_, ?_⟩
  · intro answers
    apply ends.mpr
    intro i tile texel lists holds
    exact complete.lightAt_ends lists holds answers
  · intro after ran
    have once : ∀ threads', threads'.Perm (groupThreads (layersOf x.pass.maxTileSize
        x.pass.tilesCount)) → x.runThreads threads' before = .ok after := by
      intro threads' order'
      apply complete.runThreads_overwrite covers square order order' square _ ran
      exact fun _ _ _ _ => rfl
    obtain ⟨size, made⟩ := (complete.runThreads_eq_ok covers square order).mp ran
    refine ⟨complete.isLit_of_made covers square size made, ?_, ?_, ?_⟩
    · intro threads' before' order' square' agree
      exact complete.runThreads_overwrite covers square order order' square' agree ran
    · rw [Inputs.run_eq_runThreads]
      exact once _ (List.Perm.refl _)
    · intro runs some orders
      cases runs with
      | nil => exact absurd rfl some
      | cons threads' runs =>
          rw [List.foldlM_cons, once threads' (orders threads' List.mem_cons_self), ok_bind]
          exact complete.runThreads_again covers square order ran
            fun other member => orders other (List.mem_cons_of_mem _ member)

/-- Two tiles of a box side by side in an atlas, and nothing captured in every other column. -/
noncomputable def shelf : Inputs ℝ where
  pass := ⟨2, 5, Renderer.yard.samplerBias⟩
  constants := Renderer.yard.atlasConstants .zero 1
  sampler := Sampler.octetSampler ⟨0, 0⟩ ⟨7, 0, 0, 1⟩
  objects := ((Registry.tileRecord 16 Renderer.chest 0 ⟨0, 0⟩).words ++
    (Registry.tileRecord 16 Renderer.chest 3 ⟨4, 0⟩).words).toArray
  tiles := #[0, 5]
  captured :=
    ⟨⟨(Array.range 256).map fun i => if i % 2 = 0 then 1 else 1 / 2, .splat 16⟩,
      ⟨.replicate 256 ⟨⟨1, 1, 1⟩, 0⟩, .splat 16⟩, ⟨.replicate 256 ⟨1, 1, 1, 1⟩, .splat 16⟩⟩

noncomputable def shelfRenderer : Renderer Unit ℝ :=
  { Renderer.start Renderer.yard 0 ⟨(), 16, 2, [], [], false⟩ with tilesCount := 2, maxTileSize := 5 }

theorem shelf_lists {i : Nat} {tile : TileRecord ℝ} : shelf.Lists i tile ↔
    i = 0 ∧ tile = Registry.tileRecord 16 Renderer.chest 0 ⟨0, 0⟩ ∨
      i = 1 ∧ tile = Registry.tileRecord 16 Renderer.chest 3 ⟨4, 0⟩ := by
  have first : (do TileRecord.read shelf.objects (← fetch shelf.tiles 0)) =
      .ok (Registry.tileRecord 16 Renderer.chest 0 ⟨0, 0⟩) := by
    refine bind_eq_ok.mpr ⟨0, rfl, TileRecord.read_of_words (fun k inside => ?_) (by decide)⟩
    interval_cases k <;> rfl
  have second : (do TileRecord.read shelf.objects (← fetch shelf.tiles 1)) =
      .ok (Registry.tileRecord 16 Renderer.chest 3 ⟨4, 0⟩) := by
    refine bind_eq_ok.mpr ⟨5, rfl, TileRecord.read_of_words (fun k inside => ?_) (by decide)⟩
    interval_cases k <;> rfl
  constructor
  · intro lists
    obtain ⟨few, read⟩ := lists
    have known : i < 2 := few
    interval_cases i
    · exact .inl ⟨rfl, Except.ok.inj (read.symm.trans first)⟩
    · exact .inr ⟨rfl, Except.ok.inj (read.symm.trans second)⟩
  · intro known
    rcases known with ⟨rfl, rfl⟩ | ⟨rfl, rfl⟩
    · exact ⟨by decide, first⟩
    · exact ⟨by decide, second⟩

theorem shelf_isListing : shelf.IsListing := by
  have left : Rect.Within ⟨⟨0, 0⟩, ⟨4, 2⟩⟩ 16 := ⟨by decide, by decide⟩
  have right : Rect.Within ⟨⟨4, 0⟩, ⟨3, 5⟩⟩ 16 := ⟨by decide, by decide⟩
  have first : (Registry.tileRecord 16 Renderer.chest 0 ⟨0, 0⟩).area shelf.side =
      ⟨⟨0, 0⟩, ⟨4, 2⟩⟩ :=
    TileRecord.area_eq (Registry.rect_tileRecord (by decide) (by decide) left)
  have second : (Registry.tileRecord 16 Renderer.chest 3 ⟨4, 0⟩).area shelf.side =
      ⟨⟨4, 0⟩, ⟨3, 5⟩⟩ :=
    TileRecord.area_eq (Registry.rect_tileRecord (by decide) (by decide) right)
  have apart : Rect.Apart ⟨⟨0, 0⟩, ⟨4, 2⟩⟩ ⟨⟨4, 0⟩, ⟨3, 5⟩⟩ := by
    intro p inside inside'
    exact absurd inside.2.1 (Nat.not_lt.mpr inside'.1)
  constructor
  case found =>
    intro i few
    have known : i < 2 := few
    interval_cases i
    · exact ⟨_, shelf_lists.mpr (.inl ⟨rfl, rfl⟩)⟩
    · exact ⟨_, shelf_lists.mpr (.inr ⟨rfl, rfl⟩)⟩
  case within =>
    intro i tile lists
    rcases shelf_lists.mp lists with ⟨-, rfl⟩ | ⟨-, rfl⟩
    · exact first ▸ left
    · exact second ▸ right
  case covered =>
    intro i tile lists
    rcases shelf_lists.mp lists with ⟨-, rfl⟩ | ⟨-, rfl⟩
    · exact first ▸ (by decide : 4 ≤ 5 ∧ 2 ≤ 5)
    · exact second ▸ (by decide : 3 ≤ 5 ∧ 5 ≤ 5)
  case apart =>
    intro i j tile other lists lists' different
    rcases shelf_lists.mp lists with ⟨rfl, rfl⟩ | ⟨rfl, rfl⟩
    all_goals rcases shelf_lists.mp lists' with ⟨rfl, rfl⟩ | ⟨rfl, rfl⟩
    · exact absurd rfl different
    · exact first ▸ second ▸ apart
    · exact first ▸ second ▸ apart.symm
    · exact absurd rfl different

theorem lights_listed_tiles_shelf : ∃ after,
    shelf.runThreads shelfRenderer.lightingThreads.reverse (FrameMemory.blank ⟨16, 16⟩) = .ok after ∧
      shelf.IsLit (FrameMemory.blank ⟨16, 16⟩) after ∧
      [shelfRenderer.lightingThreads, shelfRenderer.lightingThreads.reverse].foldlM
        (fun lighting threads => shelf.runThreads threads lighting) (FrameMemory.blank ⟨16, 16⟩) =
          .ok after := by
  have whole : shelf.captured.IsWhole 16 :=
    ⟨⟨rfl, by simp [shelf]⟩, ⟨rfl, by simp [shelf]⟩, rfl, by simp [shelf]⟩
  have square : (FrameMemory.blank ⟨16, 16⟩ : Texels (Vec4 ℝ)).IsSquare 16 :=
    ⟨rfl, Array.size_replicate⟩
  have asleep : PackedProbe.IsInactive ⟨0, 0⟩ := rfl
  have back := shelfRenderer.lightingThreads.reverse_perm
  obtain ⟨-, ends, lights⟩ := lights_listed_tiles shelfRenderer shelf rfl rfl
    ⟨by decide, whole, shelf_isListing⟩ _ back _ square
  rcases ends fun pos normal => (Sampler.octetSampler_isServed asleep _).sample_ends pos normal _
    with ⟨after, ran⟩
  obtain ⟨lit, -, -, again⟩ := lights after ran
  refine ⟨after, ran, lit, again _ (by simp) ?_⟩
  intro threads member
  cases List.mem_pair.mp member with
  | inl first => exact first ▸ List.Perm.refl _
  | inr second => exact second ▸ back

end AtlasLighting

end IrradianceField
