import IrradianceField.Proofs.Borders
import IrradianceField.Scalar.Rational

/-!
Numbering: the probes of a cascade, their slots and their tiles are numbered without gaps and
without clashes, and the border passes number the tiles in the same way.
-/

namespace IrradianceField

/-- Checked computations that lead from one set to another and back, each undoing the other. -/
structure AreInverse {β γ : Type} (forth : β → Except Fault γ) (back : γ → Except Fault β)
    (A : Set β) (B : Set γ) : Prop where
  leads : ∀ a ∈ A, ∃ b ∈ B, forth a = .ok b ∧ back b = .ok a
  returns : ∀ b ∈ B, ∃ a ∈ A, back b = .ok a ∧ forth a = .ok b

theorem AreInverse.of_invOn {β γ : Type} {forth : β → Except Fault γ} {back : γ → Except Fault β}
    {A : Set β} {B : Set γ} {f : β → γ} {g : γ → β} (inverse : Set.InvOn g f A B)
    (maps : Set.MapsTo f A B) (maps' : Set.MapsTo g B A) (ends : ∀ a ∈ A, forth a = .ok (f a))
    (ends' : ∀ b ∈ B, back b = .ok (g b)) : AreInverse forth back A B := by
  constructor
  · intro a member
    have there := maps member
    exact ⟨f a, there, ends a member, by rw [ends' _ there, inverse.1 member]⟩
  · intro b member
    have here := maps' member
    exact ⟨g b, here, ends' b member, by rw [ends _ here, inverse.2 member]⟩

namespace Grid

def unwrapAxis (count : Nat) (scroll : Int) (coord : Nat) : Nat :=
  ((coord - scroll) % count).toNat

def unwrapAt (g : Grid) (scroll : Vec3 Int) (c : Vec3 Nat) : Vec3 Nat :=
  ⟨unwrapAxis g.counts.x scroll.x c.x, unwrapAxis g.counts.y scroll.y c.y,
    unwrapAxis g.counts.z scroll.z c.z⟩

/-- There are probes along each axis, and as many in all as a word can tell. -/
structure IsNumbered (g : Grid) : Prop where
  positive : 0 < g.counts.x ∧ 0 < g.counts.y ∧ 0 < g.counts.z
  words : g.size < 4294967296
  total : g.size * g.cascades < 4294967296

structure HasAtlas (g : Grid) (resolution : Nat) : Prop where
  width : g.counts.x * (resolution + 2) < 4294967296
  rows : g.counts.y * g.counts.z * (resolution + 2) < 4294967296
  height : g.counts.y * g.counts.z * (resolution + 2) * g.cascades < 4294967296

def InTile (g : Grid) (resolution cascade slot : Nat) (pos : Vec2 Nat) : Prop :=
  ∃ origin, g.tileOrigin cascade slot resolution = .ok origin ∧
    (origin.x ≤ pos.x ∧ pos.x < origin.x + (resolution + 2)) ∧
    origin.y ≤ pos.y ∧ pos.y < origin.y + (resolution + 2)

structure IsTiling (g : Grid) (resolution : Nat) (size : Vec2 Nat) : Prop where
  placed : ∀ cascade < g.cascades, ∀ slot < g.size,
    ∃ origin, g.tileOrigin cascade slot resolution = .ok origin
  within : ∀ cascade < g.cascades, ∀ slot < g.size, ∀ pos, g.InTile resolution cascade slot pos →
    pos.x < size.x ∧ pos.y < size.y
  covered : ∀ pos : Vec2 Nat, pos.x < size.x → pos.y < size.y →
    ∃! p : Nat × Nat, (p.1 < g.cascades ∧ p.2 < g.size) ∧ g.InTile resolution p.1 p.2 pos

/-- A border pass over an atlas of given size finds the tile of a slot under the number that the
slot has among those of all cascades. -/
def IsBordered (g : Grid) (resolution : Nat) (size : Vec2 Nat) : Prop :=
  ∀ cascade < g.cascades, ∀ slot < g.size, ∃ number origin,
    g.slot cascade slot = .ok number ∧ g.tileOrigin cascade slot resolution = .ok origin ∧
    ∀ (β : Type) (atlas : Texels β) (texel src : Vec2 Nat), atlas.size = size →
      Border.source texel resolution = .ok (some src) →
      Border.copyTexel ⟨resolution, g.size * g.cascades⟩ number texel atlas = (do
        let value ← atlas.read ⟨origin.x + src.x, origin.y + src.y⟩
        atlas.write ⟨origin.x + texel.x, origin.y + texel.y⟩ value)

section Scrolling

variable {g : Grid} {scroll : Vec3 Int} {c : Vec3 Nat} {count coord slot : Nat} {s : Int}

theorem unwrapAxis_eq (count : Nat) (s : Int) (coord : Nat) :
    unwrapAxis count s coord = wrapAxis count (-s) coord := by
  rw [unwrapAxis, wrapAxis, Int.sub_eq_add_neg]

theorem wrapAxis_wrapAxis {s s' : Int} (inside : coord < count) (opposite : s + s' = 0) :
    wrapAxis count s' (wrapAxis count s coord) = coord := by
  have low := Int.emod_nonneg (coord + s) (by omega : (count : Int) ≠ 0)
  have back : ((wrapAxis count s coord : Int) + s') % count = (coord : Int) % count := by
    calc
      ((wrapAxis count s coord : Int) + s') % count = ((coord + s) % count + s') % count := by
        rw [wrapAxis, Int.toNat_of_nonneg low]
      _ = (coord + (s + s')) % count := by rw [Int.emod_add_emod, Int.add_assoc]
      _ = (coord : Int) % count := by rw [opposite, Int.add_zero]
  rw [wrapAxis, back, Int.emod_eq_of_lt (by omega) (by omega), Int.toNat_natCast]

theorem unwrapAt_contained (inside : g.Contains c) : g.Contains (g.unwrapAt scroll c) := by
  simp only [Contains, unwrapAt, unwrapAxis_eq]
  exact ⟨wrapAxis_lt (Nat.zero_lt_of_lt inside.1), wrapAxis_lt (Nat.zero_lt_of_lt inside.2.1),
    wrapAxis_lt (Nat.zero_lt_of_lt inside.2.2)⟩

theorem unwrapAt_wrapAt (inside : g.Contains c) : g.unwrapAt scroll (g.wrapAt scroll c) = c := by
  simp only [unwrapAt, wrapAt, unwrapAxis_eq]
  rw [wrapAxis_wrapAxis inside.1 (Int.add_right_neg _),
    wrapAxis_wrapAxis inside.2.1 (Int.add_right_neg _),
    wrapAxis_wrapAxis inside.2.2 (Int.add_right_neg _)]

theorem wrapAt_unwrapAt (inside : g.Contains c) : g.wrapAt scroll (g.unwrapAt scroll c) = c := by
  simp only [unwrapAt, wrapAt, unwrapAxis_eq]
  rw [wrapAxis_wrapAxis inside.1 (Int.add_left_neg _),
    wrapAxis_wrapAxis inside.2.1 (Int.add_left_neg _),
    wrapAxis_wrapAxis inside.2.2 (Int.add_left_neg _)]

theorem exists_slotAt (scroll : Vec3 Int) (inside : slot < g.size) :
    ∃ index < g.size, g.slotAt scroll index = slot := by
  have coords : g.Contains (g.unwrapAt scroll (g.coordsAt slot)) :=
    unwrapAt_contained (coordsAt_contained inside)
  refine ⟨g.indexAt (g.unwrapAt scroll (g.coordsAt slot)), indexAt_lt coords, ?_⟩
  rw [slotAt, coordsAt_indexAt coords, wrapAt_unwrapAt (coordsAt_contained inside),
    indexAt_coordsAt]

end Scrolling

section Numbers

variable {g : Grid}

theorem IsNumbered.counted (numbered : g.IsNumbered) : g.probesPerCascade = .ok g.size :=
  probesPerCascade_eq_ok.mpr ⟨rfl,
    (Nat.le_mul_of_pos_right _ numbered.positive.2.2).trans_lt numbered.words, numbered.words⟩

theorem IsNumbered.indices (numbered : g.IsNumbered) :
    AreInverse g.probeIndex g.probeCoords {c | g.Contains c} (Set.Iio g.size) := by
  apply AreInverse.of_invOn (f := g.indexAt) (g := g.coordsAt)
  · exact ⟨fun c inside => coordsAt_indexAt inside, fun index _ => indexAt_coordsAt g index⟩
  · exact fun c inside => indexAt_lt inside
  · exact fun index inside => coordsAt_contained inside
  · exact fun c inside => probeIndex_of_contained numbered.words inside
  · exact fun index inside => probeCoords_of_lt numbered.words inside

theorem IsNumbered.slots (numbered : g.IsNumbered) :
    AreInverse (fun p : Nat × Nat => g.slot p.1 p.2)
      (fun number => .ok (number / g.size, number % g.size))
      {p | p.1 < g.cascades ∧ p.2 < g.size} (Set.Iio (g.size * g.cascades)) := by
  have positive : 0 < g.size :=
    Nat.mul_pos (Nat.mul_pos numbered.positive.1 numbered.positive.2.1) numbered.positive.2.2
  have later : ∀ {cascade}, cascade < g.cascades → (cascade + 1) * g.size ≤ g.size * g.cascades :=
    fun present => Nat.mul_comm .. ▸ Nat.mul_le_mul_left _ present
  apply AreInverse.of_invOn (f := fun p => p.1 * g.size + p.2)
    (g := fun number => (number / g.size, number % g.size))
  · constructor
    · intro p inside
      obtain ⟨-, below⟩ := inside
      dsimp only
      rw [Nat.mul_comm, Nat.mul_add_div positive, Nat.div_eq_of_lt below, Nat.mul_add_mod,
        Nat.mod_eq_of_lt below, Nat.add_zero]
    · exact fun number _ => Nat.div_add_mod' number g.size
  · intro p inside
    have below := later inside.1
    rw [Nat.succ_mul] at below
    exact lt_of_lt_of_le (Nat.add_lt_add_left inside.2 _) below
  · exact fun number inside =>
      ⟨(Nat.div_lt_iff_lt_mul positive).mpr (Nat.mul_comm .. ▸ inside), Nat.mod_lt _ positive⟩
  · exact fun p inside =>
      slot_of_lt numbered.counted inside.2 ((later inside.1).trans numbered.total.le)
  · exact fun _ _ => rfl

variable {resolution : Nat} {size : Vec2 Nat}

theorem HasAtlas.sized (numbered : g.IsNumbered) (has : g.HasAtlas resolution) :
    g.atlasSize resolution = .ok ⟨g.counts.x * (resolution + 2),
      g.counts.y * g.counts.z * (resolution + 2) * g.cascades⟩ := by
  have rows : g.counts.y * g.counts.z ≤ g.counts.y * g.counts.z * (resolution + 2) :=
    Nat.le_mul_of_pos_right _ (by omega)
  have tile : resolution + 2 ≤ g.counts.x * (resolution + 2) :=
    Nat.le_mul_of_pos_left _ numbered.positive.1
  exact atlasSize_eq_ok.mpr ⟨rfl, tile.trans_lt has.width, has.width, rows.trans_lt has.rows,
    has.rows, has.height⟩

theorem inTile_iff {cascade slot : Nat} {pos : Vec2 Nat} (sized : g.atlasSize resolution = .ok size)
    (present : cascade < g.cascades) (inside : slot < g.size) :
    g.InTile resolution cascade slot pos ↔ pos.x / (resolution + 2) = slot % g.counts.x ∧
      pos.y / (resolution + 2) = cascade * (g.counts.y * g.counts.z) + slot / g.counts.x := by
  have share : ∀ {pos tile : Nat}, (tile * (resolution + 2) ≤ pos ∧
      pos < tile * (resolution + 2) + (resolution + 2)) ↔ pos / (resolution + 2) = tile := by
    intro pos tile
    rw [Nat.div_eq_iff (by omega : 0 < resolution + 2)]
    omega
  simp only [InTile, tileOrigin_of_lt sized present inside, Except.ok.injEq, exists_eq_left', share]

theorem isTiling (sized : g.atlasSize resolution = .ok size) : g.IsTiling resolution size := by
  have positive : 0 < resolution + 2 := by omega
  constructor
  · exact fun cascade present slot inside => ⟨_, tileOrigin_of_lt sized present inside⟩
  · intro cascade present slot inside pos found
    obtain ⟨right, bottom⟩ := tile_within sized present inside
    obtain ⟨column, row⟩ := (inTile_iff sized present inside).mp found
    constructor
    · exact ((Nat.div_lt_iff_lt_mul positive).mp (Nat.lt_succ_of_le column.le)).trans_le right
    · exact ((Nat.div_lt_iff_lt_mul positive).mp (Nat.lt_succ_of_le row.le)).trans_le bottom
  · intro pos left above
    obtain ⟨rfl, -⟩ := atlasSize_eq_ok.mp sized
    have column : pos.x / (resolution + 2) < g.counts.x := (Nat.div_lt_iff_lt_mul positive).mpr left
    have row : pos.y / (resolution + 2) < g.cascades * (g.counts.y * g.counts.z) := by
      apply (Nat.div_lt_iff_lt_mul positive).mpr
      calc
        pos.y < g.counts.y * g.counts.z * (resolution + 2) * g.cascades := above
        _ = g.cascades * (g.counts.y * g.counts.z) * (resolution + 2) := by ring
    have rows : 0 < g.counts.y * g.counts.z := Nat.pos_of_mul_pos_left (Nat.zero_lt_of_lt row)
    have present : pos.y / (resolution + 2) / (g.counts.y * g.counts.z) < g.cascades :=
      (Nat.div_lt_iff_lt_mul rows).mpr row
    have inRow := Nat.mod_lt (pos.y / (resolution + 2)) rows
    -- the slot is the texel's column within its row of tiles, counted from the cascade's first row
    let slot := pos.y / (resolution + 2) % (g.counts.y * g.counts.z) * g.counts.x +
      pos.x / (resolution + 2)
    obtain ⟨slotRow, slotColumn⟩ :=
      mul_add_unique (Nat.mod_lt _ (Nat.zero_lt_of_lt column)) column
        (Nat.div_add_mod' slot g.counts.x)
    have inside : slot < g.size := by
      calc
        slot < (pos.y / (resolution + 2) % (g.counts.y * g.counts.z) + 1) * g.counts.x := by
          rw [Nat.succ_mul]
          exact Nat.add_lt_add_left column _
        _ ≤ g.counts.y * g.counts.z * g.counts.x := Nat.mul_le_mul_right _ inRow
        _ = g.size := by
          unfold size
          ring
    refine ⟨(pos.y / (resolution + 2) / (g.counts.y * g.counts.z), slot), ?_, ?_⟩
    · refine ⟨⟨present, inside⟩, (inTile_iff sized present inside).mpr ⟨slotColumn.symm, ?_⟩⟩
      rw [slotRow, Nat.div_add_mod']
    · intro p found
      obtain ⟨⟨present', inside'⟩, found⟩ := found
      obtain ⟨column', row'⟩ := (inTile_iff sized present' inside').mp found
      have split : p.1 * (g.counts.y * g.counts.z) + p.2 / g.counts.x =
          pos.y / (resolution + 2) / (g.counts.y * g.counts.z) * (g.counts.y * g.counts.z) +
            slot / g.counts.x := by
        rw [slotRow, Nat.div_add_mod', row']
      obtain ⟨cascades, rests⟩ := mul_add_unique (slot_row_lt inside') (slot_row_lt inside) split
      have slots : p.2 = slot := by
        rw [← Nat.div_add_mod p.2 g.counts.x, ← Nat.div_add_mod slot g.counts.x, rests, slotColumn,
          column']
      exact Prod.ext cascades slots

theorem isBordered (numbered : g.IsNumbered) (sized : g.atlasSize resolution = .ok size) :
    g.IsBordered resolution size := by
  intro cascade present slot inside
  obtain ⟨number, listed, counted, -⟩ := numbered.slots.leads (cascade, slot) ⟨present, inside⟩
  refine ⟨number, _, counted, tileOrigin_of_lt sized present inside, ?_⟩
  intro β atlas texel src own found
  obtain rfl := slot_eq_ok counted
  obtain ⟨rfl, -, width, -, -, height⟩ := atlasSize_eq_ok.mp sized
  have columns : 0 < g.counts.x := numbered.positive.1
  have rows : g.counts.y * g.counts.z * (resolution + 2) * g.cascades =
      g.counts.y * g.counts.z * g.cascades * (resolution + 2) := by ring
  have tiles : g.size * g.cascades = g.counts.x * (g.counts.y * g.counts.z * g.cascades) := by
    unfold size
    ring
  obtain ⟨row, column⟩ := number_div cascade slot columns
  rw [rows] at own height
  rw [Border.copyTexel_eq own width height tiles.le listed found, row, column]

end Numbers

end Grid

theorem Volume.wrappedIndex_inverse {α : Type} {v : Volume α} {cascade : Nat} {p : Placement α}
    (numbered : v.grid.IsNumbered) (found : v.placement cascade = .ok p)
    (fits : v.grid.Fits p.scroll) :
    AreInverse (v.wrappedIndex cascade)
      (fun slot => v.grid.unwrapAt p.scroll <$> v.grid.probeCoords slot)
      {c | v.grid.Contains c} (Set.Iio v.grid.size) := by
  apply AreInverse.of_invOn (f := fun c => v.grid.indexAt (v.grid.wrapAt p.scroll c))
    (g := fun slot => v.grid.unwrapAt p.scroll (v.grid.coordsAt slot))
  · constructor
    · intro c inside
      dsimp only
      rw [Grid.coordsAt_indexAt (Grid.wrapAt_contained inside), Grid.unwrapAt_wrapAt inside]
    · intro slot inside
      dsimp only
      rw [Grid.wrapAt_unwrapAt (Grid.coordsAt_contained inside), Grid.indexAt_coordsAt]
  · exact fun c inside => Grid.indexAt_lt (Grid.wrapAt_contained inside)
  · exact fun slot inside => Grid.unwrapAt_contained (Grid.coordsAt_contained inside)
  · intro c inside
    have wrapped := Grid.wrappedCoords_of_fits fits inside
    rw [Volume.wrappedIndex, found, ok_bind, Grid.wrappedIndex, wrapped, ok_bind]
    exact Grid.probeIndex_of_contained numbered.words (Grid.wrapAt_contained inside)
  · intro slot inside
    rw [Grid.probeCoords_of_lt numbered.words inside]
    rfl

/-- Probes are numbered along the axes, their slots by what has scrolled past, and the slots of all
cascades one after the other; their tiles make up the atlas, in the order in which the border
passes number them. -/
theorem Volume.numbering {α : Type} (v : Volume α) (numbered : v.grid.IsNumbered) :
    v.grid.probesPerCascade = .ok v.grid.size ∧
    AreInverse v.grid.probeIndex v.grid.probeCoords {c | v.grid.Contains c}
      (Set.Iio v.grid.size) ∧
    (∀ cascade p, v.placement cascade = .ok p → v.grid.Fits p.scroll →
      AreInverse (v.wrappedIndex cascade)
        (fun slot => v.grid.unwrapAt p.scroll <$> v.grid.probeCoords slot)
        {c | v.grid.Contains c} (Set.Iio v.grid.size)) ∧
    AreInverse (fun p : Nat × Nat => v.grid.slot p.1 p.2)
      (fun number => .ok (number / v.grid.size, number % v.grid.size))
      {p | p.1 < v.grid.cascades ∧ p.2 < v.grid.size} (Set.Iio (v.grid.size * v.grid.cascades)) ∧
    ∀ resolution, v.grid.HasAtlas resolution → ∃ size, v.grid.atlasSize resolution = .ok size ∧
      v.grid.IsTiling resolution size ∧ v.grid.IsBordered resolution size := by
  refine ⟨numbered.counted, numbered.indices, ?_, numbered.slots, ?_⟩
  · intro cascade p found fits
    exact wrappedIndex_inverse numbered found fits
  · intro resolution has
    have sized := has.sized numbered
    exact ⟨_, sized, Grid.isTiling sized, Grid.isBordered numbered sized⟩

/-- Two cascades of a grid with a different number of probes along each axis, that has scrolled
further than it is wide along one axis and back along another. -/
def unevenGrid : Grid := ⟨⟨3, 2, 4⟩, 2⟩

def unevenVolume : Volume Rat where
  grid := unevenGrid
  placements := .replicate _ ⟨⟨0, 0, 0⟩, 1, ⟨5, -7, 1⟩⟩
  raysRotation := .identity
  viewPos := ⟨0, 0, 0⟩
  rayMaxDistance := 10
  raysCount := 32
  historyWeight := 9 / 10
  gamma := 5
  intensity := 1

/-- The squares of a resolution of one texel are nine texels each, and there are 48 of them. -/
theorem unevenVolume_numbering : unevenVolume.grid.IsNumbered ∧
    AreInverse (unevenVolume.wrappedIndex 1)
      (fun slot => unevenGrid.unwrapAt ⟨5, -7, 1⟩ <$> unevenGrid.probeCoords slot)
      {c | unevenGrid.Contains c} (Set.Iio 24) ∧
    unevenGrid.IsTiling 1 ⟨9, 48⟩ ∧ unevenGrid.IsBordered 1 ⟨9, 48⟩ := by
  have numbered : unevenVolume.grid.IsNumbered := ⟨by decide, by decide, by decide⟩
  obtain ⟨-, -, scrolled, -, tiled⟩ := unevenVolume.numbering numbered
  obtain ⟨size, sized, tiling, bordered⟩ := tiled 1 ⟨by decide, by decide, by decide⟩
  obtain rfl : ⟨9, 48⟩ = size := Except.ok.inj sized
  exact ⟨numbered, scrolled 1 _ rfl (by decide), tiling, bordered⟩

end IrradianceField
