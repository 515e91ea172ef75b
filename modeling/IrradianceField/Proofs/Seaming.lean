import IrradianceField.Scalar.Real
import IrradianceField.Proofs.Bordering
import IrradianceField.Proofs.Fetching
import IrradianceField.Proofs.Numbering

/-!
Seaming: with its border filled, a tile has one value for each direction, as the edges of the square
meet where they are sewn up.
-/

namespace IrradianceField

open Scalar

namespace Border

section Sources

variable {resolution x y sx sy : Nat}

theorem source_swap (found : source ⟨x, y⟩ resolution = .ok (some ⟨sx, sy⟩)) :
    source ⟨y, x⟩ resolution = .ok (some ⟨sy, sx⟩) := by
  obtain ⟨last, sum, found⟩ := bind_eq_ok.mp found
  rw [source, sum, ok_bind]
  dsimp only at found ⊢
  repeat' split at found
  all_goals cases found
  all_goals simp_all

variable (short : resolution + 1 < 4294967296)

include short

theorem source_corners :
    source ⟨0, 0⟩ resolution = .ok (some ⟨resolution, resolution⟩) ∧
      source ⟨0, resolution + 1⟩ resolution = .ok (some ⟨resolution, 1⟩) ∧
      source ⟨resolution + 1, 0⟩ resolution = .ok (some ⟨1, resolution⟩) ∧
      source ⟨resolution + 1, resolution + 1⟩ resolution = .ok (some ⟨1, 1⟩) := by
  have last : Word.add resolution 1 = .ok (resolution + 1) := Word.add_eq_ok.mpr ⟨rfl, short⟩
  simp [source, last]

theorem source_columns (first : 1 ≤ y) (most : y ≤ resolution) :
    source ⟨0, y⟩ resolution = .ok (some ⟨1, resolution + 1 - y⟩) ∧
      source ⟨resolution + 1, y⟩ resolution = .ok (some ⟨resolution, resolution + 1 - y⟩) := by
  have last : Word.add resolution 1 = .ok (resolution + 1) := Word.add_eq_ok.mpr ⟨rfl, short⟩
  have inside : y ≠ 0 ∧ y ≠ resolution + 1 ∧ ¬resolution + 1 < y := by omega
  simp [source, last, inside]

end Sources

section Folding

variable {γ : Type} {resolution : Nat} {tile : Nat → Nat → γ}

/-- Each texel of the border shows what the inner one shows that it stands for. -/
def ShowsSources (resolution : Nat) (tile : Nat → Nat → γ) : Prop :=
  ∀ x y sx sy, source ⟨x, y⟩ resolution = .ok (some ⟨sx, sy⟩) → tile x y = tile sx sy

theorem ShowsSources.swap (shows : ShowsSources resolution tile) :
    ShowsSources resolution fun x y => tile y x :=
  fun x y sx sy found => shows y x sy sx (source_swap found)

theorem ShowsSources.folded (shows : ShowsSources resolution tile)
    (short : resolution + 1 < 4294967296) (some : 0 < resolution) {row : Nat}
    (below : row ≤ resolution + 1) : tile 0 row = tile 1 (resolution + 1 - row) ∧
      tile (resolution + 1) row = tile resolution (resolution + 1 - row) := by
  obtain ⟨topLeft, bottomLeft, topRight, bottomRight⟩ := source_corners short
  obtain ⟨leftFirst, rightFirst⟩ := source_columns short le_rfl some
  obtain ⟨leftLast, rightLast⟩ := source_columns short some le_rfl
  rw [Nat.add_sub_cancel_left] at leftLast rightLast
  -- a corner shows what its neighbour along the other edge shows
  rcases Nat.eq_zero_or_pos row with rfl | first
  · rw [Nat.sub_zero]
    constructor
    · rw [shows _ _ _ _ topLeft, shows _ _ _ _ (source_swap rightFirst), Nat.add_sub_cancel]
    · rw [shows _ _ _ _ topRight, shows _ _ _ _ (source_swap rightLast)]
  rcases below.eq_or_lt with rfl | most
  · rw [Nat.sub_self]
    constructor
    · rw [shows _ _ _ _ bottomLeft, shows _ _ _ _ (source_swap leftFirst), Nat.add_sub_cancel]
    · rw [shows _ _ _ _ bottomRight, shows _ _ _ _ (source_swap leftLast)]
  · obtain ⟨left, right⟩ := source_columns short first (Nat.le_of_lt_succ most)
    exact ⟨shows _ _ _ _ left, shows _ _ _ _ right⟩

end Folding

end Border

section Folds

variable {tile : Nat → Nat → Vec4 ℝ} {resolution k m : Nat} {b : ℝ}

theorem bilinear_of_folded (folded : ∀ row ≤ m, tile k row = tile (k + 1) (m - row)) (low : 0 ≤ b)
    (high : b < m) : bilinear tile (k + 1 / 2) (m - b) = bilinear tile (k + 1 / 2) b := by
  have halfway : ∀ row, interpolate (fun column => tile column row) (k + 1 / 2) =
      Vec4.mix (1 / 2) (tile k row) (tile (k + 1) row) := by
    intro row
    rw [interpolate_eq (k := k) (by linarith) (by linarith), add_sub_cancel_left]
  rw [bilinear, interpolate_mirror low high, bilinear]
  apply interpolate_congr low high
  intro row below
  have back := folded (m - row) (Nat.sub_le ..)
  rw [Nat.sub_sub_self below] at back
  rw [halfway, halfway, folded row below, back, ← Vec4.mix_swap (1 / 2) (tile (k + 1) (m - row))]
  norm_num

theorem tileCoord_one (resolution : Nat) :
    Volume.tileCoord resolution 1 = resolution + 1 / 2 := by
  rw [Volume.tileCoord]
  ring

theorem tileCoord_neg_one (resolution : Nat) :
    Volume.tileCoord resolution (-1) = (0 : Nat) + 1 / 2 := by
  rw [Volume.tileCoord]
  ring_nf

theorem tileCoord_neg (resolution : Nat) (a : ℝ) : Volume.tileCoord resolution (-a) =
    (resolution + 1 : Nat) - Volume.tileCoord resolution a := by
  rw [Volume.tileCoord, Volume.tileCoord]
  push_cast
  ring

theorem bilinear_neg (shows : Border.ShowsSources resolution tile)
    (short : resolution + 1 < 4294967296) (some : 0 < resolution) {side v : ℝ}
    (edge : side = 1 ∨ side = -1) (inside : |v| ≤ 1) :
    bilinear tile (Volume.tileCoord resolution side) (Volume.tileCoord resolution v) =
      bilinear tile (Volume.tileCoord resolution side) (Volume.tileCoord resolution (-v)) := by
  obtain ⟨low, high⟩ := Volume.tileCoord_inside resolution inside
  rw [tileCoord_neg]
  rcases edge with rfl | rfl
  · rw [tileCoord_one]
    refine (bilinear_of_folded ?_ low high).symm
    intro row below
    have turned := (shows.folded short some (Nat.sub_le (resolution + 1) row)).2
    rw [Nat.sub_sub_self below] at turned
    exact turned.symm
  · rw [tileCoord_neg_one]
    refine (bilinear_of_folded ?_ low high).symm
    intro row below
    exact (shows.folded short some below).1

theorem isSeamless_bilinear (shows : Border.ShowsSources resolution tile)
    (short : resolution + 1 < 4294967296) (some : 0 < resolution) :
    Octahedral.IsSeamless fun coords => bilinear tile (Volume.tileCoord resolution coords.x)
      (Volume.tileCoord resolution coords.y) := by
  have along : ∀ u side : ℝ, side = 1 ∨ side = -1 → |u| ≤ 1 →
      bilinear tile (Volume.tileCoord resolution u) (Volume.tileCoord resolution side) =
        bilinear tile (Volume.tileCoord resolution (-u)) (Volume.tileCoord resolution side) := by
    intro u side edge inside
    rw [bilinear_comm, bilinear_comm tile]
    exact bilinear_neg shows.swap short some edge inside
  constructor
  case top => exact fun u inside => along u 1 (.inl rfl) inside
  case bottom => exact fun u inside => along u (-1) (.inr rfl) inside
  case right => exact fun v inside => bilinear_neg shows short some (.inl rfl) inside
  case left => exact fun v inside => bilinear_neg shows short some (.inr rfl) inside

end Folds

namespace Texels

variable {β : Type}

/-- Where the first of the four texels is that the filter reads around a point. -/
def firstTexel {α : Type} [Scalar α] (pos : Vec2 α) : Vec2 Int :=
  ((pos.shiftDown 0.5).map floor).map toInt

/-- The texels of a footprint by the column and the row that they are in. -/
def Footprint.texel (s : Footprint β) : Bool → Bool → β
  | false, false => s.topLeft
  | true, false => s.topRight
  | false, true => s.bottomLeft
  | true, true => s.bottomRight

def Footprint.place (corner : Vec2 Nat) (right below : Bool) : Vec2 Nat :=
  ⟨corner.x + right.toNat, corner.y + below.toNat⟩

end Texels

/-- After the border passes, every texel of a border shows what is in the inner texel next to it, on the
other side of the edge. -/
theorem Border.Fills.shows {pass : BorderPass} {columns tile : Nat} {texel src : Vec2 Nat}
    {β : Type} {atlas after : Texels β} (fills : Fills pass columns atlas after)
    (listed : tile < pass.tilesCount) (found : source texel pass.resolution = .ok (some src)) :
    after.data[elementOf pass.resolution columns tile texel]? =
      after.data[elementOf pass.resolution columns tile src]? := by
  obtain ⟨within, edge⟩ := source_eq_some found
  have border : IsBorder pass.resolution texel := by
    refine ⟨within, ?_⟩
    rw [IsInner]
    omega
  rcases fills.copies tile listed texel border with ⟨own, source, inner, copied⟩
  obtain rfl := Option.some.inj (Except.ok.inj (source.symm.trans found))
  exact copied.trans (fills.inner tile listed own inner).symm

namespace Volume

variable {β : Type} {v : Volume ℝ} {cascade slot resolution : Nat}

/-- For given coordinates, the filter reads four texels of a slot's own tile, border included, and none
of them is moved to an edge of the atlas. -/
def StaysInTile (v : Volume ℝ) (t : Texels β) (cascade slot resolution : Nat) (coords : Vec2 ℝ) :
    Prop :=
  ∃ uv s frac corner, v.atlasPosition cascade slot coords resolution = .ok uv ∧
    t.gather uv = .ok (s, frac) ∧ Texels.firstTexel uv = corner.map Int.ofNat ∧
    ∀ right below : Bool, ∃ pos : Vec2 Nat, pos = Texels.Footprint.place corner right below ∧
      v.grid.InTile resolution cascade slot pos ∧ (pos.x < t.size.x ∧ pos.y < t.size.y) ∧
      t.readClamped (pos.map Int.ofNat) = t.read pos ∧ t.read pos = .ok (s.texel right below)

/-- The tile of a slot has one value for each direction, and shows nothing of other tiles. -/
structure IsSewn (v : Volume ℝ) (t : Texels (Vec4 ℝ)) (cascade slot resolution : Nat) : Prop where
  stays : ∀ coords : Vec2 ℝ, |coords.x| ≤ 1 → |coords.y| ≤ 1 →
    v.StaysInTile t cascade slot resolution coords
  ends : ∀ coords : Vec2 ℝ, |coords.x| ≤ 1 → |coords.y| ≤ 1 →
    ∃ value, v.lookUp t cascade slot resolution coords = .ok value
  seamless : Octahedral.IsSeamless (v.lookUp t cascade slot resolution)
  single : ∀ coords coords' : Vec2 ℝ, |coords.x| ≤ 1 → |coords.y| ≤ 1 → |coords'.x| ≤ 1 →
    |coords'.y| ≤ 1 → Octahedral.decode coords = Octahedral.decode coords' →
    v.lookUp t cascade slot resolution coords = v.lookUp t cascade slot resolution coords'

section Tile

variable {t : Texels (Vec4 ℝ)} {origin : Vec2 Nat} (atlas : t.IsAtlas v.grid resolution)
  (present : cascade < v.grid.cascades) (inside : slot < v.grid.size) (some : 0 < resolution)
  (found : v.grid.tileOrigin cascade slot resolution = .ok origin)

include atlas present inside some found

theorem staysInTile {coords : Vec2 ℝ} (x : |coords.x| ≤ 1) (y : |coords.y| ≤ 1) :
    v.StaysInTile t cascade slot resolution coords := by
  rcases gather_of_tile atlas present inside some found x y with ⟨uv, s, placed, gathered, cell⟩
  obtain rfl := Except.ok.inj ((atlasPosition_eq found coords).symm.trans placed)
  obtain ⟨left, above⟩ := tileCell_le resolution x y
  set corner := tileCell resolution coords with cornerAt
  obtain ⟨right, bottom⟩ := atlas.tile_lt present inside found (Nat.le_succ_of_le left)
    (Nat.le_succ_of_le above)
  obtain ⟨⟨-, shortX⟩, -, shortY⟩ := atlas.short present inside some
  refine ⟨_, s, _, ⟨origin.x + corner.x, origin.y + corner.y⟩, placed, gathered, ?_, ?_⟩
  · have axis : ∀ (low : Nat) {a : ℝ}, |a| ≤ 1 → low + ⌊tileCoord resolution a⌋₊ < 2147483648 →
        toInt (⌊low + tileCoord resolution a + 1 / 2 - 1 / 2⌋ : ℝ) =
          (low + ⌊tileCoord resolution a⌋₊ : Nat) := by
      intro low a inside small
      rw [floor_tileCoord resolution low inside]
      exact toInt_ofInt_real (by omega) (by omega)
    simp only [Texels.firstTexel, Vec2.map, Vec2.shiftDown_eq, real_half, floor_real, Vec2.mk.injEq]
    exact ⟨axis origin.x x (right.trans shortX), axis origin.y y (bottom.trans shortY)⟩
  · intro right below
    have near : right.toNat ≤ 1 ∧ below.toNat ≤ 1 := ⟨right.toNat_le, below.toNat_le⟩
    have within := atlas.tile_lt present inside found (show corner.x + right.toNat ≤ _ by omega)
      (show corner.y + below.toNat ≤ _ by omega)
    refine ⟨⟨origin.x + (corner.x + right.toNat), origin.y + (corner.y + below.toNat)⟩, ?_, ?_, within,
      ?_, ?_⟩
    · rw [Texels.Footprint.place, Nat.add_assoc, Nat.add_assoc]
    · refine ⟨origin, found, ?_⟩
      dsimp only
      omega
    · exact atlas.readClamped_tile present inside some found (by omega) (by omega)
    · cases right <;> cases below
      · exact cell.topLeft
      · exact cell.bottomLeft
      · exact cell.topRight
      · exact cell.bottomRight

theorem isSewn_of_shows (short : resolution + 1 < 4294967296)
    (shows : Border.ShowsSources resolution (t.held origin)) :
    v.IsSewn t cascade slot resolution := by
  have values : Octahedral.IsSeamless (v.lookUp t cascade slot resolution) := by
    refine ((isSeamless_bilinear shows short some).comp Except.ok).congr ?_
    exact fun coords x y => lookUp_eq atlas present inside some found x y
  constructor
  case stays => exact fun coords x y => staysInTile atlas present inside some found x y
  case ends => exact fun coords x y => ⟨_, lookUp_eq atlas present inside some found x y⟩
  case seamless => exact values
  case single => exact fun coords coords' x y x' y' same => values.eq_of_decode x y x' y' same

end Tile

theorem held_eq {g : Grid} {t : Texels (Vec4 ℝ)} {origin : Vec2 Nat} (atlas : t.IsAtlas g resolution)
    (inside : slot < g.size) (found : g.tileOrigin cascade slot resolution = .ok origin)
    (column row : Nat) : t.held origin column row =
      t.data[Border.elementOf resolution g.counts.x (cascade * g.size + slot)
        ⟨column, row⟩]?.getD .zero := by
  obtain rfl := Grid.tileOrigin_eq_ok found
  obtain ⟨rows, columns⟩ := Grid.number_div cascade slot (Grid.counts_pos_of_lt_size inside).1
  obtain ⟨sides, -⟩ := Grid.atlasSize_eq_ok.mp atlas.sized
  rw [Texels.held, Border.elementOf, rows, columns, sides]

/-- Once the threads of both border passes have run, in whatever order, the filter stays in the tile of
the probe that it is asked for, and finds one value for each direction. -/
theorem sewn_after_borders (v : Volume ℝ) (resolution : Nat) (calls : List Border.Call)
    (atlas : Texels (Vec4 ℝ)) (some : 1 ≤ resolution) (sized : atlas.IsAtlas v.grid resolution)
    (dispatch : Border.IsDispatch ⟨resolution, v.grid.size * v.grid.cascades⟩ calls) :
    ∃ after, Border.runCalls ⟨resolution, v.grid.size * v.grid.cascades⟩ calls atlas = .ok after ∧
      ∀ cascade < v.grid.cascades, ∀ slot < v.grid.size, v.IsSewn after cascade slot resolution := by
  have covers : Border.Covers ⟨resolution, v.grid.size * v.grid.cascades⟩ v.grid.counts.x
      (v.grid.counts.y * v.grid.counts.z * v.grid.cascades) atlas.size :=
    Border.covers_of_grid some sized.sized sized.words le_rfl
  have short : resolution + 2 < 4294967296 := covers.short
  obtain ⟨after, ran⟩ := Border.runCalls_ends covers (covers.isTiled rfl sized.full) calls
  have fills := Border.fills_of_runCalls covers rfl sized.full dispatch ran
  have resized : after.IsAtlas v.grid resolution := by
    constructor
    case sized => rw [fills.size, sized.sized]
    case full => rw [fills.size, fills.length, sized.full]
    case words => rw [fills.size]; exact sized.words
  refine ⟨after, ran, fun cascade present slot inside => ?_⟩
  have found := Grid.tileOrigin_of_lt resized.sized present inside
  apply isSewn_of_shows resized present inside some found (by omega)
  intro x y sx sy source
  have listed : cascade * v.grid.size + slot < v.grid.size * v.grid.cascades := by
    calc
      cascade * v.grid.size + slot < (cascade + 1) * v.grid.size := by
        rw [Nat.succ_mul]
        exact Nat.add_lt_add_left inside _
      _ ≤ v.grid.cascades * v.grid.size := Nat.mul_le_mul_right _ present
      _ = v.grid.size * v.grid.cascades := Nat.mul_comm ..
  have shown := fills.shows listed source
  rw [held_eq resized inside found, held_eq resized inside found, shown]

noncomputable def twins : Volume ℝ := { DistanceThread.lantern with grid := ⟨⟨2, 1, 1⟩, 1⟩ }

/-- Tiles of two by two texels that are all different, with nothing in their borders yet. -/
noncomputable def twinTexels : Texels (Vec4 ℝ) :=
  ⟨(Array.range 32).map fun i : Nat => ⟨(i : ℝ), 1, 0, 1⟩, ⟨8, 4⟩⟩

/-- The columns of each of the two tiles after the rows of the other one. -/
def twinCalls : List Border.Call :=
  [1, 0].flatMap fun tile => (Border.threads 4 2).map (.row tile) ++
    (Border.threads 2 2).map (.column (1 - tile))

theorem sewn_after_borders_twins :
    ∃ after, Border.runCalls ⟨2, 2⟩ twinCalls twinTexels = .ok after ∧ twins.IsSewn after 0 1 2 := by
  have dispatch : Border.IsDispatch ⟨2, 2⟩ twinCalls := by
    have rows : ∀ tile < 2, ∀ x < 4, ∀ y < 2, twinCalls.count (.row tile ⟨x, y⟩) = 1 := by decide
    have columns : ∀ tile < 2, ∀ x < 2, ∀ y < 2, twinCalls.count (.column tile ⟨x, y⟩) = 1 := by
      decide
    intro call works
    cases call with
    | row tile thread =>
        exact rows tile works.1 thread.x (Nat.lt_succ_of_le works.2.1) thread.y
          (Nat.lt_succ_of_le works.2.2)
    | column tile thread =>
        exact columns tile works.1 thread.x (Nat.lt_succ_of_le works.2.1) thread.y works.2.2
  have sized : twinTexels.IsAtlas twins.grid 2 := ⟨rfl, by simp [twinTexels], by decide⟩
  rcases sewn_after_borders twins 2 twinCalls twinTexels (by decide) sized dispatch
    with ⟨after, ran, sewn⟩
  exact ⟨after, ran, sewn 0 (by decide) 1 (by decide)⟩

end Volume

end IrradianceField
