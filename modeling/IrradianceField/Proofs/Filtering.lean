import IrradianceField.Scalar.Real
import IrradianceField.Proofs.Updating
import IrradianceField.Proofs.Unfolding
import IrradianceField.Radiance.Sky

/-!
Filtering: which texels the bilinear filter reads around a point, in exact arithmetic, and that it
finds what they have in common.
-/

namespace IrradianceField

open Scalar

namespace Vec4

variable {t r : ℝ} {u w : Vec4 ℝ}

noncomputable def mix (t : ℝ) (u w : Vec4 ℝ) : Vec4 ℝ := u.scale (1 - t) + w.scale t

theorem mix_eq (t : ℝ) (u w : Vec4 ℝ) : mix t u w = ⟨u.x * (1 - t) + w.x * t,
    u.y * (1 - t) + w.y * t, u.z * (1 - t) + w.z * t, u.w * (1 - t) + w.w * t⟩ := rfl

theorem mix_zero (u w : Vec4 ℝ) : mix 0 u w = u := by
  simp only [mix_eq, sub_zero, mul_one, mul_zero, add_zero]

theorem mix_one (u w : Vec4 ℝ) : mix 1 u w = w := by
  simp only [mix_eq, sub_self, mul_zero, mul_one, zero_add]

theorem mix_swap (t : ℝ) (u w : Vec4 ℝ) : mix (1 - t) w u = mix t u w := by
  simp only [mix_eq, sub_sub_cancel, add_comm]

theorem xyz_mix {colour : Vec3 ℝ} (first : u.xyz = colour) (second : w.xyz = colour) :
    (mix t u w).xyz = colour := by
  subst first
  obtain ⟨x, y, z⟩ := Vec3.mk.inj second
  simp only [mix_eq, xyz, x, y, z, ← mul_add, sub_add_cancel, mul_one]

theorem mix_mix (a b c d : Vec4 ℝ) :
    mix r (mix t a b) (mix t c d) = mix t (mix r a c) (mix r b d) := by
  simp only [mix_eq, Vec4.mk.injEq]
  refine ⟨?_, ?_, ?_, ?_⟩
  all_goals ring

end Vec4

namespace Volume

variable {v : Volume ℝ} {cascade slot resolution : Nat} {coords uv : Vec2 ℝ} {origin : Vec2 Nat}
  {a : ℝ}

/-- Where octahedral coordinates lie along an axis of a tile, counted in texels from the centre of the
first texel of the border. -/
noncomputable def tileCoord (resolution : Nat) (a : ℝ) : ℝ := (a / 2 + 1 / 2) * resolution + 1 / 2

theorem tileCoord_bounds (resolution : Nat) (inside : |a| ≤ 1) :
    1 / 2 ≤ tileCoord resolution a ∧ tileCoord resolution a ≤ resolution + 1 / 2 := by
  obtain ⟨low, high⟩ := abs_le.mp inside
  have first : 0 ≤ (a / 2 + 1 / 2) * resolution := mul_nonneg (by linarith) (Nat.cast_nonneg _)
  have last : (a / 2 + 1 / 2) * resolution ≤ resolution :=
    mul_le_of_le_one_left (Nat.cast_nonneg _) (by linarith)
  rw [tileCoord]
  constructor
  · linarith
  · linarith

theorem atlasPosition_eq (found : v.grid.tileOrigin cascade slot resolution = .ok origin)
    (coords : Vec2 ℝ) : v.atlasPosition cascade slot coords resolution =
      .ok ⟨origin.x + tileCoord resolution coords.x + 1 / 2,
        origin.y + tileCoord resolution coords.y + 1 / 2⟩ := by
  rw [atlasPosition, found, ok_bind, pure_eq_ok]
  simp only [Vec2.add_eq, Vec2.scale_eq, Vec2.shift_eq, Vec2.ofNat, Vec2.map, ofNat_real, real_one,
    real_half, tileCoord, Except.ok.injEq, Vec2.mk.injEq]
  constructor
  · ring
  · ring

theorem within_of_atlasPosition (found : v.grid.tileOrigin cascade slot resolution = .ok origin)
    (x : |coords.x| ≤ 1) (y : |coords.y| ≤ 1)
    (placed : v.atlasPosition cascade slot coords resolution = .ok uv) :
    (origin.x + 1 ≤ uv.x ∧ uv.x ≤ origin.x + 1 + resolution) ∧
      origin.y + 1 ≤ uv.y ∧ uv.y ≤ origin.y + 1 + resolution := by
  obtain rfl := Except.ok.inj ((atlasPosition_eq found coords).symm.trans placed)
  obtain ⟨left, right⟩ := tileCoord_bounds resolution x
  obtain ⟨top, bottom⟩ := tileCoord_bounds resolution y
  dsimp only
  constructor
  · constructor <;> linarith
  · constructor <;> linarith

end Volume

namespace Texels

section Clamping

variable {β : Type} {t : Texels β} {n : Nat} {p last : Int}

theorem clamped_eq {i : Nat} (inside : i < n) (small : n < 2147483648)
    (found : SignedWord.sub (Word.toSigned n) 1 = .ok last) :
    SignedWord.toWord (min (max (i : Int) 0) last) = i := by
  obtain ⟨same, -, -⟩ := SignedWord.sub_eq_ok.mp found
  rw [Word.toSigned_of_lt small] at same
  rw [SignedWord.toWord]
  omega

theorem clamped_of_long (long : 2147483648 ≤ n) (words : n < 4294967296)
    (found : SignedWord.sub (Word.toSigned n) 1 = .ok last) :
    SignedWord.toWord (min (max p 0) last) = n - 1 := by
  obtain ⟨same, -, -⟩ := SignedWord.sub_eq_ok.mp found
  rw [Word.toSigned_of_ge long words] at same
  rw [SignedWord.toWord]
  omega

theorem clamped_lt (positive : 0 < n) (words : n < 4294967296)
    (found : SignedWord.sub (Word.toSigned n) 1 = .ok last) :
    SignedWord.toWord (min (max p 0) last) < n := by
  by_cases short : n < 2147483648
  · obtain ⟨same, -, -⟩ := SignedWord.sub_eq_ok.mp found
    rw [Word.toSigned_of_lt short] at same
    rw [SignedWord.toWord]
    omega
  · rw [clamped_of_long (not_lt.mp short) words found]
    omega

theorem row_of_readClamped {pos : Vec2 Int} {value : β} (wide : 2 < t.size.x)
    (wordX : t.size.x < 4294967296) (wordY : t.size.y < 4294967296)
    (read : t.readClamped pos = .ok value) :
    t.size.y < 2147483648 ∧ ∀ row : Nat, pos.y = row → row < t.size.y →
      ∃ column < t.size.x, t.data[row * t.size.x + column]? = some value := by
  obtain ⟨last, ends, read⟩ := bind_eq_ok.mp read
  obtain ⟨lastX, lastY⟩ := Vec2.mapM_eq_ok.mp ends
  simp only [Texels.read, index, bind_eq_ok, Word.mul_eq_ok, Word.add_eq_ok, fetch_eq_ok, Vec2.map,
    Vec2.zipWith] at read
  obtain ⟨_, ⟨_, ⟨rfl, -⟩, rfl, below⟩, held⟩ := read
  have column := clamped_lt (p := pos.x) (by omega) wordX lastX
  have short : t.size.y < 2147483648 := by
    by_contra long
    rw [clamped_of_long (not_lt.mp long) wordY lastY] at below
    have rows : (2147483648 - 1) * 3 ≤ (t.size.y - 1) * t.size.x :=
      Nat.mul_le_mul (Nat.sub_le_sub_right (not_lt.mp long) 1) wide
    omega
  refine ⟨short, fun row same inside => ⟨_, column, ?_⟩⟩
  rw [same, clamped_eq inside short lastY] at held
  exact held

theorem last_of_lt (short : n < 2147483648) :
    SignedWord.sub (Word.toSigned n) 1 = .ok ((n : Int) - 1) := by
  rw [Word.toSigned_of_lt short]
  exact SignedWord.sub_eq_ok.mpr ⟨rfl, by omega, by omega⟩

theorem readClamped_eq (shortX : t.size.x < 2147483648) (shortY : t.size.y < 2147483648)
    (pos : Vec2 Int) : t.readClamped pos =
      t.read ⟨SignedWord.toWord (min (max pos.x 0) ((t.size.x : Int) - 1)),
        SignedWord.toWord (min (max pos.y 0) ((t.size.y : Int) - 1))⟩ := by
  have ends : t.size.mapM (fun n => SignedWord.sub (Word.toSigned n) 1) =
      .ok ⟨(t.size.x : Int) - 1, (t.size.y : Int) - 1⟩ :=
    Vec2.mapM_eq_ok.mpr ⟨last_of_lt shortX, last_of_lt shortY⟩
  rw [readClamped, ends, ok_bind]
  rfl

theorem readClamped_ends (full : t.data.size = t.size.x * t.size.y) (x : 0 < t.size.x)
    (y : 0 < t.size.y) (shortX : t.size.x < 2147483648) (shortY : t.size.y < 2147483648)
    (words : t.size.x * t.size.y ≤ 4294967296) (pos : Vec2 Int) :
    ∃ value, t.readClamped pos = .ok value := by
  obtain ⟨indexed, inside⟩ := @index_of_lt t.size ⟨_, _⟩
    (clamped_lt (p := pos.x) x (by omega) (last_of_lt shortX))
    (clamped_lt (p := pos.y) y (by omega) (last_of_lt shortY)) words
  obtain ⟨value, held⟩ := fetch_of_lt (full ▸ inside)
  refine ⟨value, ?_⟩
  rw [readClamped_eq shortX shortY]
  exact bind_eq_ok.mpr ⟨_, indexed, held⟩

theorem readClamped_of_lt {at' : Vec2 Nat} (left : at'.x < t.size.x) (above : at'.y < t.size.y)
    (shortX : t.size.x < 2147483648) (shortY : t.size.y < 2147483648) :
    t.readClamped ⟨at'.x, at'.y⟩ = t.read at' := by
  rw [readClamped_eq shortX shortY, clamped_eq left shortX (last_of_lt shortX),
    clamped_eq above shortY (last_of_lt shortY)]

end Clamping

section Filtering

variable {β : Type} {t : Texels β} {s : Footprint β} {pos frac : Vec2 ℝ} {low n : Nat}

structure Footprint.All (P : β → Prop) (s : Footprint β) : Prop where
  topLeft : P s.topLeft
  topRight : P s.topRight
  bottomLeft : P s.bottomLeft
  bottomRight : P s.bottomRight

theorem cell_of_within {a : ℝ} (above : low + 1 ≤ a) (below : a ≤ low + 1 + n) :
    ∃ cell : Nat, low ≤ cell ∧ cell ≤ low + n ∧ ⌊a - 1 / 2⌋ = cell := by
  have first : (low : Int) ≤ ⌊a - 1 / 2⌋ := by
    apply Int.le_floor.mpr
    push_cast
    linarith
  have last : ⌊a - 1 / 2⌋ < low + n + 1 := by
    apply Int.floor_lt.mpr
    push_cast
    linarith
  refine ⟨⌊a - 1 / 2⌋.toNat, by omega, by omega, ?_⟩
  rw [Int.toNat_of_nonneg (by omega)]

theorem frac_of_gather (ran : t.gather pos = .ok (s, frac)) :
    (0 ≤ frac.x ∧ frac.x ≤ 1) ∧ 0 ≤ frac.y ∧ frac.y ≤ 1 := by
  have part : ∀ a : ℝ, 0 ≤ a - ⌊a⌋ ∧ a - ⌊a⌋ ≤ 1 :=
    fun a => ⟨Int.fract_nonneg a, (Int.fract_lt_one a).le⟩
  simp only [gather, bind_eq_ok, pure_eq_ok, Except.ok.injEq, Prod.mk.injEq] at ran
  obtain ⟨_, -, _, -, _, -, _, -, _, -, _, -, _, -, -, rfl⟩ := ran
  exact ⟨part _, part _⟩

theorem rows_of_gather (wide : 2 < t.size.x) (wordX : t.size.x < 4294967296)
    (wordY : t.size.y < 4294967296) (above : low + 1 ≤ pos.y) (below : pos.y ≤ low + 1 + n)
    (fits : low + (n + 2) ≤ t.size.y) (ran : t.gather pos = .ok (s, frac)) :
    s.All fun value => ∃ row ≤ n + 1, ∃ column < t.size.x,
      t.data[(low + row) * t.size.x + column]? = some value := by
  obtain ⟨cell, least, most, found⟩ := cell_of_within above below
  simp only [gather, neighbour, bind_eq_ok, Vec2.zipWithM_eq_ok, SignedWord.add_eq_ok, Vec2.map,
    Vec2.shiftDown_eq, real_half, floor_real, found, pure_eq_ok, Except.ok.injEq,
    Prod.mk.injEq] at ran
  obtain ⟨_, topLeft, _, ⟨-, right, -⟩, _, topRight, _, ⟨-, down, -⟩, _, bottomLeft, _,
    ⟨-, across, -⟩, _, bottomRight, rfl, -⟩ := ran
  have short := (row_of_readClamped wide wordX wordY topLeft).1
  have whole : toInt ((cell : Int) : ℝ) = cell := toInt_ofInt_real (by omega) (by omega)
  rw [whole] at topLeft right down across
  have row : ∀ {at' : Vec2 Int} {value : β} (offset : Nat), t.readClamped at' = .ok value →
      at'.y = ((cell + offset : Nat) : Int) → offset ≤ 1 →
      ∃ row ≤ n + 1, ∃ column < t.size.x, t.data[(low + row) * t.size.x + column]? = some value := by
    intro at' value offset read same near
    obtain ⟨column, inside, held⟩ :=
      (row_of_readClamped wide wordX wordY read).2 _ same (by omega)
    refine ⟨cell + offset - low, by omega, column, inside, ?_⟩
    rw [← held, Nat.add_sub_cancel' (by omega)]
  exact ⟨row 0 topLeft rfl (by omega), row 0 topRight right (by omega),
    row 1 bottomLeft down (by omega), row 1 bottomRight across (by omega)⟩

structure Footprint.IsAt (t : Texels β) (column row : Int) (s : Footprint β) : Prop where
  topLeft : t.readClamped ⟨column, row⟩ = .ok s.topLeft
  topRight : t.readClamped ⟨column + 1, row⟩ = .ok s.topRight
  bottomLeft : t.readClamped ⟨column, row + 1⟩ = .ok s.bottomLeft
  bottomRight : t.readClamped ⟨column + 1, row + 1⟩ = .ok s.bottomRight

theorem Footprint.IsAt.all {column row : Int} {P : β → Prop} (corners : s.IsAt t column row)
    (each : ∀ at' texel, t.readClamped at' = .ok texel → P texel) : s.All P :=
  ⟨each _ _ corners.topLeft, each _ _ corners.topRight, each _ _ corners.bottomLeft,
    each _ _ corners.bottomRight⟩

theorem neighbour_of_step {corner : Vec2 Int} (x : -2147483648 ≤ corner.x ∧ corner.x < 2147483647)
    (y : -2147483648 ≤ corner.y ∧ corner.y < 2147483647) (dx dy : Int) (stepX : 0 ≤ dx ∧ dx ≤ 1)
    (stepY : 0 ≤ dy ∧ dy ≤ 1) : neighbour corner ⟨dx, dy⟩ = .ok ⟨corner.x + dx, corner.y + dy⟩ := by
  have column : SignedWord.add corner.x dx = .ok (corner.x + dx) :=
    SignedWord.add_eq_ok.mpr ⟨rfl, by omega, by omega⟩
  have row : SignedWord.add corner.y dy = .ok (corner.y + dy) :=
    SignedWord.add_eq_ok.mpr ⟨rfl, by omega, by omega⟩
  exact Vec2.zipWithM_eq_ok.mpr ⟨column, row⟩

theorem gather_of_floor {column row : Int}
    (reads : ∀ at' : Vec2 Int, ∃ value, t.readClamped at' = .ok value)
    (foundX : ⌊pos.x - 1 / 2⌋ = column) (foundY : ⌊pos.y - 1 / 2⌋ = row)
    (lowX : -2147483648 ≤ column) (highX : column + 1 < 2147483648) (lowY : -2147483648 ≤ row)
    (highY : row + 1 < 2147483648) :
    ∃ s, t.gather pos = .ok (s, ⟨pos.x - 1 / 2 - column, pos.y - 1 / 2 - row⟩) ∧
      s.IsAt t column row := by
  have wholeX : toInt (column : ℝ) = column := toInt_ofInt_real lowX (by omega)
  have wholeY : toInt (row : ℝ) = row := toInt_ofInt_real lowY (by omega)
  have moves := @neighbour_of_step ⟨column, row⟩ ⟨lowX, by dsimp only; omega⟩
    ⟨lowY, by dsimp only; omega⟩
  have right := moves 1 0 (by decide) (by decide)
  have down := moves 0 1 (by decide) (by decide)
  have across := moves 1 1 (by decide) (by decide)
  rw [Int.add_zero] at right down
  rcases reads ⟨column, row⟩ with ⟨a, topLeft⟩
  rcases reads ⟨column + 1, row⟩ with ⟨b, topRight⟩
  rcases reads ⟨column, row + 1⟩ with ⟨c, bottomLeft⟩
  rcases reads ⟨column + 1, row + 1⟩ with ⟨d, bottomRight⟩
  simp only [gather, Vec2.map, Vec2.shiftDown_eq, real_half, floor_real, foundX, foundY, wholeX,
    wholeY]
  rw [topLeft, right, down, across, ok_bind, ok_bind, topRight, ok_bind, ok_bind, bottomLeft, ok_bind,
    ok_bind, bottomRight, ok_bind]
  exact ⟨⟨a, b, c, d⟩, rfl, topLeft, topRight, bottomLeft, bottomRight⟩

theorem sampleBilinear_eq {t : Texels (Vec4 ℝ)} {s : Footprint (Vec4 ℝ)}
    (gathered : t.gather pos = .ok (s, frac)) :
    t.sampleBilinear pos = .ok (Vec4.mix frac.y (Vec4.mix frac.x s.topLeft s.topRight)
      (Vec4.mix frac.x s.bottomLeft s.bottomRight)) := by
  rw [sampleBilinear, gathered]
  simp only [ok_bind, pure_eq_ok, bilinearWeights, Vec4.mix_eq, Vec4.add_eq, Vec4.scale_eq, real_one,
    Except.ok.injEq, Vec4.mk.injEq]
  refine ⟨?_, ?_, ?_, ?_⟩
  all_goals ring

theorem sampleBilinear_of_center {t : Texels (Vec4 ℝ)} {column row : Nat}
    (reads : ∀ at' : Vec2 Int, ∃ value, t.readClamped at' = .ok value)
    (centerX : pos.x = column + 1 / 2) (centerY : pos.y = row + 1 / 2)
    (shortX : column + 1 < 2147483648) (shortY : row + 1 < 2147483648) :
    t.sampleBilinear pos = t.readClamped ⟨column, row⟩ := by
  have x : pos.x - 1 / 2 = column := by rw [centerX, add_sub_cancel_right]
  have y : pos.y - 1 / 2 = row := by rw [centerY, add_sub_cancel_right]
  have foundX : ⌊pos.x - 1 / 2⌋ = column := by rw [x, Int.floor_natCast]
  have foundY : ⌊pos.y - 1 / 2⌋ = row := by rw [y, Int.floor_natCast]
  rcases gather_of_floor reads foundX foundY (by omega) (by omega) (by omega) (by omega)
    with ⟨s, gathered, corners⟩
  rw [sampleBilinear_eq gathered, corners.topLeft, x, y, Int.cast_natCast, Int.cast_natCast, sub_self,
    sub_self, Vec4.mix_zero, Vec4.mix_zero]

theorem sampleBilinear_of_gather {t : Texels (Vec4 ℝ)} {s : Footprint (Vec4 ℝ)} {colour : Vec3 ℝ}
    (gathered : t.gather pos = .ok (s, frac)) (same : s.All fun texel => texel.xyz = colour) :
    ∃ value, t.sampleBilinear pos = .ok value ∧ value.xyz = colour := by
  refine ⟨_, sampleBilinear_eq gathered, ?_⟩
  rw [Vec4.xyz_mix (Vec4.xyz_mix same.topLeft same.topRight)
    (Vec4.xyz_mix same.bottomLeft same.bottomRight)]

end Filtering

end Texels

/-- An atlas that has a tile for each slot of a grid, and whose texels have words for places. -/
structure Texels.IsAtlas {β : Type} (g : Grid) (resolution : Nat) (t : Texels β) : Prop where
  sized : g.atlasSize resolution = .ok t.size
  full : t.data.size = t.size.x * t.size.y
  words : t.size.x * t.size.y ≤ 4294967296

namespace Texels.IsAtlas

variable {β : Type} {g : Grid} {t : Texels β} {cascade slot resolution column row : Nat}
  {origin : Vec2 Nat} (atlas : t.IsAtlas g resolution) (present : cascade < g.cascades)
  (inside : slot < g.size)

include atlas present inside

theorem tile_lt (found : g.tileOrigin cascade slot resolution = .ok origin)
    (left : column ≤ resolution + 1) (above : row ≤ resolution + 1) :
    origin.x + column < t.size.x ∧ origin.y + row < t.size.y := by
  obtain ⟨x, y⟩ := Grid.tile_within atlas.sized present inside
  rw [Grid.tileOrigin_eq_ok found]
  rw [Nat.succ_mul] at x y
  dsimp only
  omega

variable (some : 0 < resolution)

include some

theorem short : (0 < t.size.x ∧ t.size.x < 2147483648) ∧ 0 < t.size.y ∧ t.size.y < 2147483648 := by
  have words := atlas.words
  obtain ⟨x, y⟩ := Grid.tile_within atlas.sized present inside
  rw [Nat.succ_mul] at x y
  have wide : 3 * t.size.y ≤ t.size.x * t.size.y := Nat.mul_le_mul_right _ (by omega)
  have high : t.size.x * 3 ≤ t.size.x * t.size.y := Nat.mul_le_mul_left _ (by omega)
  omega

theorem reads (at' : Vec2 Int) : ∃ value, t.readClamped at' = .ok value := by
  obtain ⟨⟨positiveX, shortX⟩, positiveY, shortY⟩ := atlas.short present inside some
  exact readClamped_ends atlas.full positiveX positiveY shortX shortY atlas.words at'

theorem readClamped_tile (found : g.tileOrigin cascade slot resolution = .ok origin)
    (left : column ≤ resolution + 1) (above : row ≤ resolution + 1) :
    t.readClamped ⟨(origin.x + column : Nat), (origin.y + row : Nat)⟩ =
      t.read ⟨origin.x + column, origin.y + row⟩ := by
  obtain ⟨⟨-, shortX⟩, -, shortY⟩ := atlas.short present inside some
  obtain ⟨x, y⟩ := atlas.tile_lt present inside found left above
  exact @readClamped_of_lt _ t ⟨_, _⟩ x y shortX shortY

theorem read_tile (found : g.tileOrigin cascade slot resolution = .ok origin)
    (left : column ≤ resolution + 1) (above : row ≤ resolution + 1) :
    ∃ value, t.read ⟨origin.x + column, origin.y + row⟩ = .ok value := by
  rcases atlas.reads present inside some ⟨(origin.x + column : Nat), (origin.y + row : Nat)⟩
    with ⟨value, read⟩
  rw [atlas.readClamped_tile present inside some found left above] at read
  exact ⟨value, read⟩

end Texels.IsAtlas

/-- Four texels of a tile, from one of them on, each read from where it is. -/
structure Texels.Footprint.IsCell {β : Type} (t : Texels β) (origin corner : Vec2 Nat)
    (s : Footprint β) : Prop where
  topLeft : t.read ⟨origin.x + corner.x, origin.y + corner.y⟩ = .ok s.topLeft
  topRight : t.read ⟨origin.x + (corner.x + 1), origin.y + corner.y⟩ = .ok s.topRight
  bottomLeft : t.read ⟨origin.x + corner.x, origin.y + (corner.y + 1)⟩ = .ok s.bottomLeft
  bottomRight : t.read ⟨origin.x + (corner.x + 1), origin.y + (corner.y + 1)⟩ = .ok s.bottomRight

theorem Texels.Footprint.IsCell.all {β : Type} {t : Texels β} {origin corner : Vec2 Nat}
    {s : Footprint β} {P : β → Prop} (cell : s.IsCell t origin corner)
    (each : ∀ (at' : Vec2 Nat) texel, at'.x ≤ corner.x + 1 → at'.y ≤ corner.y + 1 →
      t.read ⟨origin.x + at'.x, origin.y + at'.y⟩ = .ok texel → P texel) : s.All P := by
  constructor
  case topLeft => exact each corner _ (Nat.le_succ _) (Nat.le_succ _) cell.topLeft
  case topRight =>
    exact each ⟨corner.x + 1, corner.y⟩ _ le_rfl (Nat.le_succ _) cell.topRight
  case bottomLeft =>
    exact each ⟨corner.x, corner.y + 1⟩ _ (Nat.le_succ _) le_rfl cell.bottomLeft
  case bottomRight =>
    exact each ⟨corner.x + 1, corner.y + 1⟩ _ le_rfl le_rfl cell.bottomRight

namespace Volume

variable {β : Type} {v : Volume ℝ} {t : Texels β} {cascade slot resolution : Nat} {coords : Vec2 ℝ}
  {origin : Vec2 Nat}

/-- The texel of a tile that the filter reads first for given coordinates, border included. -/
noncomputable def tileCell (resolution : Nat) (coords : Vec2 ℝ) : Vec2 Nat :=
  ⟨⌊tileCoord resolution coords.x⌋₊, ⌊tileCoord resolution coords.y⌋₊⟩

theorem tileCell_le (resolution : Nat) (x : |coords.x| ≤ 1) (y : |coords.y| ≤ 1) :
    (tileCell resolution coords).x ≤ resolution ∧ (tileCell resolution coords).y ≤ resolution := by
  have axis : ∀ {a : ℝ}, |a| ≤ 1 → ⌊tileCoord resolution a⌋₊ ≤ resolution := by
    intro a inside
    obtain ⟨low, high⟩ := tileCoord_bounds resolution inside
    apply Nat.le_of_lt_succ
    rw [Nat.floor_lt (by linarith)]
    push_cast
    linarith
  exact ⟨axis x, axis y⟩

theorem floor_tileCoord (resolution low : Nat) {a : ℝ} (inside : |a| ≤ 1) :
    ⌊low + tileCoord resolution a + 1 / 2 - 1 / 2⌋ = (low + ⌊tileCoord resolution a⌋₊ : Nat) := by
  have nonneg : 0 ≤ tileCoord resolution a :=
    (by norm_num : (0 : ℝ) ≤ 1 / 2).trans (tileCoord_bounds resolution inside).1
  rw [add_sub_cancel_right, Int.floor_natCast_add, Nat.cast_add, Int.natCast_floor_eq_floor nonneg]

theorem gather_of_tile (atlas : t.IsAtlas v.grid resolution) (present : cascade < v.grid.cascades)
    (inside : slot < v.grid.size) (some : 0 < resolution)
    (found : v.grid.tileOrigin cascade slot resolution = .ok origin) (x : |coords.x| ≤ 1)
    (y : |coords.y| ≤ 1) :
    ∃ uv s, v.atlasPosition cascade slot coords resolution = .ok uv ∧
      t.gather uv = .ok (s, ⟨tileCoord resolution coords.x - (tileCell resolution coords).x,
        tileCoord resolution coords.y - (tileCell resolution coords).y⟩) ∧
      s.IsCell t origin (tileCell resolution coords) := by
  obtain ⟨left, above⟩ := tileCell_le resolution x y
  obtain ⟨⟨-, shortX⟩, -, shortY⟩ := atlas.short present inside some
  obtain ⟨right, bottom⟩ := atlas.tile_lt present inside found (Nat.succ_le_succ left)
    (Nat.succ_le_succ above)
  dsimp only [tileCell] at right bottom
  rcases @Texels.gather_of_floor _ t ⟨_, _⟩ _ _ (atlas.reads present inside some)
    (floor_tileCoord resolution origin.x x) (floor_tileCoord resolution origin.y y) (by omega)
    (by omega) (by omega) (by omega) with ⟨s, gathered, corners⟩
  refine ⟨_, s, atlasPosition_eq found coords, ?_, ?_⟩
  · rw [gathered, tileCell]
    push_cast
    ring_nf
  · have own : ∀ dx ≤ 1, ∀ dy ≤ 1, t.readClamped ⟨(origin.x + ((tileCell resolution coords).x + dx) : Nat),
        (origin.y + ((tileCell resolution coords).y + dy) : Nat)⟩ = t.read ⟨_, _⟩ :=
      fun dx x dy y => atlas.readClamped_tile present inside some found (by omega) (by omega)
    constructor
    · exact (own 0 (by omega) 0 (by omega)).symm.trans corners.topLeft
    · exact (own 1 le_rfl 0 (by omega)).symm.trans corners.topRight
    · exact (own 0 (by omega) 1 le_rfl).symm.trans corners.bottomLeft
    · exact (own 1 le_rfl 1 le_rfl).symm.trans corners.bottomRight

end Volume

namespace Sky

structure IsUniform (map : Array (Vec4 ℝ)) (radiance : Vec3 ℝ) : Prop where
  size : map.size = size.x * size.y
  texels : ∀ (i : Nat) (texel : Vec4 ℝ), map[i]? = some texel → texel.xyz = radiance

theorem sample_of_isUniform {map : Array (Vec4 ℝ)} {radiance : Vec3 ℝ}
    (uniform : IsUniform map radiance) (dir : Vec3 ℝ) : sample map dir = .ok radiance := by
  have short : size.x < 2147483648 ∧ size.y < 2147483648 := by decide
  have some : 0 < size.x ∧ 0 < size.y := by decide
  have words : size.x * size.y ≤ 4294967296 := by decide
  have reads := @Texels.readClamped_ends _ ⟨map, size⟩ uniform.size some.1 some.2
    short.1 short.2 words
  obtain ⟨x, y⟩ := Octahedral.abs_encode_le dir
  have cell : ∀ {a : ℝ}, |a| ≤ 1 → ∃ cell : Int,
      ⌊(a * (1 / 2) + 1 / 2) * (resolution : ℝ) - 1 / 2⌋ = cell ∧ -1 ≤ cell ∧ cell ≤ 63 := by
    intro a inside
    obtain ⟨low, high⟩ := abs_le.mp inside
    have first : -1 ≤ (a * (1 / 2) + 1 / 2) * (resolution : ℝ) - 1 / 2 := by
      simp only [resolution]
      push_cast
      linarith
    have last : (a * (1 / 2) + 1 / 2) * (resolution : ℝ) - 1 / 2 < 64 := by
      simp only [resolution]
      push_cast
      linarith
    refine ⟨_, rfl, Int.le_floor.mpr (by exact_mod_cast first), ?_⟩
    exact Int.lt_add_one_iff.mp (Int.floor_lt.mpr (by exact_mod_cast last))
  obtain ⟨column, foundX, lowX, highX⟩ := cell x
  obtain ⟨row, foundY, lowY, highY⟩ := cell y
  have around := @Texels.gather_of_floor _ ⟨map, size⟩
    ((((Octahedral.encode dir).scale 0.5).shift 0.5).scale (ofNat resolution)) column row reads
    (by simpa only [Vec2.scale_eq, Vec2.shift_eq, real_half, ofNat_real] using foundX)
    (by simpa only [Vec2.scale_eq, Vec2.shift_eq, real_half, ofNat_real] using foundY)
    (by omega) (by omega) (by omega) (by omega)
  obtain ⟨s, gathered, corners⟩ := around
  obtain ⟨value, sampled, same⟩ := Texels.sampleBilinear_of_gather gathered
    (corners.all fun at' texel read => by
      rw [Texels.readClamped_eq short.1 short.2] at read
      obtain ⟨i, -, held⟩ := bind_eq_ok.mp read
      exact uniform.texels i texel (fetch_eq_ok.mp held))
  rw [sample, sampled, ok_bind, same, pure_eq_ok]

end Sky

end IrradianceField
