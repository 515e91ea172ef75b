import IrradianceField.Proofs.Filtering

/-!
Interpolating: what the bilinear filter makes of a tile, in exact arithmetic. It is a function of the
tile's own texels, along one axis after the other.
-/

namespace IrradianceField

open Scalar

section Lines

variable {line line' : Nat → Vec4 ℝ} {a : ℝ} {k m : Nat}

/-- The value of a line of texels at a place of it; whole numbers are their centres. -/
noncomputable def interpolate (line : Nat → Vec4 ℝ) (a : ℝ) : Vec4 ℝ :=
  Vec4.mix (a - ⌊a⌋₊) (line ⌊a⌋₊) (line (⌊a⌋₊ + 1))

theorem interpolate_eq (low : k ≤ a) (high : a ≤ k + 1) :
    interpolate line a = Vec4.mix (a - k) (line k) (line (k + 1)) := by
  rcases high.lt_or_eq with inside | rfl
  · have cell : ⌊a⌋₊ = k := (Nat.floor_eq_iff (k.cast_nonneg.trans low)).mpr ⟨low, inside⟩
    rw [interpolate, cell]
  · have cell : ⌊(k : ℝ) + 1⌋₊ = k + 1 := by exact_mod_cast Nat.floor_natCast (k + 1)
    rw [interpolate, cell, Nat.cast_succ, sub_self, add_sub_cancel_left, Vec4.mix_zero, Vec4.mix_one]

theorem interpolate_congr (low : 0 ≤ a) (high : a < m) (same : ∀ i ≤ m, line i = line' i) :
    interpolate line a = interpolate line' a := by
  have inside : ⌊a⌋₊ < m := (Nat.floor_lt low).mpr high
  rw [interpolate, interpolate, same _ inside.le, same _ inside]

theorem interpolate_mirror (low : 0 ≤ a) (high : a < m) :
    interpolate line (m - a) = interpolate (fun i => line (m - i)) a := by
  have inside : ⌊a⌋₊ < m := (Nat.floor_lt low).mpr high
  have first := Nat.floor_le low
  have next := Nat.lt_floor_add_one a
  have whole : ((m - 1 - ⌊a⌋₊ : Nat) : ℝ) = m - 1 - ⌊a⌋₊ := by
    rw [Nat.sub_sub, Nat.cast_sub (by omega)]
    push_cast
    ring
  have share : (m : ℝ) - a - (m - 1 - ⌊a⌋₊) = 1 - (a - ⌊a⌋₊) := by ring
  have last : m - 1 - ⌊a⌋₊ = m - (⌊a⌋₊ + 1) := by omega
  have before : m - (⌊a⌋₊ + 1) + 1 = m - ⌊a⌋₊ := by omega
  rw [interpolate_eq (k := m - 1 - ⌊a⌋₊) (by rw [whole]; linarith) (by rw [whole]; linarith), whole,
    share, last, before, Vec4.mix_swap, interpolate]

end Lines

section Tiles

variable {tile tile' : Nat → Nat → Vec4 ℝ} {a b : ℝ} {m : Nat}

/-- The value of a tile of texels, given by column and row, at a place of it. -/
noncomputable def bilinear (tile : Nat → Nat → Vec4 ℝ) (a b : ℝ) : Vec4 ℝ :=
  interpolate (fun row => interpolate (fun column => tile column row) a) b

theorem bilinear_comm (tile : Nat → Nat → Vec4 ℝ) (a b : ℝ) :
    bilinear tile a b = bilinear (fun column row => tile row column) b a :=
  Vec4.mix_mix ..

theorem bilinear_congr (lowA : 0 ≤ a) (highA : a < m) (lowB : 0 ≤ b) (highB : b < m)
    (same : ∀ column ≤ m, ∀ row ≤ m, tile column row = tile' column row) :
    bilinear tile a b = bilinear tile' a b := by
  apply interpolate_congr lowB highB
  intro row below
  apply interpolate_congr lowA highA
  intro column left
  exact same column left row below

end Tiles

/-- The texel of a tile in given column and row, zero if there is none. -/
noncomputable def Texels.held (t : Texels (Vec4 ℝ)) (origin : Vec2 Nat) (column row : Nat) : Vec4 ℝ :=
  t.data[(origin.y + row) * t.size.x + (origin.x + column)]?.getD .zero

theorem Texels.held_of_read {t : Texels (Vec4 ℝ)} {origin : Vec2 Nat} {column row : Nat}
    {value : Vec4 ℝ} (read : t.read ⟨origin.x + column, origin.y + row⟩ = .ok value) :
    t.held origin column row = value := by
  obtain ⟨i, indexed, held⟩ := bind_eq_ok.mp read
  obtain rfl := Texels.index_eq_ok indexed
  rw [Texels.held, fetch_eq_ok.mp held, Option.getD_some]

namespace Volume

def lookUp {α : Type} [Scalar α] (v : Volume α) (t : Texels (Vec4 α))
    (cascade slot resolution : Nat) (coords : Vec2 α) : Except Fault (Vec4 α) := do
  t.sampleBilinear (← v.atlasPosition cascade slot coords resolution)

variable {v : Volume ℝ} {t t' : Texels (Vec4 ℝ)} {cascade slot resolution : Nat} {coords : Vec2 ℝ}
  {origin : Vec2 Nat}

theorem tileCoord_inside (resolution : Nat) {a : ℝ} (inside : |a| ≤ 1) :
    0 ≤ tileCoord resolution a ∧ tileCoord resolution a < (resolution + 1 : Nat) := by
  obtain ⟨low, high⟩ := tileCoord_bounds resolution inside
  push_cast
  constructor
  · linarith
  · linarith

variable (atlas : t.IsAtlas v.grid resolution) (present : cascade < v.grid.cascades)
  (inside : slot < v.grid.size) (some : 0 < resolution)
  (found : v.grid.tileOrigin cascade slot resolution = .ok origin) (x : |coords.x| ≤ 1)
  (y : |coords.y| ≤ 1)

include atlas present inside some found x y

theorem lookUp_eq : v.lookUp t cascade slot resolution coords =
    .ok (bilinear (t.held origin) (tileCoord resolution coords.x) (tileCoord resolution coords.y)) := by
  rcases gather_of_tile atlas present inside some found x y with ⟨uv, s, placed, gathered, cell⟩
  rw [lookUp, placed, ok_bind, Texels.sampleBilinear_eq gathered,
    ← Texels.held_of_read cell.topLeft, ← Texels.held_of_read cell.topRight,
    ← Texels.held_of_read cell.bottomLeft, ← Texels.held_of_read cell.bottomRight]
  rfl

theorem lookUp_congr (atlas' : t'.IsAtlas v.grid resolution)
    (same : ∀ column ≤ resolution + 1, ∀ row ≤ resolution + 1,
      t.held origin column row = t'.held origin column row) :
    v.lookUp t cascade slot resolution coords = v.lookUp t' cascade slot resolution coords := by
  obtain ⟨lowX, highX⟩ := tileCoord_inside resolution x
  obtain ⟨lowY, highY⟩ := tileCoord_inside resolution y
  rw [lookUp_eq atlas present inside some found x y, lookUp_eq atlas' present inside some found x y,
    bilinear_congr lowX highX lowY highY same]

end Volume

end IrradianceField
