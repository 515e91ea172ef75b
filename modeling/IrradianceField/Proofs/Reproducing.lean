import IrradianceField.Scalar.Real
import IrradianceField.Proofs.Lookups

/-!
Reproducing: a field that has the same slope everywhere comes back from its voxels as it is, in exact
arithmetic, and from the finest cascade that there is around a point.
-/

namespace IrradianceField

open Scalar
open Culling (Inside placeOf placeOf_lt)

/-- The same slope everywhere. -/
def IsAffine (f : Vec3 ℝ → ℝ) : Prop :=
  ∃ (slope : Vec3 ℝ) (height : ℝ), ∀ p, f p = p.dot slope + height

section Axes

variable {a b t u center extent : ℝ} {resolution : Nat}

theorem lerp_real (low : 0 ≤ t) (high : t ≤ 1) : lerp a b t = a + (b - a) * t := by
  rw [lerp, saturate, clampTo_real, real_zero, real_one, max_eq_left low, min_eq_left high]

/-- Where a coordinate lies along an axis of a cube, counted in voxels from the centre of the first
one. -/
noncomputable def voxelCoord (resolution : Nat) (center extent a : ℝ) : ℝ :=
  (a - (center - extent)) / (2 * extent / resolution) - 1 / 2

theorem voxelCoord_bounds (some : 0 < resolution) (positive : 0 < extent)
    (near : |a - center| < extent - 2 * extent / resolution) :
    0 < voxelCoord resolution center extent a ∧
      voxelCoord resolution center extent a < resolution - 1 - 1 / 2 := by
  have count : (0 : ℝ) < resolution := Nat.cast_pos.mpr some
  have size : 0 < 2 * extent / resolution := div_pos (mul_pos two_pos positive) count
  have side : (resolution : ℝ) * (2 * extent / resolution) = 2 * extent :=
    mul_div_cancel₀ _ count.ne'
  rcases abs_lt.mp near with ⟨low, high⟩
  have first : 1 < (a - (center - extent)) / (2 * extent / resolution) := by
    apply (lt_div_iff₀ size).mpr
    linarith
  have last : (a - (center - extent)) / (2 * extent / resolution) < resolution - 1 := by
    apply (div_lt_iff₀ size).mpr
    linarith
  rw [voxelCoord]
  constructor
  · linarith
  · linarith

noncomputable def coordAt (resolution : Nat) (center extent u : ℝ) : ℝ :=
  center - extent + (u + 1 / 2) * (2 * extent / resolution)

theorem coordAt_voxelCoord (some : 0 < resolution) (positive : 0 < extent) :
    coordAt resolution center extent (voxelCoord resolution center extent a) = a := by
  have count : (0 : ℝ) < resolution := Nat.cast_pos.mpr some
  have size : 0 < 2 * extent / resolution := div_pos (mul_pos two_pos positive) count
  rw [coordAt, voxelCoord, sub_add_cancel, div_mul_cancel₀ _ size.ne', add_sub_cancel]

/-- Between centres of voxels nothing is moved to an edge: neither the place itself, nor the voxel
below it, nor the share of the next one. -/
theorem cell_of_voxelCoord (two : 2 ≤ resolution) (short : resolution < 4294967296) (low : 0 < u)
    (high : u < resolution - 1 - 1 / 2) :
    min (max u 0) ((resolution - 1 : Nat) : ℝ) = u ∧
      min (toNat (⌊u⌋ : ℝ)) (resolution - 2) = ⌊u⌋₊ ∧ ⌊u⌋₊ + 2 ≤ resolution := by
  have last : ((resolution - 1 : Nat) : ℝ) = resolution - 1 := by
    rw [Nat.cast_sub (by omega), Nat.cast_one]
  have below : ⌊u⌋₊ < resolution - 1 := by
    apply (Nat.floor_lt low.le).mpr
    rw [last]
    linarith
  have whole : ⌊(⌊u⌋ : ℝ)⌋₊ = ⌊u⌋₊ := by rw [← Int.floor_toNat, Int.floor_intCast, Int.floor_toNat]
  refine ⟨?_, ?_, by omega⟩
  · rw [max_eq_left low.le, last]
    apply min_eq_left
    linarith
  · rw [toNat_real, whole]
    omega

end Axes

namespace VoxelLayout

section Definitions

variable (l : VoxelLayout ℝ)

/-- Cubes that have a size and at least two voxels along an axis. -/
structure IsProper : Prop where
  resolution : 2 ≤ l.resolution
  word : l.resolution < 4294967296
  cascades : 1 ≤ l.cascades ∧ l.cascades ≤ maxVoxelCascades
  extent : ∀ cascade cube, cascade < l.cascades → l.cube cascade = .ok cube → 0 < cube.extent

/-- Whether a point lies inside of a cascade by more than a voxel. -/
def Contains (cascade : Nat) (p : Vec3 ℝ) : Prop :=
  ∃ cube, l.cube cascade = .ok cube ∧
    |p.x - cube.center.x| < cube.extent - 2 * cube.extent / l.resolution ∧
    |p.y - cube.center.y| < cube.extent - 2 * cube.extent / l.resolution ∧
    |p.z - cube.center.z| < cube.extent - 2 * cube.extent / l.resolution

/-- The point at a number of voxels from the centre of the first one, along each axis of a cube. -/
noncomputable def gridPoint (resolution : Nat) (cube : Cube ℝ) (u : Vec3 ℝ) : Vec3 ℝ :=
  ⟨coordAt resolution cube.center.x cube.extent u.x, coordAt resolution cube.center.y cube.extent u.y,
    coordAt resolution cube.center.z cube.extent u.z⟩

/-- Where a point lies in a cube, counted in voxels from the centre of the first one. -/
noncomputable def gridCoords (resolution : Nat) (cube : Cube ℝ) (p : Vec3 ℝ) : Vec3 ℝ :=
  ⟨voxelCoord resolution cube.center.x cube.extent p.x,
    voxelCoord resolution cube.center.y cube.extent p.y,
    voxelCoord resolution cube.center.z cube.extent p.z⟩

structure IsFinest (cascade : Nat) (p : Vec3 ℝ) : Prop where
  present : cascade < l.cascades
  contains : l.Contains cascade p
  first : ∀ finer < cascade, ¬l.Contains finer p

def volume : Nat := l.resolution * l.resolution * l.resolution

end Definitions

variable {l : VoxelLayout ℝ} {cube : Cube ℝ} {cascade : Nat} {p : Vec3 ℝ} {voxel : Vec3 Nat}

theorem IsProper.cube_ends (proper : l.IsProper) (present : cascade < l.cascades) :
    ∃ cube, l.cube cascade = .ok cube :=
  ⟨_, dif_pos (present.trans_le proper.cascades.2)⟩

theorem voxelSize_eq (found : l.cube cascade = .ok cube) :
    l.voxelSize cascade = .ok (2 * cube.extent / l.resolution) := by
  rw [voxelSize, found, ok_bind, pure_eq_ok, real_two, ofNat_real]

theorem centerOf_eq (found : l.cube cascade = .ok cube) :
    Voxels.centerOf l cascade voxel = .ok (gridPoint l.resolution cube (.ofNat voxel)) := by
  rw [Voxels.centerOf, found, ok_bind, voxelSize_eq found, ok_bind, pure_eq_ok]
  simp only [gridPoint, coordAt, Vec3.sub_eq, Vec3.add_eq, Vec3.scale_eq, Vec3.shift_eq, Vec3.splat,
    Vec3.ofNat, Vec3.map, ofNat_real, real_half]

theorem affine_gridPoint {f : Vec3 ℝ → ℝ} (affine : IsAffine f) :
    IsAffine fun u => f (gridPoint l.resolution cube u) := by
  rcases affine with ⟨slope, height, eq⟩
  refine ⟨slope.scale (2 * cube.extent / l.resolution),
    (gridPoint l.resolution cube .zero).dot slope + height, ?_⟩
  intro u
  simp only [eq, gridPoint, coordAt, Vec3.dot, Vec3.scale_eq, Vec3.zero, Vec3.splat, real_zero]
  ring

theorem contains_iff (found : l.cube cascade = .ok cube) : l.Contains cascade p ↔
    |p.x - cube.center.x| < cube.extent - 2 * cube.extent / l.resolution ∧
      |p.y - cube.center.y| < cube.extent - 2 * cube.extent / l.resolution ∧
      |p.z - cube.center.z| < cube.extent - 2 * cube.extent / l.resolution := by
  constructor
  · intro inside
    rcases inside with ⟨other, same, inside⟩
    cases Except.ok.inj (same.symm.trans found)
    exact inside
  · intro inside
    exact ⟨cube, found, inside⟩

theorem contains_eq (found : l.cube cascade = .ok cube) :
    l.contains cascade p = .ok true ∧ l.Contains cascade p ∨
      l.contains cascade p = .ok false ∧ ¬l.Contains cascade p := by
  have same : l.contains cascade p = .ok (decide (max |p.x - cube.center.x|
      (max |p.y - cube.center.y| |p.z - cube.center.z|) <
        cube.extent - 2 * cube.extent / l.resolution)) := by
    rw [contains, voxelSize_eq found, ok_bind, found, ok_bind, pure_eq_ok]
    simp only [Vec3.maxElement, Vec3.abs, Vec3.map, Vec3.sub_eq, maxNum_real, abs_real, lt_real]
  rw [same, contains_iff found, ← max_lt_iff, ← max_lt_iff]
  by_cases inside : max |p.x - cube.center.x|
      (max |p.y - cube.center.y| |p.z - cube.center.z|) <
        cube.extent - 2 * cube.extent / l.resolution
  · exact .inl ⟨congrArg Except.ok (decide_eq_true inside), inside⟩
  · exact .inr ⟨congrArg Except.ok (decide_eq_false inside), inside⟩

theorem IsProper.firstContaining_finds (proper : l.IsProper) {remaining : Nat}
    (split : cascade + remaining = l.cascades) (before : ∀ finer < cascade, ¬l.Contains finer p) :
    (∃ finest, l.IsFinest finest p ∧ l.firstContaining p remaining cascade = .ok (some finest)) ∨
      (∀ other < l.cascades, ¬l.Contains other p) ∧
        l.firstContaining p remaining cascade = .ok none := by
  induction remaining generalizing cascade with
  | zero => exact .inr ⟨split ▸ before, rfl⟩
  | succ remaining ih =>
      rcases proper.cube_ends (by omega : cascade < l.cascades) with ⟨cube, found⟩
      rw [firstContaining]
      rcases contains_eq (p := p) found with ⟨tested, inside⟩ | ⟨tested, outside⟩
      · rw [tested, ok_bind, if_pos rfl]
        exact .inl ⟨cascade, ⟨by omega, inside, before⟩, rfl⟩
      · rw [tested, ok_bind, if_neg Bool.false_ne_true]
        apply ih (by omega)
        intro finer below
        rcases Nat.lt_succ_iff_lt_or_eq.mp below with earlier | rfl
        · exact before finer earlier
        · exact outside

theorem IsProper.locate_finds (proper : l.IsProper) (p : Vec3 ℝ) :
    (∃ finest, l.IsFinest finest p ∧ l.locate p = .ok (some finest)) ∨
      (∀ other < l.cascades, ¬l.Contains other p) ∧ l.locate p = .ok none :=
  proper.firstContaining_finds (Nat.zero_add _) fun _ below => absurd below (Nat.not_lt_zero _)

theorem eq_of_index {i : Nat} (indexed : l.index cascade voxel = .ok i) :
    i = cascade * l.volume + placeOf l.resolution voxel := by
  simp only [index, bind_eq_ok, Word.mul_eq_ok, Word.add_eq_ok] at indexed
  rcases indexed with ⟨_, ⟨rfl, -⟩, _, ⟨rfl, -⟩, _, ⟨rfl, -⟩, _, ⟨rfl, -⟩, _, ⟨rfl, -⟩, _, ⟨rfl, -⟩, _,
    ⟨rfl, -⟩, _, ⟨rfl, -⟩, rfl, -⟩
  rw [volume, placeOf]
  ring

end VoxelLayout

namespace Voxels

open VoxelLayout (gridPoint gridCoords affine_gridPoint)

section Definitions

/-- Every voxel holds the value of a field at its centre: `x` is innermost, then `y`, then `z`, and
one cascade comes after the other. -/
def Records (v : Voxels ℝ) (f : Vec3 ℝ → ℝ) : Prop :=
  ∀ cascade voxel center, cascade < v.layout.cascades → Inside v.layout.resolution voxel →
    centerOf v.layout cascade voxel = .ok center →
      v.values[cascade * v.layout.volume + placeOf v.layout.resolution voxel]? = some (f center)

noncomputable def blend (corner : Nat → Nat → Nat → Except Fault ℝ) (frac : Vec3 ℝ) :
    Except Fault ℝ := do
  let c000 ← corner 0 0 0
  let c100 ← corner 1 0 0
  let c010 ← corner 0 1 0
  let c110 ← corner 1 1 0
  let c001 ← corner 0 0 1
  let c101 ← corner 1 0 1
  let c011 ← corner 0 1 1
  let c111 ← corner 1 1 1
  let c00 := lerp c000 c100 frac.x
  let c10 := lerp c010 c110 frac.x
  let c01 := lerp c001 c101 frac.x
  let c11 := lerp c011 c111 frac.x
  return lerp (lerp c00 c10 frac.y) (lerp c01 c11 frac.y) frac.z

end Definitions

section Blending

variable {corner : Nat → Nat → Nat → Except Fault ℝ} {frac : Vec3 ℝ} {value : ℝ}

theorem eq_of_blend {g : Vec3 ℝ → ℝ} (affine : IsAffine g) {base : Vec3 ℝ}
    (x : 0 ≤ frac.x ∧ frac.x ≤ 1) (y : 0 ≤ frac.y ∧ frac.y ≤ 1) (z : 0 ≤ frac.z ∧ frac.z ≤ 1)
    (each : ∀ i j k value, i ≤ 1 → j ≤ 1 → k ≤ 1 → corner i j k = .ok value →
      value = g ⟨base.x + i, base.y + j, base.z + k⟩)
    (ran : blend corner frac = .ok value) : value = g (base + frac) := by
  rcases affine with ⟨slope, height, eq⟩
  simp only [blend, bind_eq_ok, pure_eq_ok, Except.ok.injEq] at ran
  rcases ran with ⟨c000, h000, c100, h100, c010, h010, c110, h110, c001, h001, c101, h101, c011, h011,
    c111, h111, rfl⟩
  rw [each 0 0 0 _ (by decide) (by decide) (by decide) h000,
    each 1 0 0 _ (by decide) (by decide) (by decide) h100,
    each 0 1 0 _ (by decide) (by decide) (by decide) h010,
    each 1 1 0 _ (by decide) (by decide) (by decide) h110,
    each 0 0 1 _ (by decide) (by decide) (by decide) h001,
    each 1 0 1 _ (by decide) (by decide) (by decide) h101,
    each 0 1 1 _ (by decide) (by decide) (by decide) h011,
    each 1 1 1 _ (by decide) (by decide) (by decide) h111]
  simp only [lerp_real x.1 x.2, lerp_real y.1 y.2, lerp_real z.1 z.2, eq, Vec3.dot, Vec3.add_eq,
    Nat.cast_zero, Nat.cast_one]
  ring

theorem blend_ends
    (each : ∀ i j k, i ≤ 1 → j ≤ 1 → k ≤ 1 → ∃ value, corner i j k = .ok value) :
    ∃ value, blend corner frac = .ok value := by
  apply bind_ends (each 0 0 0 (by decide) (by decide) (by decide))
  intro c000
  apply bind_ends (each 1 0 0 (by decide) (by decide) (by decide))
  intro c100
  apply bind_ends (each 0 1 0 (by decide) (by decide) (by decide))
  intro c010
  apply bind_ends (each 1 1 0 (by decide) (by decide) (by decide))
  intro c110
  apply bind_ends (each 0 0 1 (by decide) (by decide) (by decide))
  intro c001
  apply bind_ends (each 1 0 1 (by decide) (by decide) (by decide))
  intro c101
  apply bind_ends (each 0 1 1 (by decide) (by decide) (by decide))
  intro c011
  apply bind_ends (each 1 1 1 (by decide) (by decide) (by decide))
  intro c111
  exact ⟨_, rfl⟩

end Blending

section Cells

noncomputable def cellOf (u : Vec3 ℝ) : Vec3 Nat := u.map (⌊·⌋₊)

noncomputable def shareOf (u : Vec3 ℝ) : Vec3 ℝ := u - .ofNat (cellOf u)

variable {v : Voxels ℝ} {cube : Cube ℝ} {cascade : Nat} {p u : Vec3 ℝ} {f : Vec3 ℝ → ℝ} {value : ℝ}

theorem share_bounds {u : ℝ} (low : 0 < u) : 0 ≤ u - ⌊u⌋₊ ∧ u - ⌊u⌋₊ ≤ 1 := by
  have below := Nat.floor_le low.le
  have above := Nat.lt_floor_add_one u
  constructor
  · linarith
  · linarith

variable (proper : v.layout.IsProper) (present : cascade < v.layout.cascades)
  (found : v.layout.cube cascade = .ok cube) (inside : v.layout.Contains cascade p)

include proper present found inside

theorem gridCoords_bounds :
    (0 < (gridCoords v.layout.resolution cube p).x ∧
      (gridCoords v.layout.resolution cube p).x < v.layout.resolution - 1 - 1 / 2) ∧
    (0 < (gridCoords v.layout.resolution cube p).y ∧
      (gridCoords v.layout.resolution cube p).y < v.layout.resolution - 1 - 1 / 2) ∧
    0 < (gridCoords v.layout.resolution cube p).z ∧
      (gridCoords v.layout.resolution cube p).z < v.layout.resolution - 1 - 1 / 2 := by
  have some : 0 < v.layout.resolution := Nat.zero_lt_of_lt proper.resolution
  have positive := proper.extent _ _ present found
  rcases (VoxelLayout.contains_iff found).mp inside with ⟨x, y, z⟩
  exact ⟨voxelCoord_bounds some positive x, voxelCoord_bounds some positive y,
    voxelCoord_bounds some positive z⟩

/-- In a cascade that contains the point nothing is cut off: the voxels around the point are blended,
each by its share. -/
theorem sampleCascade_eq :
    v.sampleCascade cascade p = blend
      (fun i j k => do
        v.voxel cascade
          (← (cellOf (gridCoords v.layout.resolution cube p)).zipWithM Word.add ⟨i, j, k⟩))
      (shareOf (gridCoords v.layout.resolution cube p)) := by
  have two := proper.resolution
  have last : Word.sub v.layout.resolution 1 = .ok (v.layout.resolution - 1) :=
    Word.sub_eq_ok.mpr ⟨rfl, by omega⟩
  have lastBase : Word.sub v.layout.resolution 2 = .ok (v.layout.resolution - 2) :=
    Word.sub_eq_ok.mpr ⟨rfl, two⟩
  rcases gridCoords_bounds proper present found inside with ⟨⟨x, x'⟩, ⟨y, y'⟩, z, z'⟩
  rcases cell_of_voxelCoord two proper.word x x' with ⟨keepsX, cellX, -⟩
  rcases cell_of_voxelCoord two proper.word y y' with ⟨keepsY, cellY, -⟩
  rcases cell_of_voxelCoord two proper.word z z' with ⟨keepsZ, cellZ, -⟩
  have keeps : (((p - (cube.center - .splat cube.extent)).divide
      (2 * cube.extent / v.layout.resolution)).shiftDown 0.5).confine .zero
        (.splat (ofNat (v.layout.resolution - 1))) = gridCoords v.layout.resolution cube p := by
    simp only [Vec3.confine, Vec3.zipWith, Vec3.shiftDown, Vec3.map, Vec3.divide_eq, Vec3.sub_eq,
      Vec3.splat, Vec3.zero, real_half, real_zero, maxNum_real, minNum_real, ofNat_real]
    exact congr (congrArg₂ Vec3.mk keepsX keepsY) keepsZ
  have cell : (gridCoords v.layout.resolution cube p).floor.toNat.map
      (min · (v.layout.resolution - 2)) = cellOf (gridCoords v.layout.resolution cube p) :=
    congr (congrArg₂ Vec3.mk cellX cellY) cellZ
  rw [sampleCascade, VoxelLayout.voxelSize_eq found, ok_bind, found, ok_bind, last, ok_bind, lastBase,
    ok_bind]
  dsimp only
  rw [keeps, cell]
  rfl

theorem corner_spec {i j k : Nat} (x : i ≤ 1) (y : j ≤ 1) (z : k ≤ 1) :
    ∃ voxel : Vec3 Nat,
      (cellOf (gridCoords v.layout.resolution cube p)).zipWithM Word.add ⟨i, j, k⟩ = .ok voxel ∧
      Inside v.layout.resolution voxel ∧
      voxel.x = (cellOf (gridCoords v.layout.resolution cube p)).x + i ∧
      voxel.y = (cellOf (gridCoords v.layout.resolution cube p)).y + j ∧
      voxel.z = (cellOf (gridCoords v.layout.resolution cube p)).z + k := by
  have two := proper.resolution
  have word := proper.word
  rcases gridCoords_bounds proper present found inside with ⟨⟨lowX, highX⟩, ⟨lowY, highY⟩, lowZ, highZ⟩
  have belowX : (cellOf (gridCoords v.layout.resolution cube p)).x + 2 ≤ v.layout.resolution :=
    (cell_of_voxelCoord two word lowX highX).2.2
  have belowY : (cellOf (gridCoords v.layout.resolution cube p)).y + 2 ≤ v.layout.resolution :=
    (cell_of_voxelCoord two word lowY highY).2.2
  have belowZ : (cellOf (gridCoords v.layout.resolution cube p)).z + 2 ≤ v.layout.resolution :=
    (cell_of_voxelCoord two word lowZ highZ).2.2
  refine ⟨_, Vec3.zipWithM_add_of_lt ?_ ?_ ?_, ⟨?_, ?_, ?_⟩, rfl, rfl, rfl⟩
  all_goals
    simp only [Vec3.zipWith]
    omega

theorem eq_of_corner (records : v.Records f) {i j k : Nat} (x : i ≤ 1) (y : j ≤ 1) (z : k ≤ 1)
    (ran : (do
      v.voxel cascade
        (← (cellOf (gridCoords v.layout.resolution cube p)).zipWithM Word.add ⟨i, j, k⟩)) = .ok value) :
    value = f (gridPoint v.layout.resolution cube
      ⟨(cellOf (gridCoords v.layout.resolution cube p)).x + i,
        (cellOf (gridCoords v.layout.resolution cube p)).y + j,
        (cellOf (gridCoords v.layout.resolution cube p)).z + k⟩) := by
  rcases corner_spec proper present found inside x y z with ⟨voxel, moved, within, atX, atY, atZ⟩
  rw [moved, ok_bind, Voxels.voxel] at ran
  rcases bind_eq_ok.mp ran with ⟨place, indexed, held⟩
  rw [VoxelLayout.eq_of_index indexed, fetch_eq_ok] at held
  have stored := records cascade voxel _ present within (VoxelLayout.centerOf_eq found)
  rw [held, Option.some.injEq] at stored
  rw [stored, Vec3.ofNat, Vec3.map, atX, atY, atZ]
  simp only [ofNat_real, Nat.cast_add]

theorem eq_of_sampleCascade (affine : IsAffine f) (records : v.Records f)
    (ran : v.sampleCascade cascade p = .ok value) : value = f p := by
  have some : 0 < v.layout.resolution := Nat.zero_lt_of_lt proper.resolution
  have positive := proper.extent _ _ present found
  have bounds := gridCoords_bounds proper present found inside
  rw [sampleCascade_eq proper present found inside] at ran
  have held : value = f (gridPoint v.layout.resolution cube
      (.ofNat (cellOf (gridCoords v.layout.resolution cube p)) +
        shareOf (gridCoords v.layout.resolution cube p))) :=
    eq_of_blend (affine_gridPoint affine) (share_bounds bounds.1.1) (share_bounds bounds.2.1.1)
      (share_bounds bounds.2.2.1) (fun _ _ _ _ => eq_of_corner proper present found inside records) ran
  have whole : Vec3.ofNat (cellOf (gridCoords v.layout.resolution cube p)) +
      shareOf (gridCoords v.layout.resolution cube p) = gridCoords v.layout.resolution cube p := by
    simp only [shareOf, Vec3.add_eq, Vec3.sub_eq, add_sub_cancel]
  have back : gridPoint v.layout.resolution cube (gridCoords v.layout.resolution cube p) = p := by
    simp only [gridPoint, gridCoords, coordAt_voxelCoord some positive]
  rw [held, whole, back]

theorem sampleCascade_ends (records : v.Records f)
    (words : v.layout.cascades * v.layout.volume ≤ 4294967296) :
    ∃ value, v.sampleCascade cascade p = .ok value := by
  rw [sampleCascade_eq proper present found inside]
  apply blend_ends
  intro i j k x y z
  rcases corner_spec proper present found inside x y z with ⟨voxel, moved, within, -⟩
  have indexed := (VoxelLayout.index_of_inside present within words).1
  have stored := records cascade voxel _ present within (VoxelLayout.centerOf_eq found)
  refine ⟨_, bind_eq_ok.mpr ⟨voxel, moved, bind_eq_ok.mpr ⟨_, indexed, fetch_eq_ok.mpr stored⟩⟩⟩

end Cells

/-- Cascades whose voxels hold an affine field give its value at every point that a cascade contains,
from the finest of these, which is the one that is found for the point; a fault is left to volumes of
more voxels than there are words. Outside of all cascades the extent of the last one is given. -/
theorem sample_of_affine {v : Voxels ℝ} {f : Vec3 ℝ → ℝ} (proper : v.layout.IsProper)
    (affine : IsAffine f) (records : v.Records f) (p : Vec3 ℝ) :
    ((∃ cascade < v.layout.cascades, v.layout.Contains cascade p) →
      ∃ finest, v.layout.IsFinest finest p ∧ v.cascadeAt p = .ok finest ∧
        v.sample p = v.sampleCascade finest p ∧
        (v.sample p = .ok (f p) ∨
          4294967296 < v.layout.cascades * v.layout.volume ∧ ∃ fault, v.sample p = .error fault)) ∧
    ((∀ cascade < v.layout.cascades, ¬v.layout.Contains cascade p) →
      v.cascadeAt p = .ok (v.layout.cascades - 1) ∧
        ∃ cube, v.layout.cube (v.layout.cascades - 1) = .ok cube ∧ v.sample p = .ok cube.extent) := by
  rcases proper.locate_finds p with ⟨finest, isFinest, located⟩ | ⟨nowhere, located⟩
  · constructor
    · intro _
      rcases proper.cube_ends isFinest.present with ⟨cube, found⟩
      have sampled : v.sample p = v.sampleCascade finest p := by rw [sample, located, ok_bind]
      refine ⟨finest, isFinest, by rw [cascadeAt, located, ok_bind]; rfl, sampled, ?_⟩
      rw [sampled]
      cases ran : v.sampleCascade finest p with
      | ok value =>
          left
          rw [eq_of_sampleCascade proper isFinest.present found isFinest.contains affine records ran]
      | error fault =>
          right
          refine ⟨?_, fault, rfl⟩
          by_contra few
          rcases sampleCascade_ends proper isFinest.present found isFinest.contains records
            (not_lt.mp few) with ⟨value, ends⟩
          cases ran.symm.trans ends
    · intro nowhere
      exact absurd isFinest.contains (nowhere _ isFinest.present)
  · constructor
    · intro somewhere
      rcases somewhere with ⟨cascade, present, inside⟩
      exact absurd inside (nowhere cascade present)
    · intro _
      have one := proper.cascades.1
      have last : Word.sub v.layout.cascades 1 = .ok (v.layout.cascades - 1) :=
        Word.sub_eq_ok.mpr ⟨rfl, one⟩
      rcases proper.cube_ends (by omega : v.layout.cascades - 1 < v.layout.cascades)
        with ⟨cube, found⟩
      constructor
      · rw [cascadeAt, located, ok_bind, last]
      · refine ⟨cube, found, ?_⟩
        rw [sample, located, ok_bind, last, ok_bind, found]
        rfl

section Filling

variable {l : VoxelLayout ℝ} {cascade res : Nat} {voxel : Vec3 Nat}

def cellAt (res i : Nat) : Nat × Vec3 Nat :=
  (i / (res * res * res), ⟨i % res, i / res % res, i / (res * res) % res⟩)

theorem cellAt_place (inside : Inside res voxel) :
    cellAt res (cascade * (res * res * res) + placeOf res voxel) = (cascade, voxel) := by
  rcases voxel with ⟨x, y, z⟩
  rcases inside with ⟨hx, hy, hz⟩
  have split : ∀ {a b : Nat}, b < res → (a * res + b) / res = a ∧ (a * res + b) % res = b := by
    intro a b small
    rw [Nat.add_comm, Nat.add_mul_div_right _ _ (Nat.zero_lt_of_lt hx), Nat.div_eq_of_lt small,
      Nat.add_mul_mod_self_right, Nat.mod_eq_of_lt small]
    exact ⟨Nat.zero_add a, rfl⟩
  have place : cascade * (res * res * res) + placeOf res ⟨x, y, z⟩ =
      ((cascade * res + z) * res + y) * res + x := by
    rw [placeOf]
    ring
  rw [place, cellAt, ← Nat.div_div_eq_div_mul, ← Nat.div_div_eq_div_mul, (split hx).1, (split hx).2,
    (split hy).1, (split hy).2, (split hz).1, (split hz).2]

theorem records_ofDistance (proper : l.IsProper) (f : Vec3 ℝ → ℝ) :
    ∃ v, ofDistance l f = .ok v ∧ v.layout = l ∧ v.Records f := by
  have ends : ∃ values, ((List.range (l.cascades * l.resolution * l.resolution * l.resolution)).map
      (cellAt l.resolution)).mapM (fun cell => do return f (← centerOf l cell.1 cell.2)) =
        .ok values := by
    rw [mapM_ends]
    intro cell listed
    rcases List.mem_map.mp listed with ⟨i, below, rfl⟩
    have early : i / (l.resolution * l.resolution * l.resolution) < l.cascades := by
      apply Nat.div_lt_of_lt_mul
      have within := List.mem_range.mp below
      ring_nf at within ⊢
      exact within
    rcases proper.cube_ends early with ⟨cube, found⟩
    exact ⟨_, bind_eq_ok.mpr ⟨_, VoxelLayout.centerOf_eq found, rfl⟩⟩
  rcases ends with ⟨values, stored⟩
  refine ⟨⟨l, values.toArray⟩, bind_eq_ok.mpr ⟨values, stored, rfl⟩, rfl, ?_⟩
  intro cascade voxel center present inside placed
  have below : cascade * l.volume + placeOf l.resolution voxel <
      l.cascades * l.resolution * l.resolution * l.resolution :=
    calc cascade * l.volume + placeOf l.resolution voxel
        < cascade * l.volume + l.volume := Nat.add_lt_add_left (placeOf_lt inside) _
      _ = (cascade + 1) * l.volume := (Nat.succ_mul cascade _).symm
      _ ≤ l.cascades * l.volume := Nat.mul_le_mul_right _ present
      _ = l.cascades * l.resolution * l.resolution * l.resolution := by
        rw [VoxelLayout.volume]
        ring
  rw [List.mapM_map, mapM_range_eq_ok] at stored
  rcases stored.2 _ below with ⟨value, found, held⟩
  rw [Function.comp, VoxelLayout.volume, cellAt_place inside] at found
  rcases bind_eq_ok.mp found with ⟨other, there, valued⟩
  cases Except.ok.inj (there.symm.trans placed)
  rw [← Except.ok.inj valued] at held
  simpa using held

end Filling

section Slope

/-- Cubes of six voxels along an axis, the second one of three times the size and not centred on the
first one. -/
noncomputable def offCenter : VoxelLayout ℝ :=
  ⟨#v[⟨⟨0.0, 0.0, 0.0⟩, 3.0⟩, ⟨⟨1.0, 0.0, 0.0⟩, 9.0⟩, default, default], 6, 2⟩

noncomputable def slope (p : Vec3 ℝ) : ℝ := p.dot ⟨2.0, -1.0, 3.0⟩ + 5.0

theorem offCenter_cases {cascade : Nat} (present : cascade < offCenter.cascades) :
    cascade = 0 ∨ cascade = 1 := by
  have few : cascade < 2 := present
  omega

theorem offCenter_isProper : offCenter.IsProper := by
  constructor
  case resolution => exact (by decide : 2 ≤ 6)
  case word => exact (by decide : 6 < 4294967296)
  case cascades => exact (by decide : 1 ≤ 2 ∧ 2 ≤ maxVoxelCascades)
  case extent =>
    intro cascade cube present found
    rcases offCenter_cases present with rfl | rfl
    · obtain rfl := Except.ok.inj found
      exact (by norm_num : (0 : ℝ) < 3.0)
    · obtain rfl := Except.ok.inj found
      exact (by norm_num : (0 : ℝ) < 9.0)

theorem offCenter_contains_zero {p : Vec3 ℝ} :
    offCenter.Contains 0 p ↔ |p.x| < 2 ∧ |p.y| < 2 ∧ |p.z| < 2 := by
  have found : offCenter.cube 0 = .ok ⟨⟨0.0, 0.0, 0.0⟩, 3.0⟩ := rfl
  rw [VoxelLayout.contains_iff found]
  norm_num [offCenter]

theorem offCenter_contains_one {p : Vec3 ℝ} :
    offCenter.Contains 1 p ↔ |p.x - 1| < 6 ∧ |p.y| < 6 ∧ |p.z| < 6 := by
  have found : offCenter.cube 1 = .ok ⟨⟨1.0, 0.0, 0.0⟩, 9.0⟩ := rfl
  rw [VoxelLayout.contains_iff found]
  norm_num [offCenter]

/-- The coarser cube is used where the finer one ends, and neither of them far away. -/
theorem sample_of_affine_offCenter :
    ∃ v : Voxels ℝ, ofDistance offCenter slope = .ok v ∧
      v.cascadeAt ⟨5, 1, -1⟩ = .ok 1 ∧ v.sample ⟨5, 1, -1⟩ = .ok 11 ∧
      v.cascadeAt ⟨20, 0, 0⟩ = .ok 1 ∧ v.sample ⟨20, 0, 0⟩ = .ok 9 := by
  rcases records_ofDistance offCenter_isProper slope with ⟨v, made, placed, records⟩
  have proper : v.layout.IsProper := placed ▸ offCenter_isProper
  have affine : IsAffine slope := ⟨_, _, fun _ => rfl⟩
  have fine : ¬offCenter.Contains 0 ⟨5, 1, -1⟩ := by
    rw [offCenter_contains_zero]
    norm_num
  have coarse : offCenter.Contains 1 ⟨5, 1, -1⟩ := by
    rw [offCenter_contains_one]
    norm_num [abs_lt]
  have nowhere : ∀ cascade < offCenter.cascades, ¬offCenter.Contains cascade ⟨20, 0, 0⟩ := by
    intro cascade present
    rcases offCenter_cases present with rfl | rfl
    · rw [offCenter_contains_zero]
      norm_num
    · rw [offCenter_contains_one]
      norm_num [abs_lt]
  have near := (sample_of_affine proper affine records ⟨5, 1, -1⟩).1
  have far := (sample_of_affine proper affine records ⟨20, 0, 0⟩).2
  rw [placed] at near far
  rcases near ⟨1, (by decide : 1 < 2), coarse⟩ with ⟨finest, isFinest, at', -, reads | ⟨many, -⟩⟩
  · rcases offCenter_cases isFinest.present with rfl | rfl
    · exact absurd isFinest.contains fine
    rcases far nowhere with ⟨last, cube, found, outside⟩
    obtain rfl := Except.ok.inj found
    have nine : (9.0 : ℝ) = 9 := by norm_num
    refine ⟨v, made, at', ?_, last, nine ▸ outside⟩
    rw [reads, slope, Vec3.dot]
    norm_num
  · exact absurd many (by decide : ¬4294967296 < 2 * (6 * 6 * 6))

end Slope

end Voxels

end IrradianceField
