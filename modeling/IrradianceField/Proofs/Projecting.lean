import IrradianceField.Scalar.Real
import IrradianceField.Proofs.Filtering
import IrradianceField.Proofs.Nesting
import IrradianceField.Proofs.Relighting
import IrradianceField.Proofs.Viewing

/-!
Projecting: in exact arithmetic the light that is written for a texel of a tile is what is read at the
point that the texel shows.
-/

namespace IrradianceField

open Scalar

section Axes

variable {resolution n i : Nat} {b c o : ℝ}

theorem center_bounds (inside : i < n) (small : n ≤ 500000) :
    0 ≤ ((i : ℝ) + 1 / 2) / n ∧ ((i : ℝ) + 1 / 2) / n ≤ 0.999999 := by
  have count : (0 : ℝ) < n := Nat.cast_pos.mpr (Nat.zero_lt_of_lt inside)
  have last : (i : ℝ) + 1 ≤ n := by exact_mod_cast inside
  have few : (n : ℝ) ≤ 500000 := by exact_mod_cast small
  constructor
  · positivity
  · apply (div_le_iff₀ count).mpr
    linarith

theorem confine_share (low : 0 ≤ c) (high : c ≤ 1) : min (max c 0) 1 = c := by
  rw [max_eq_left low, min_eq_left high]

theorem texel_of_share (positive : 0 < resolution) (inside : i < n) :
    (((i : ℝ) + 1 / 2) / n * (n / resolution) + o / resolution) * resolution = o + i + 1 / 2 := by
  have side : (resolution : ℝ) ≠ 0 := Nat.cast_ne_zero.mpr positive.ne'
  have count : (n : ℝ) ≠ 0 := Nat.cast_ne_zero.mpr (Nat.zero_lt_of_lt inside).ne'
  field_simp
  ring

end Axes

theorem Vec4.mul_eq (u v : Vec4 ℝ) : u * v = ⟨u.x * v.x, u.y * v.y, u.z * v.z, u.w * v.w⟩ := rfl

theorem Vec2.div_eq (u v : Vec2 ℝ) : u / v = ⟨u.x / v.x, u.y / v.y⟩ := rfl

namespace Rows

theorem toAffine_point (rows : Rows ℝ) (p : Vec3 ℝ) : rows.point p = rows.toAffine.point p :=
  ofAffine_point rows.toAffine p

end Rows

namespace TileRecord

/-- A tile's share of the atlas is a rectangle of whole texels in it, with no more of them along a
side than the sampler tells apart. -/
structure IsPlaced (tile : TileRecord ℝ) (resolution : Nat) (area : Rect) : Prop where
  share : tile.atlasRect = ⟨area.origin.x / resolution, area.origin.y / resolution,
    area.size.x / resolution, area.size.y / resolution⟩
  within : area.Within resolution
  small : area.size.x ≤ 500000 ∧ area.size.y ≤ 500000
  word : resolution < 4294967296

/-- A view that has a size along each axis, and a map to it that can be undone. -/
structure IsView (tile : TileRecord ℝ) : Prop where
  width : 0 < tile.viewBounds.x
  height : 0 < tile.viewBounds.y
  depth : 0 < tile.viewBounds.z
  invertible : tile.worldToLocal.toAffine.IsInvertible

variable {tile : TileRecord ℝ} {resolution : Nat} {area : Rect} {texel : Vec2 Nat} {depth : ℝ}

theorem IsPlaced.rect_eq (placed : tile.IsPlaced resolution area) (positive : 0 < resolution) :
    tile.rect resolution = (area.origin, area.size) := by
  rcases placed.within with ⟨width, height⟩
  have word := placed.word
  have same : tile.rect resolution = (⟨_, _⟩, ⟨_, _⟩) := rfl
  rw [same, placed.share]
  exact Prod.ext
    (congrArg₂ Vec2.mk (Registry.texels_of_share positive (by omega))
      (Registry.texels_of_share positive (by omega)))
    (congrArg₂ Vec2.mk (Registry.texels_of_share positive (by omega))
      (Registry.texels_of_share positive (by omega)))

theorem IsView.point_texelPosition (view : tile.IsView) (texel size : Vec2 Nat) (depth : ℝ) :
    tile.worldToLocal.point (tile.texelPosition texel size depth) =
      ⟨(((texel.x : ℝ) + 1 / 2) / size.x - 1 / 2) * tile.viewBounds.x,
        (1 / 2 - ((texel.y : ℝ) + 1 / 2) / size.y) * tile.viewBounds.y,
        depth * tile.viewBounds.z⟩ := by
  rw [Rows.toAffine_point, texelPosition,
    Affine.point_inverse (Affine.isInvertible_iff.mp view.invertible)]
  simp only [Vec2.extend, Vec3.xy, Vec2.mul_eq, Vec2.div_eq, Vec2.shiftDown_eq, Vec2.shift_eq,
    Vec2.ofNat, Vec2.map, ofNat_real, real_one, real_half, Vec3.mk.injEq, true_and, and_true]
  ring

theorem IsView.depth_texelPosition (view : tile.IsView) {size : Vec2 Nat} :
    (tile.worldToLocal.point (tile.texelPosition texel size depth)).z / tile.viewBounds.z = depth := by
  rw [view.point_texelPosition, mul_div_cancel_right₀ _ view.depth.ne']

end TileRecord

namespace Texels

variable {β : Type} {t : Texels β} {side : Nat} {frac : Vec2 ℝ} {s : Footprint β}

namespace IsSquare

theorem width (square : t.IsSquare side) : t.size.x = side := congrArg Vec2.x square.size

theorem height (square : t.IsSquare side) : t.size.y = side := congrArg Vec2.y square.size

theorem gather_ends (square : t.IsSquare side) (positive : 0 < side)
    (words : side * side ≤ 4294967296) (pos : Vec2 ℝ) (x : 0 ≤ pos.x ∧ pos.x ≤ side)
    (y : 0 ≤ pos.y ∧ pos.y ≤ side) :
    ∃ s frac, t.gather pos = .ok (s, frac) := by
  have least : side ≤ 65536 := by
    by_contra large
    have more : 65537 * 65537 ≤ side * side := Nat.mul_le_mul (by omega) (by omega)
    omega
  have reads : ∀ at' : Vec2 Int, ∃ value, t.readClamped at' = .ok value := by
    have full : t.data.size = t.size.x * t.size.y := by
      rw [square.full, square.width, square.height]
    apply readClamped_ends full
    all_goals
      simp only [square.width, square.height]
      omega
  have cell : ∀ {a : ℝ}, 0 ≤ a ∧ a ≤ side → -1 ≤ ⌊a - 1 / 2⌋ ∧ ⌊a - 1 / 2⌋ ≤ side := by
    intro a within
    constructor
    · apply Int.le_floor.mpr
      push_cast
      linarith
    · apply Int.floor_le_iff.mpr
      push_cast
      linarith
  rcases cell x with ⟨lowX, highX⟩
  rcases cell y with ⟨lowY, highY⟩
  rcases gather_of_floor reads (rfl : ⌊pos.x - 1 / 2⌋ = _) (rfl : ⌊pos.y - 1 / 2⌋ = _) (by omega)
    (by omega) (by omega) (by omega) with ⟨s, gathered, -⟩
  exact ⟨s, _, gathered⟩

theorem gather_center_ends (square : t.IsSquare side) (words : side * side ≤ 4294967296)
    {at' : Vec2 Nat} (left : at'.x < side) (above : at'.y < side) :
    ∃ s frac, t.gather (⟨at'.x + 1 / 2, at'.y + 1 / 2⟩ : Vec2 ℝ) = .ok (s, frac) := by
  have within : ∀ {n : Nat}, n < side → 0 ≤ (n : ℝ) + 1 / 2 ∧ (n : ℝ) + 1 / 2 ≤ side := by
    intro n below
    have next : (n : ℝ) + 1 ≤ side := by exact_mod_cast below
    exact ⟨by positivity, by linarith⟩
  exact square.gather_ends (Nat.zero_lt_of_lt left) words ⟨_, _⟩ (within left) (within above)

theorem eq_of_gather (square : t.IsSquare side) {at' : Vec2 Nat} (left : at'.x < side)
    (above : at'.y < side) (word : side < 4294967296)
    (ran : t.gather (⟨at'.x + 1 / 2, at'.y + 1 / 2⟩ : Vec2 ℝ) = .ok (s, frac)) :
    frac = ⟨0, 0⟩ ∧ t.data[at'.y * side + at'.x]? = some s.topLeft := by
  simp only [gather, bind_eq_ok, Vec2.map, Vec2.shiftDown_eq, Vec2.sub_eq, real_half, floor_real,
    add_sub_cancel_right, Int.floor_natCast, Int.cast_natCast, sub_self, pure_eq_ok, Except.ok.injEq,
    Prod.mk.injEq] at ran
  rcases ran with ⟨_, read, _, -, _, -, _, -, _, -, _, -, _, -, rfl, rfl⟩
  refine ⟨rfl, ?_⟩
  have short : side < 2147483648 := by
    by_contra long
    have wide : 2 < t.size.x := by
      rw [square.width]
      omega
    have wordX : t.size.x < 4294967296 := by rwa [square.width]
    have wordY : t.size.y < 4294967296 := by rwa [square.height]
    have few := (row_of_readClamped wide wordX wordY read).1
    rw [square.height] at few
    exact long few
  have wholeX : toInt (at'.x : ℝ) = at'.x := by
    simpa using toInt_ofInt_real (n := at'.x) (by omega) (by omega)
  have wholeY : toInt (at'.y : ℝ) = at'.y := by
    simpa using toInt_ofInt_real (n := at'.y) (by omega) (by omega)
  rw [wholeX, wholeY, readClamped_of_lt (by rwa [square.width]) (by rwa [square.height])
    (by rwa [square.width]) (by rwa [square.height])] at read
  rcases bind_eq_ok.mp read with ⟨place, indexed, held⟩
  rwa [index_eq_ok indexed, square.width, fetch_eq_ok] at held

end IsSquare

end Texels

namespace AtlasSampler

section Weights

variable {α : Type} [Scalar α]

/-- How much of each texel is seen of a point of a tile, by the texel's share. -/
def tileWeights (tile : TileRecord α) (pos : Vec3 α) (threshold : α) (depths : Texels.Footprint α)
    (frac : Vec2 α) : Vec4 α :=
  let depth := (tile.worldToLocal.point pos).z / tile.viewBounds.z
  let tolerance := 2.0 * threshold / tile.viewBounds.z
  (⟨depthVisibility depth depths.topLeft tolerance, depthVisibility depth depths.topRight tolerance,
    depthVisibility depth depths.bottomLeft tolerance,
    depthVisibility depth depths.bottomRight tolerance⟩ : Vec4 α) * Texels.bilinearWeights frac

def weighted (weights : Vec4 α) (light : Texels.Footprint (Vec4 α)) : Vec3 α :=
  light.topLeft.xyz.scale weights.x + light.topRight.xyz.scale weights.y +
    light.bottomLeft.xyz.scale weights.z + light.bottomRight.xyz.scale weights.w

def tileWeight (tile : TileRecord α) (normal : Vec3 α) : α :=
  facingWeight (tile.worldToLocal.vector normal).normalizeOrZero

end Weights

variable {s : AtlasSampler ℝ} {tile : TileRecord ℝ} {pos normal : Vec3 ℝ} {share threshold : ℝ}
  {sample : Vec4 ℝ}

/-- A tile gives nothing unless it faces the surface and something of it is seen, and the light of the
texels around the point otherwise. -/
theorem sampleTile_cases (ran : s.sampleTile tile pos normal share threshold = .ok sample) :
    sample = .zero ∧ tileWeight tile normal ≤ 0 ∨
    ∃ depths frac, 0 < tileWeight tile normal ∧
      s.depth.gather (tilePosition s.constants tile (tile.worldToLocal.point pos)) =
        .ok (depths, frac) ∧
      (sample = .zero ∧
          share * tileWeight tile normal * (tileWeights tile pos threshold depths frac).sum ≤ 0 ∨
        0 < share * tileWeight tile normal * (tileWeights tile pos threshold depths frac).sum ∧
        ∃ light frac', s.lighting.gather
            (tilePosition s.constants tile (tile.worldToLocal.point pos)) = .ok (light, frac') ∧
          sample = (((weighted (tileWeights tile pos threshold depths frac) light).scale share).scale
            (tileWeight tile normal)).extend
              (share * tileWeight tile normal * (tileWeights tile pos threshold depths frac).sum)) := by
  have nonpos : ∀ {a : ℝ}, le a 0.0 = true → a ≤ 0 := fun less => by simpa using less
  have pos : ∀ {a : ℝ}, ¬le a 0.0 = true → 0 < a := fun more => by simpa using more
  rw [sampleTile] at ran
  dsimp only at ran
  split at ran
  · rename_i away
    exact .inl ⟨(Except.ok.inj ran).symm, nonpos away⟩
  · rename_i faces
    right
    rcases bind_eq_ok.mp ran with ⟨⟨depths, frac⟩, gathered, ran⟩
    refine ⟨depths, frac, pos faces, gathered, ?_⟩
    dsimp only at ran
    split at ran
    · rename_i unseen
      exact .inl ⟨(Except.ok.inj ran).symm, nonpos unseen⟩
    · rename_i seen
      rcases bind_eq_ok.mp ran with ⟨⟨light, frac'⟩, gathered', ran⟩
      exact .inr ⟨pos seen, light, frac', gathered', (Except.ok.inj ran).symm⟩

theorem sampleTile_ends
    (depths : ∃ d frac, s.depth.gather
      (tilePosition s.constants tile (tile.worldToLocal.point pos)) = .ok (d, frac))
    (lights : ∃ l frac, s.lighting.gather
      (tilePosition s.constants tile (tile.worldToLocal.point pos)) = .ok (l, frac)) :
    ∃ sample, s.sampleTile tile pos normal share threshold = .ok sample := by
  rcases depths with ⟨d, frac, gathered⟩
  rcases lights with ⟨l, frac', gathered'⟩
  rw [sampleTile]
  dsimp only
  split
  · exact ⟨_, rfl⟩
  · rw [gathered, ok_bind]
    dsimp only
    split
    · exact ⟨_, rfl⟩
    · rw [gathered', ok_bind]
      exact ⟨_, rfl⟩

section Texels

variable {a : AtlasConstants ℝ} {area : Rect} {texel : Vec2 Nat} {depth : ℝ}

theorem tilePosition_texelPosition (placed : tile.IsPlaced a.resolution area) (view : tile.IsView)
    (holds : area.Holds texel) (depth : ℝ) :
    tilePosition a tile (tile.worldToLocal.point (tile.texelPosition texel area.size depth)) =
      ⟨((area.texelAt texel).x : ℝ) + 1 / 2, ((area.texelAt texel).y : ℝ) + 1 / 2⟩ := by
  have side : 0 < a.resolution :=
    Nat.zero_lt_of_lt (Rect.texelAt_lt placed.within holds).1
  rcases center_bounds holds.1 placed.small.1 with ⟨left, right⟩
  rcases center_bounds holds.2 placed.small.2 with ⟨top, bottom⟩
  rw [view.point_texelPosition]
  generalize across : ((texel.x : ℝ) + 1 / 2) / area.size.x = x at left right
  generalize down : ((texel.y : ℝ) + 1 / 2) / area.size.y = y at top bottom
  have inX : (x - 1 / 2) * tile.viewBounds.x / tile.viewBounds.x + 1 / 2 = x := by
    rw [mul_div_cancel_right₀ _ view.width.ne', sub_add_cancel]
  have inY : (1 / 2 - y) * tile.viewBounds.y / tile.viewBounds.y + 1 / 2 = 1 - y := by
    rw [mul_div_cancel_right₀ _ view.height.ne']
    ring
  simp only [tilePosition, Vec2.confine, Vec2.zipWith, Vec2.map, Vec2.splat, Vec3.xy, Vec4.xy, Vec4.zw,
    Vec2.div_eq, Vec2.shift_eq, Vec2.mul_eq, Vec2.add_eq, Vec2.scale_eq, maxNum_real, minNum_real,
    real_zero, real_one, real_half, ofNat_real, placed.share, inX, inY]
  rw [confine_share left (by linarith), confine_share (by linarith) (by linarith : 1 - y ≤ 1),
    sub_sub_cancel, min_eq_left right, min_eq_left bottom, ← across, ← down,
    texel_of_share side holds.1, texel_of_share side holds.2, Rect.texelAt, Nat.cast_add, Nat.cast_add]

theorem depthVisibility_self (early : depth < 1) (positive : 0 < threshold) :
    depthVisibility depth depth threshold = 1 := by
  have behind : (|depth - depth| - threshold) / (1 / 2 * threshold) ≤ 0 := by
    rw [sub_self, abs_zero, zero_sub]
    exact div_nonpos_of_nonpos_of_nonneg (by linarith) (by linarith)
  simp only [depthVisibility, le_real, real_one, real_half, abs_real, decide_eq_true_eq,
    if_neg (not_le.mpr early), saturate, clampTo_real, real_zero]
  rw [max_eq_right behind, min_eq_left zero_le_one, sub_zero]

theorem tileWeights_texel {depths : Texels.Footprint ℝ}
    (shown : (tile.worldToLocal.point pos).z / tile.viewBounds.z = depth)
    (captured : depths.topLeft = depth) (early : depth < 1) (positive : 0 < threshold)
    (front : 0 < tile.viewBounds.z) :
    tileWeights tile pos threshold depths ⟨0, 0⟩ = ⟨1, 0, 0, 0⟩ := by
  have tolerance : 0 < 2 * threshold / tile.viewBounds.z := by positivity
  have weights : Texels.bilinearWeights (⟨0, 0⟩ : Vec2 ℝ) = ⟨1, 0, 0, 0⟩ := by
    simp [Texels.bilinearWeights]
  simp only [tileWeights, shown, captured, real_two, depthVisibility_self early tolerance, weights,
    Vec4.mul_eq, mul_one, mul_zero]

theorem weighted_first (light : Texels.Footprint (Vec4 ℝ)) :
    weighted ⟨1, 0, 0, 0⟩ light = light.topLeft.xyz := by
  simp only [weighted, Vec3.scale_eq, Vec3.add_eq, mul_one, mul_zero, add_zero]

theorem eq_of_sampleTile (placed : tile.IsPlaced s.constants.resolution area) (view : tile.IsView)
    (depths : s.depth.IsSquare s.constants.resolution)
    (lights : s.lighting.IsSquare s.constants.resolution) (holds : area.Holds texel)
    (early : depth < 1)
    (captured : s.depth.data[(area.texelAt texel).y * s.constants.resolution +
      (area.texelAt texel).x]? = some depth)
    (faces : 0 < tileWeight tile normal) (shares : 0 < share) (tolerant : 0 < threshold)
    (ran : s.sampleTile tile (tile.texelPosition texel area.size depth) normal share threshold =
      .ok sample) :
    ∃ light : Vec4 ℝ,
      s.lighting.data[(area.texelAt texel).y * s.constants.resolution + (area.texelAt texel).x]? =
        some light ∧
      sample = (light.xyz.scale (share * tileWeight tile normal)).extend
        (share * tileWeight tile normal) := by
  rcases Rect.texelAt_lt placed.within holds with ⟨left, above⟩
  have sum : (⟨1, 0, 0, 0⟩ : Vec4 ℝ).sum = 1 := by simp [Vec4.sum, Vec4.dot]
  rcases sampleTile_cases ran with ⟨-, away⟩ | ⟨depths', frac, -, gathered, rest⟩
  · exact absurd faces (not_lt.mpr away)
  rw [tilePosition_texelPosition placed view holds] at gathered rest
  rcases depths.eq_of_gather left above placed.word gathered with ⟨rfl, first⟩
  have own : depths'.topLeft = depth := Option.some.inj (first.symm.trans captured)
  rw [tileWeights_texel view.depth_texelPosition own early tolerant view.depth, sum, mul_one] at rest
  rcases rest with ⟨-, unseen⟩ | ⟨-, light, frac', gathered', rfl⟩
  · exact absurd (mul_pos shares faces) (not_lt.mpr unseen)
  refine ⟨light.topLeft, (lights.eq_of_gather left above placed.word gathered').2, ?_⟩
  rw [weighted_first]
  simp only [Vec3.scale_eq, mul_assoc]

/-- Light that is stored for a texel of a tile is read at the point that the texel shows. The point is
projected to the centre of the texel and to its depth; where this is the depth that was captured,
what is read has the light of the texel, and none of its neighbours', weighted by how much the tile
shows of the surface. A fault is left to atlases of more texels than there are words. -/
theorem sampleTile_texelPosition {area : Rect} {texel : Vec2 Nat}
    (placed : tile.IsPlaced s.constants.resolution area) (view : tile.IsView)
    (depths : s.depth.IsSquare s.constants.resolution)
    (lights : s.lighting.IsSquare s.constants.resolution) (holds : area.Holds texel)
    (early : depth < 1) :
    tile.rect s.constants.resolution = (area.origin, area.size) ∧
    tilePosition s.constants tile
        (tile.worldToLocal.point (tile.texelPosition texel area.size depth)) =
      ⟨area.origin.x + (texel.x + 1 / 2), area.origin.y + (texel.y + 1 / 2)⟩ ∧
    (tile.worldToLocal.point (tile.texelPosition texel area.size depth)).z / tile.viewBounds.z =
      depth ∧
    (s.depth.data[(area.texelAt texel).y * s.constants.resolution + (area.texelAt texel).x]? =
        some depth →
      ∃ light,
        s.lighting.data[(area.texelAt texel).y * s.constants.resolution + (area.texelAt texel).x]? =
          some light ∧
        ∀ normal share threshold, 0 < tileWeight tile normal → 0 < share → 0 < threshold →
          s.sampleTile tile (tile.texelPosition texel area.size depth) normal share threshold =
              .ok ((light.xyz.scale (share * tileWeight tile normal)).extend
                (share * tileWeight tile normal)) ∨
            4294967296 < s.constants.resolution * s.constants.resolution ∧ ∃ fault,
              s.sampleTile tile (tile.texelPosition texel area.size depth) normal share threshold =
                .error fault) := by
  rcases Rect.texelAt_lt placed.within holds with ⟨left, above⟩
  have side : 0 < s.constants.resolution := Nat.zero_lt_of_lt left
  have centered := tilePosition_texelPosition placed view holds depth
  refine ⟨placed.rect_eq side, ?_, view.depth_texelPosition, ?_⟩
  · rw [centered, Rect.texelAt, Nat.cast_add, Nat.cast_add, add_assoc, add_assoc]
  intro captured
  have inside : (area.texelAt texel).y * s.constants.resolution + (area.texelAt texel).x <
      s.lighting.data.size := by
    have rows := Nat.mul_le_mul_right s.constants.resolution above
    rw [Nat.succ_mul] at rows
    rw [lights.full]
    omega
  refine ⟨_, Array.getElem?_eq_getElem inside, ?_⟩
  intro normal share threshold faces shares tolerant
  cases ran : s.sampleTile tile (tile.texelPosition texel area.size depth) normal share threshold with
  | error fault =>
      right
      refine ⟨?_, fault, rfl⟩
      by_contra few
      have words := not_lt.mp few
      have deep := depths.gather_center_ends words left above
      have bright := lights.gather_center_ends words left above
      rw [← centered] at deep bright
      rcases sampleTile_ends deep bright with ⟨sample, ends⟩
      cases ran.symm.trans ends
  | ok sample =>
      left
      rcases eq_of_sampleTile placed view depths lights holds early captured faces shares tolerant ran
        with ⟨light, held, rfl⟩
      rw [Array.getElem?_eq_getElem inside, Option.some.injEq] at held
      rw [held]

section Oblong

noncomputable def oblongTile : TileRecord ℝ where
  atlasRect := ⟨0.25, 0.125, 0.5, 0.25⟩
  worldToLocal := ⟨⟨1.0, 1.0, 0.0, 1.0⟩, ⟨0.0, 2.0, 0.0, 3.0⟩, ⟨0.0, 0.0, 1.0, 4.0⟩⟩
  viewBounds := ⟨2.0, 3.0, 5.0⟩

def oblongArea : Rect := ⟨⟨2, 1⟩, ⟨4, 2⟩⟩

/-- An atlas of which nothing has been captured and lit but one texel of the tile. -/
noncomputable def singleLight : AtlasSampler ℝ where
  constants := { (default : AtlasConstants ℝ) with resolution := 8 }
  objects := #[]
  lists := ⟨#[], #[]⟩
  depth := ⟨(Array.replicate 64 1.0).setIfInBounds 21 0.5, .splat 8⟩
  lighting := ⟨(Array.replicate 64 .zero).setIfInBounds 21 ⟨1.0, 2.0, 3.0, 0.0⟩, .splat 8⟩

theorem oblongTile_isPlaced : oblongTile.IsPlaced 8 oblongArea := by
  constructor
  case share => norm_num [oblongTile, oblongArea]
  case within => exact (by decide : 2 + 4 ≤ 8 ∧ 1 + 2 ≤ 8)
  case small => exact (by decide : 4 ≤ 500000 ∧ 2 ≤ 500000)
  case word => decide

theorem oblongTile_isView : oblongTile.IsView := by
  constructor
  case width => norm_num [oblongTile]
  case height => norm_num [oblongTile]
  case depth => norm_num [oblongTile]
  case invertible =>
    rw [Affine.isInvertible_iff]
    norm_num [oblongTile, Rows.toAffine, Affine.det, Vec3.dot, Vec3.cross]

theorem tileWeight_oblongTile : tileWeight oblongTile ⟨0, 0, -1⟩ = 1 := by
  have turned : oblongTile.worldToLocal.vector ⟨0, 0, -1⟩ = ⟨0, 0, -1⟩ := by
    norm_num [oblongTile, Rows.vector, Vec3.map, Vec4.xyz, Vec3.dot]
  have unit : (⟨0, 0, -1⟩ : Vec3 ℝ).normalizeOrZero = ⟨0, 0, -1⟩ := by
    norm_num [Vec3.normalizeOrZero, Vec3.length, Vec3.dot, Vec3.scale_eq]
  rw [tileWeight, turned, unit]
  norm_num [facingWeight, saturate]

/-- The lit texel is found from the point that it shows, though there is nothing around it. -/
theorem sampleTile_texelPosition_oblongTile :
    singleLight.sampleTile oblongTile (oblongTile.texelPosition ⟨3, 1⟩ ⟨4, 2⟩ (1 / 2)) ⟨0, 0, -1⟩
      (1 / 2) (1 / 10) = .ok ⟨1 / 2, 1, 3 / 2, 1 / 2⟩ := by
  have deep : singleLight.depth.IsSquare 8 := ⟨rfl, by simp [singleLight]⟩
  have bright : singleLight.lighting.IsSquare 8 := ⟨rfl, by simp [singleLight]⟩
  have captured : singleLight.depth.data[2 * 8 + 5]? = some (1 / 2) := by simp [singleLight]
  have lit : singleLight.lighting.data[2 * 8 + 5]? = some ⟨1, 2, 3, 0⟩ := by
    norm_num [singleLight]
  have holds : oblongArea.Holds ⟨3, 1⟩ := by decide
  have early : (1 / 2 : ℝ) < 1 := by norm_num
  rcases sampleTile_texelPosition oblongTile_isPlaced oblongTile_isView deep bright holds early
    with ⟨-, -, -, sampled⟩
  rcases sampled captured with ⟨light, held, each⟩
  obtain rfl : light = ⟨1, 2, 3, 0⟩ := Option.some.inj (held.symm.trans lit)
  rcases each ⟨0, 0, -1⟩ (1 / 2) (1 / 10) (by rw [tileWeight_oblongTile]; norm_num) (by norm_num)
    (by norm_num) with reads | ⟨many, -⟩
  · have area : oblongArea.size = ⟨4, 2⟩ := rfl
    rw [area, tileWeight_oblongTile] at reads
    rw [reads]
    norm_num [Vec4.xyz, Vec3.scale_eq, Vec3.extend]
  · exact absurd many (by decide : ¬4294967296 < 8 * 8)

end Oblong

end Texels

end AtlasSampler

end IrradianceField
