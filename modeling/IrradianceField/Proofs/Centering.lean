import IrradianceField.Scalar.Real
import IrradianceField.Proofs.Completion
import IrradianceField.Proofs.Fetching
import IrradianceField.Proofs.Interpolating

/-!
Centering: a direction at the centre of a texel is stored to and read from the same texel, by tiles of
any resolution and by the sky.
-/

namespace IrradianceField

open Scalar

namespace Octahedral

variable {texel : Vec2 Nat} {resolution : Nat}

theorem texelCoords_eq (inside : texel.x < resolution ∧ texel.y < resolution) :
    (((texelCoords texel resolution : Vec2 ℝ).x / 2 + 1 / 2) * resolution = texel.x + 1 / 2) ∧
      ((texelCoords texel resolution : Vec2 ℝ).y / 2 + 1 / 2) * resolution = texel.y + 1 / 2 := by
  have some : (resolution : ℝ) ≠ 0 := by exact_mod_cast (Nat.zero_lt_of_lt inside.1).ne'
  have axis : ∀ i : Nat, (((i : ℝ) + 0.5) / resolution * 2.0 - 1.0) / 2 + 1 / 2 =
      ((i : ℝ) + 1 / 2) / resolution := by
    intro i
    rw [real_half, real_two, real_one]
    ring
  constructor
  · exact (congrArg (· * (resolution : ℝ)) (axis texel.x)).trans (div_mul_cancel₀ _ some)
  · exact (congrArg (· * (resolution : ℝ)) (axis texel.y)).trans (div_mul_cancel₀ _ some)

end Octahedral

namespace Volume

variable {v : Volume ℝ} {t : Texels (Vec4 ℝ)} {cascade slot resolution : Nat}
  {origin texel : Vec2 Nat} {k : ℝ}

theorem lookUp_texelDirection (atlas : t.IsAtlas v.grid resolution)
    (present : cascade < v.grid.cascades) (inside : slot < v.grid.size)
    (found : v.grid.tileOrigin cascade slot resolution = .ok origin)
    (own : texel.x < resolution ∧ texel.y < resolution) (some : 0 < k) :
    v.lookUp t cascade slot resolution
        (Octahedral.encode ((Octahedral.texelDirection texel resolution).scale k)) =
      t.read ⟨origin.x + 1 + texel.x, origin.y + 1 + texel.y⟩ := by
  have positive := Nat.zero_lt_of_lt own.1
  obtain ⟨x, y⟩ := Octahedral.texelCoords_eq own
  obtain ⟨⟨-, shortX⟩, -, shortY⟩ := atlas.short present inside positive
  obtain ⟨left, above⟩ := own
  obtain ⟨right, bottom⟩ := atlas.tile_lt present inside found (show texel.x + 2 ≤ _ by omega)
    (show texel.y + 2 ≤ _ by omega)
  have centerX : (origin.x : ℝ) + tileCoord resolution (Octahedral.texelCoords texel resolution).x +
      1 / 2 = (origin.x + (texel.x + 1) : Nat) + 1 / 2 := by
    rw [tileCoord, x]
    push_cast
    ring
  have centerY : (origin.y : ℝ) + tileCoord resolution (Octahedral.texelCoords texel resolution).y +
      1 / 2 = (origin.y + (texel.y + 1) : Nat) + 1 / 2 := by
    rw [tileCoord, y]
    push_cast
    ring
  rw [Octahedral.encode_texelDirection ⟨left, above⟩ some, lookUp, atlasPosition_eq found, ok_bind,
    Texels.sampleBilinear_of_center (atlas.reads present inside positive) centerX centerY (by omega)
      (by omega),
    atlas.readClamped_tile present inside positive found (by omega) (by omega), Nat.add_assoc,
    Nat.add_assoc, Nat.add_comm 1, Nat.add_comm 1]

/-- In every tile, looking towards the centre of a texel finds what the texel holds. -/
def FindsTexels (v : Volume ℝ) (t : Texels (Vec4 ℝ)) (resolution : Nat) : Prop :=
  ∀ cascade < v.grid.cascades, ∀ slot < v.grid.size, ∀ texel : Vec2 Nat,
    texel.x < resolution ∧ texel.y < resolution → ∃ origin value,
      v.grid.tileOrigin cascade slot resolution = .ok origin ∧
      t.read ⟨origin.x + 1 + texel.x, origin.y + 1 + texel.y⟩ = .ok value ∧
      ∀ k : ℝ, 0 < k → v.lookUp t cascade slot resolution
        (Octahedral.encode ((Octahedral.texelDirection texel resolution).scale k)) = .ok value

theorem findsTexels (some : 0 < resolution) (atlas : t.IsAtlas v.grid resolution) :
    v.FindsTexels t resolution := by
  intro cascade present slot inside texel own
  have found := Grid.tileOrigin_of_lt atlas.sized present inside
  obtain ⟨left, above⟩ := own
  rcases atlas.read_tile present inside some found (show 1 + texel.x ≤ _ by omega)
    (show 1 + texel.y ≤ _ by omega) with ⟨value, read⟩
  rw [← Nat.add_assoc, ← Nat.add_assoc] at read
  refine ⟨_, value, found, read, fun k positive => ?_⟩
  rw [lookUp_texelDirection atlas present inside found ⟨left, above⟩ positive]
  exact read

end Volume

namespace Sky

def ShowsTexels (map : Array (Vec4 ℝ)) (radiance : Vec3 ℝ → Vec3 ℝ) : Prop :=
  ∀ texel : Vec2 Nat, texel.x < resolution ∧ texel.y < resolution → ∀ k : ℝ, 0 < k →
    sample map ((Octahedral.texelDirection texel resolution).scale k) =
      .ok (radiance (Octahedral.texelDirection texel resolution))

variable {radiance : Vec3 ℝ → Vec3 ℝ}

theorem bake_ends (radiance : Vec3 ℝ → Vec3 ℝ) : ∃ map, bake radiance = .ok map ∧
    map.size = size.x * size.y ∧ ∀ texel : Vec2 Nat, texel.x < resolution ∧ texel.y < resolution →
      map[texel.y * size.x + texel.x]? =
        some ((radiance (Octahedral.texelDirection texel resolution)).extend 1.0) := by
  have baked : ∀ i, bakeTexel radiance i =
      .ok ((radiance (Octahedral.texelDirection ⟨i % 64, i / 64⟩ resolution)).extend 1.0) := by
    intro i
    have position : Texels.position size i = .ok ⟨i % 64, i / 64⟩ := rfl
    rw [bakeTexel, position]
    rfl
  have count : Word.mul size.x size.y = .ok 4096 := rfl
  obtain ⟨texels, ran⟩ := mapM_ends.mpr fun i (_ : i ∈ List.range 4096) => ⟨_, baked i⟩
  obtain ⟨length, each⟩ := mapM_range_eq_ok.mp ran
  refine ⟨texels.toArray, ?_, length, ?_⟩
  · rw [bake, count, ok_bind, ran]
    rfl
  · intro texel inside
    obtain ⟨left, above⟩ := inside
    simp only [resolution] at left above
    have place : texel.y * size.x + texel.x = texel.y * 64 + texel.x := rfl
    have column : (texel.y * 64 + texel.x) % 64 = texel.x := by omega
    have row : (texel.y * 64 + texel.x) / 64 = texel.y := by omega
    obtain ⟨value, made, held⟩ := each (texel.y * 64 + texel.x) (by omega)
    obtain rfl := Except.ok.inj ((baked _).symm.trans made)
    rw [place, List.getElem?_toArray, held, column, row]

theorem showsTexels {map : Array (Vec4 ℝ)} (baked : bake radiance = .ok map) :
    ShowsTexels map radiance := by
  intro texel inside k some
  rcases bake_ends radiance with ⟨own, ran, full, holds⟩
  obtain rfl := Except.ok.inj (ran.symm.trans baked)
  have some' : 0 < size.x ∧ 0 < size.y := by decide
  have short : size.x < 2147483648 ∧ size.y < 2147483648 := by decide
  have words : size.x * size.y ≤ 4294967296 := by decide
  obtain ⟨x, y⟩ := Octahedral.texelCoords_eq inside
  obtain ⟨left, above⟩ := inside
  let atlas : Texels (Vec4 ℝ) := ⟨own, size⟩
  have reads := @Texels.readClamped_ends _ atlas full some'.1 some'.2 short.1 short.2 words
  have read : atlas.readClamped ⟨texel.x, texel.y⟩ =
      .ok ((radiance (Octahedral.texelDirection texel resolution)).extend 1.0) := by
    obtain ⟨indexed, -⟩ := @Texels.index_of_lt size texel left above words
    rw [@Texels.readClamped_of_lt _ atlas texel left above short.1 short.2]
    exact bind_eq_ok.mpr ⟨_, indexed, fetch_eq_ok.mpr (holds texel ⟨left, above⟩)⟩
  have center : ((((Octahedral.texelCoords texel resolution : Vec2 ℝ).scale 0.5).shift 0.5).scale
      (ofNat resolution)) = ⟨texel.x + 1 / 2, texel.y + 1 / 2⟩ := by
    simp only [Vec2.scale_eq, Vec2.shift_eq, real_half, ofNat_real, ← x, ← y, Vec2.mk.injEq]
    constructor
    · ring
    · ring
  have sampled : atlas.sampleBilinear ⟨texel.x + 1 / 2, texel.y + 1 / 2⟩ =
      atlas.readClamped ⟨texel.x, texel.y⟩ := by
    simp only [resolution] at left above
    exact Texels.sampleBilinear_of_center reads rfl rfl (by omega) (by omega)
  rw [sample, Octahedral.encode_texelDirection ⟨left, above⟩ some, center, sampled, read]
  rfl

end Sky

namespace Layer

section Gathering

variable {α : Type} [Scalar α]

def gatherTowards (layer : Layer) (volume : Volume α) (cascade : Nat) (trace : Array (Vec4 α))
    (batchProbe : Nat) (dir : Vec3 α) : Except Fault (Vec4 α) :=
  match layer with
  | irradiance => do
    let gathered ← Updating.gatherIrradiance volume trace batchProbe dir
    return (gathered.xyz.powPositive (1.0 / volume.gamma)).extend 1.0
  | distance => do
    let limit ← Updating.distanceLimit volume cascade
    let raw ← Updating.gatherDistance volume trace batchProbe dir limit
    return (raw.extend 0.0).extend 0.0

variable {layer : Layer} {volume : Volume α} {pass : BatchPass} {probes : Array PackedProbe}
  {active : ActiveList} {trace : Array (Vec4 α)} {batchProbe : Nat} {texel pos : Vec2 Nat}
  {target : Updating.Target α} {atlas : Texels (Vec4 α)} {previous : Vec4 α}

theorem update_eq
    (found : Updating.target? volume pass probes active batchProbe = .ok (some target))
    (inside : texel.x < layer.resolution ∧ texel.y < layer.resolution)
    (placed : target.texel volume.grid texel layer.resolution = .ok pos)
    (held : atlas.read pos = .ok previous) :
    layer.update volume pass probes active trace batchProbe texel atlas = (do
      let gathered ← layer.gatherTowards volume pass.cascade trace batchProbe
        (Octahedral.texelDirection texel layer.resolution)
      let new ← layer.blend volume pass.cascade target.historyWeight gathered previous
      atlas.write pos new) := by
  cases layer with
  | irradiance =>
      have early : (decide (irradianceResolution ≤ texel.x) ||
          decide (irradianceResolution ≤ texel.y)) = false := by simpa [Layer.resolution] using inside
      rw [Layer.resolution] at placed
      simp only [Layer.update, Updating.updateIrradiance, found, early, placed, held, ok_bind,
        bind_assoc, pure_eq_ok, Bool.false_eq_true, if_false, gatherTowards, Layer.blend,
        Layer.resolution]
      rfl
  | distance =>
      have early : (decide (distanceResolution ≤ texel.x) ||
          decide (distanceResolution ≤ texel.y)) = false := by simpa [Layer.resolution] using inside
      rw [Layer.resolution] at placed
      simp only [Layer.update, Updating.updateDistance, found, early, placed, held, ok_bind,
        bind_assoc, pure_eq_ok, Bool.false_eq_true, if_false, gatherTowards, Layer.blend,
        Layer.resolution]
      cases Updating.distanceLimit volume pass.cascade with
      | error e => rfl
      | ok limit => rfl

theorem blend_of_forgotten {cascade : Nat} {weight : α} {dir : Vec3 α} {gathered : Vec4 α}
    (forgotten : le weight 0.0 = true)
    (ran : layer.gatherTowards volume cascade trace batchProbe dir = .ok gathered)
    (previous : Vec4 α) : layer.blend volume cascade weight gathered previous = .ok gathered := by
  cases layer with
  | irradiance =>
      obtain ⟨rays, -, made⟩ := bind_eq_ok.mp ran
      obtain rfl := Except.ok.inj made
      rw [Layer.blend, Updating.blendIrradiance, if_pos forgotten]
      rfl
  | distance =>
      obtain ⟨limit, limited, ran⟩ := bind_eq_ok.mp ran
      obtain ⟨raw, -, made⟩ := bind_eq_ok.mp ran
      obtain rfl := Except.ok.inj made
      rw [Layer.blend, limited, ok_bind, Updating.blendDistance, if_pos forgotten]
      rfl

end Gathering

/-- An update of a texel stores what is gathered around the direction of the texel's centre, blended
with what the texel held, to where that direction is looked up. -/
structure StoresAtCenter (layer : Layer) (v : Volume ℝ) (pass : BatchPass)
    (probes : Array PackedProbe) (active : ActiveList) (trace : Array (Vec4 ℝ)) (batchProbe : Nat)
    (target : Updating.Target ℝ) (texel origin : Vec2 Nat) (atlas : Texels (Vec4 ℝ))
    (previous : Vec4 ℝ) : Prop where
  found : v.grid.tileOrigin target.cascade target.physicalIndex layer.resolution = .ok origin
  held : atlas.read ⟨origin.x + 1 + texel.x, origin.y + 1 + texel.y⟩ = .ok previous
  update : layer.update v pass probes active trace batchProbe texel atlas = (do
    let gathered ← layer.gatherTowards v pass.cascade trace batchProbe
      (Octahedral.texelDirection texel layer.resolution)
    let new ← layer.blend v pass.cascade target.historyWeight gathered previous
    atlas.write ⟨origin.x + 1 + texel.x, origin.y + 1 + texel.y⟩ new)
  fresh : target.historyWeight ≤ 0 → ∀ gathered,
    layer.gatherTowards v pass.cascade trace batchProbe
      (Octahedral.texelDirection texel layer.resolution) = .ok gathered →
    layer.blend v pass.cascade target.historyWeight gathered previous = .ok gathered
  seen : ∀ new, ∃ after,
    atlas.write ⟨origin.x + 1 + texel.x, origin.y + 1 + texel.y⟩ new = .ok after ∧
      ∀ k : ℝ, 0 < k → v.lookUp after target.cascade target.physicalIndex layer.resolution
        (Octahedral.encode ((Octahedral.texelDirection texel layer.resolution).scale k)) = .ok new

theorem storesAtCenter {layer : Layer} {v : Volume ℝ} {pass : BatchPass}
    {probes : Array PackedProbe} {active : ActiveList} {trace : Array (Vec4 ℝ)} {batchProbe : Nat}
    {target : Updating.Target ℝ} {texel : Vec2 Nat} {atlas : Texels (Vec4 ℝ)}
    (whole : atlas.IsAtlas v.grid layer.resolution) (present : pass.cascade < v.grid.cascades)
    (listed : Updating.target? v pass probes active batchProbe = .ok (some target))
    (inside : texel.x < layer.resolution ∧ texel.y < layer.resolution) :
    ∃ origin previous, layer.StoresAtCenter v pass probes active trace batchProbe target texel origin
      atlas previous := by
  obtain ⟨index, slot, probe, -, -, -, physical, shape⟩ := Updating.target_eq_some listed
  have own : target.cascade = pass.cascade ∧ target.physicalIndex = slot := by
    rw [shape]
    exact ⟨rfl, rfl⟩
  have present' : target.cascade < v.grid.cascades := own.1 ▸ present
  have below : target.physicalIndex < v.grid.size :=
    own.2 ▸ Volume.physicalIndex_lt whole.sized physical
  have found := Grid.tileOrigin_of_lt whole.sized present' below
  obtain ⟨placed, indexed, room⟩ := Updating.texel_ends target whole.sized whole.words present' below
    inside
  set place := v.grid.texelPlace target.cascade target.physicalIndex layer.resolution texel atlas.size.x
  have full : place < atlas.data.size := whole.full ▸ room
  rw [Grid.texelAt, ← Nat.add_assoc, ← Nat.add_assoc] at placed indexed
  obtain ⟨previous, stored⟩ := fetch_of_lt full
  have held := bind_eq_ok.mpr ⟨place, indexed, stored⟩
  refine ⟨_, previous, found, held, update_eq listed inside placed held, ?_, ?_⟩
  · intro forgotten gathered ran
    exact blend_of_forgotten (by simpa using forgotten) ran previous
  · intro new
    have written : atlas.write _ new = .ok ⟨atlas.data.setIfInBounds place new, atlas.size⟩ :=
      bind_eq_ok.mpr ⟨place, indexed, by rw [store_of_lt full]; rfl⟩
    refine ⟨_, written, fun k some => ?_⟩
    have after : Texels.IsAtlas v.grid layer.resolution
        ⟨atlas.data.setIfInBounds place new, atlas.size⟩ :=
      ⟨whole.sized, (Array.size_setIfInBounds ..).trans whole.full, whole.words⟩
    rw [Volume.lookUp_texelDirection after present' below found inside some]
    exact bind_eq_ok.mpr ⟨place, indexed,
      fetch_eq_ok.mpr (Array.getElem?_setIfInBounds_self_of_lt full)⟩

end Layer

/-- Tiles of any resolution, those that are updated and the sky: a direction at the centre of a texel,
however long it is, is looked up in the texel itself, which is where its value is stored. -/
theorem looked_up_where_stored :
    (∀ (v : Volume ℝ) (resolution : Nat) (t : Texels (Vec4 ℝ)), 1 ≤ resolution →
      t.IsAtlas v.grid resolution → v.FindsTexels t resolution) ∧
    (∀ (layer : Layer) (v : Volume ℝ) (pass : BatchPass) (probes : Array PackedProbe)
      (active : ActiveList) (trace : Array (Vec4 ℝ)) (batchProbe : Nat) (target : Updating.Target ℝ)
      (texel : Vec2 Nat) (atlas : Texels (Vec4 ℝ)), atlas.IsAtlas v.grid layer.resolution →
      pass.cascade < v.grid.cascades →
      Updating.target? v pass probes active batchProbe = .ok (some target) →
      texel.x < layer.resolution ∧ texel.y < layer.resolution → ∃ origin previous,
        layer.StoresAtCenter v pass probes active trace batchProbe target texel origin atlas
          previous) ∧
    ∀ radiance : Vec3 ℝ → Vec3 ℝ, ∃ map, Sky.bake radiance = .ok map ∧ Sky.ShowsTexels map radiance := by
  refine ⟨?_, ?_, ?_⟩
  · exact fun v resolution t some atlas => Volume.findsTexels some atlas
  · intro layer v pass probes active trace batchProbe target texel atlas whole present listed inside
    exact Layer.storesAtCenter whole present listed inside
  · intro radiance
    rcases Sky.bake_ends radiance with ⟨map, baked, -⟩
    exact ⟨map, baked, Sky.showsTexels baked⟩

theorem looked_up_where_stored_drifted :
    DistanceThread.drifted.FindsTexels (FrameMemory.blank ⟨16, 32⟩) 6 ∧
    (∃ origin previous, Layer.irradiance.StoresAtCenter DistanceThread.drifted ⟨0, 1, false⟩
      (.replicate 8 ⟨0, 131072⟩) ⟨2, #[7, 1]⟩ #[⟨0, 0, 0, 1⟩] 0
      ⟨0, 2, DistanceThread.drifted.historyWeight⟩ ⟨3, 5⟩ origin (FrameMemory.blank ⟨16, 32⟩)
      previous) ∧
    ∃ map, Sky.bake (fun dir : Vec3 ℝ => dir) = .ok map ∧ Sky.ShowsTexels map fun dir => dir := by
  have atlas : (FrameMemory.blank ⟨16, 32⟩ : Texels (Vec4 ℝ)).IsAtlas DistanceThread.drifted.grid 6 :=
    ⟨rfl, by simp [FrameMemory.blank], by decide⟩
  obtain ⟨finds, stores, shows⟩ := looked_up_where_stored
  exact ⟨finds _ 6 _ (by decide) atlas,
    stores .irradiance _ _ _ _ _ _ _ ⟨3, 5⟩ _ atlas (by decide) DistanceThread.target_drifted
      (by decide), shows _⟩

end IrradianceField
