import IrradianceField.Scalar.Real
import IrradianceField.Proofs.Culling
import IrradianceField.Proofs.Projecting

/-!
Weighing: in exact arithmetic the light that is read from the surfaces around a point is a mean of
what is stored for them, with nothing added to it, and it does not matter in which order the objects
are listed.
-/

namespace IrradianceField

open Scalar
open Culling (Inside placeOf placeOf_lt chunkAddress_of_lt foldlM_addObject)

section Orders

variable {σ ι : Type} {f : σ → ι → Except Fault σ}

theorem foldlM_perm (swaps : ∀ s i j t u, f s i = .ok t → f t j = .ok u →
      ∃ v, f s j = .ok v ∧ f v i = .ok u)
    {l l' : List ι} (perm : l.Perm l') {s t : σ} (ran : l.foldlM f s = .ok t) :
    l'.foldlM f s = .ok t := by
  induction perm generalizing s with
  | nil => exact ran
  | cons i _ ih =>
      rcases foldlM_cons_eq_ok.mp ran with ⟨u, first, rest⟩
      exact foldlM_cons_eq_ok.mpr ⟨u, first, ih rest⟩
  | swap i j rest =>
      rcases foldlM_cons_eq_ok.mp ran with ⟨u, first, ran⟩
      rcases foldlM_cons_eq_ok.mp ran with ⟨v, second, ran⟩
      rcases swaps _ _ _ _ _ first second with ⟨w, first, second⟩
      exact foldlM_cons_eq_ok.mpr ⟨w, first, foldlM_cons_eq_ok.mpr ⟨v, second, ran⟩⟩
  | trans _ _ first second => exact second (first ran)

end Orders

theorem between_iff_axes {bounds : Vec3 ℝ × Vec3 ℝ} {p : Vec3 ℝ} :
    Between bounds p ↔ ∀ axis, bounds.1.axis axis ≤ p.axis axis ∧ p.axis axis ≤ bounds.2.axis axis := by
  constructor
  · intro between axis
    rcases between with ⟨x, y, z⟩
    match axis with
    | 0 => exact x
    | 1 => exact y
    | _ + 2 => exact z
  · intro each
    exact ⟨each 0, each 1, each 2⟩

theorem Texels.mem_of_gather {β : Type} {t : Texels β} {pos frac : Vec2 ℝ} {s : Footprint β}
    (ran : t.gather pos = .ok (s, frac)) : s.All (· ∈ t.data) := by
  have mem : ∀ {at' : Vec2 Int} {value : β}, t.readClamped at' = .ok value → value ∈ t.data := by
    intro at' value read
    rcases bind_eq_ok.mp read with ⟨_, -, read⟩
    rcases bind_eq_ok.mp read with ⟨place, -, held⟩
    exact Array.mem_of_getElem? (fetch_eq_ok.mp held)
  simp only [gather, bind_eq_ok, pure_eq_ok, Except.ok.injEq, Prod.mk.injEq] at ran
  rcases ran with ⟨_, topLeft, _, -, _, topRight, _, -, _, bottomLeft, _, -, _, bottomRight, rfl, -⟩
  exact ⟨mem topLeft, mem topRight, mem bottomLeft, mem bottomRight⟩

namespace AtlasSampler

section Weights

variable {lo hi : Vec3 ℝ} {light light' : Vec4 ℝ}

structure IsWeighted (lo hi : Vec3 ℝ) (light : Vec4 ℝ) : Prop where
  weight : 0 ≤ light.w
  between : ∀ axis, lo.axis axis * light.w ≤ light.xyz.axis axis ∧
    light.xyz.axis axis ≤ hi.axis axis * light.w

theorem isWeighted_zero : IsWeighted lo hi .zero where
  weight := by simp [Vec4.zero]
  between := by
    intro axis
    have none : (Vec4.zero : Vec4 ℝ).xyz = .zero := rfl
    rw [none, Vec3.axis_zero]
    simp [Vec4.zero]

theorem IsWeighted.add (first : IsWeighted lo hi light) (second : IsWeighted lo hi light') :
    IsWeighted lo hi (light + light') where
  weight := add_nonneg first.weight second.weight
  between := by
    intro axis
    have sum : (light + light').xyz = light.xyz + light'.xyz := rfl
    have weights : (light + light').w = light.w + light'.w := rfl
    rcases first.between axis with ⟨low, high⟩
    rcases second.between axis with ⟨low', high'⟩
    rw [sum, weights, Vec3.axis_add, mul_add, mul_add]
    exact ⟨add_le_add low low', add_le_add high high'⟩

theorem weighted_between {weights : Vec4 ℝ} {texels : Texels.Footprint (Vec4 ℝ)}
    (x : 0 ≤ weights.x) (y : 0 ≤ weights.y) (z : 0 ≤ weights.z) (w : 0 ≤ weights.w)
    (between : texels.All fun texel => Between (lo, hi) texel.xyz) (axis : Nat) :
    lo.axis axis * weights.sum ≤ (weighted weights texels).axis axis ∧
      (weighted weights texels).axis axis ≤ hi.axis axis * weights.sum := by
  have sum : weights.sum = weights.x + weights.y + weights.z + weights.w := by
    simp only [Vec4.sum, Vec4.dot, real_one, mul_one]
    ring
  have low := fun (texel : Vec4 ℝ) (inside : Between (lo, hi) texel.xyz) =>
    (between_iff_axes.mp inside axis).1
  have high := fun (texel : Vec4 ℝ) (inside : Between (lo, hi) texel.xyz) =>
    (between_iff_axes.mp inside axis).2
  rw [sum]
  simp only [weighted, Vec3.axis_add, Vec3.axis_scale, mul_add]
  constructor
  · exact add_le_add (add_le_add (add_le_add
      (mul_le_mul_of_nonneg_right (low _ between.topLeft) x)
      (mul_le_mul_of_nonneg_right (low _ between.topRight) y))
      (mul_le_mul_of_nonneg_right (low _ between.bottomLeft) z))
      (mul_le_mul_of_nonneg_right (low _ between.bottomRight) w)
  · exact add_le_add (add_le_add (add_le_add
      (mul_le_mul_of_nonneg_right (high _ between.topLeft) x)
      (mul_le_mul_of_nonneg_right (high _ between.topRight) y))
      (mul_le_mul_of_nonneg_right (high _ between.bottomLeft) z))
      (mul_le_mul_of_nonneg_right (high _ between.bottomRight) w)

theorem isWeighted_scale {colour : Vec3 ℝ} {weight a b : ℝ} (scale : 0 ≤ a * b)
    (positive : 0 ≤ a * b * weight) (between : ∀ axis, lo.axis axis * weight ≤ colour.axis axis ∧
      colour.axis axis ≤ hi.axis axis * weight) :
    IsWeighted lo hi (((colour.scale a).scale b).extend (a * b * weight)) where
  weight := positive
  between := by
    intro axis
    have own : ((colour.scale a).scale b).axis axis = a * b * colour.axis axis := by
      rw [Vec3.axis_scale, Vec3.axis_scale]
      ring
    rcases between axis with ⟨low, high⟩
    change lo.axis axis * (a * b * weight) ≤ ((colour.scale a).scale b).axis axis ∧
      ((colour.scale a).scale b).axis axis ≤ hi.axis axis * (a * b * weight)
    rw [own]
    constructor
    · calc lo.axis axis * (a * b * weight) = a * b * (lo.axis axis * weight) := by ring
        _ ≤ a * b * colour.axis axis := mul_le_mul_of_nonneg_left low scale
    · calc a * b * colour.axis axis ≤ a * b * (hi.axis axis * weight) :=
          mul_le_mul_of_nonneg_left high scale
        _ = hi.axis axis * (a * b * weight) := by ring

theorem depthVisibility_nonneg (depth tileDepth threshold : ℝ) :
    0 ≤ depthVisibility depth tileDepth threshold := by
  rw [depthVisibility]
  split
  · rw [real_zero]
  · rw [real_one]
    exact sub_nonneg.mpr (Sampler.saturate_bounds _).2

theorem tileWeights_nonneg (tile : TileRecord ℝ) (pos : Vec3 ℝ) (threshold : ℝ)
    (depths : Texels.Footprint ℝ) {frac : Vec2 ℝ} (x : 0 ≤ frac.x ∧ frac.x ≤ 1)
    (y : 0 ≤ frac.y ∧ frac.y ≤ 1) :
    0 ≤ (tileWeights tile pos threshold depths frac).x ∧
      0 ≤ (tileWeights tile pos threshold depths frac).y ∧
      0 ≤ (tileWeights tile pos threshold depths frac).z ∧
      0 ≤ (tileWeights tile pos threshold depths frac).w := by
  have left : 0 ≤ 1 - frac.x := sub_nonneg.mpr x.2
  have top : 0 ≤ 1 - frac.y := sub_nonneg.mpr y.2
  simp only [tileWeights, Texels.bilinearWeights, Vec4.mul_eq, real_one]
  exact ⟨mul_nonneg (depthVisibility_nonneg ..) (mul_nonneg left top),
    mul_nonneg (depthVisibility_nonneg ..) (mul_nonneg x.1 top),
    mul_nonneg (depthVisibility_nonneg ..) (mul_nonneg left y.1),
    mul_nonneg (depthVisibility_nonneg ..) (mul_nonneg x.1 y.1)⟩

end Weights

section Steps

variable {s : AtlasSampler ℝ} {lo hi pos normal : Vec3 ℝ} {share threshold : ℝ} {light : Vec4 ℝ}
  (lit : ∀ texel ∈ s.lighting.data, Between (lo, hi) texel.xyz)

include lit

theorem isWeighted_sampleTile {tile : TileRecord ℝ} (shares : 0 ≤ share)
    (ran : s.sampleTile tile pos normal share threshold = .ok light) : IsWeighted lo hi light := by
  rcases sampleTile_cases ran with ⟨rfl, -⟩ | ⟨depths, frac, faces, gathered, ⟨rfl, -⟩ | rest⟩
  · exact isWeighted_zero
  · exact isWeighted_zero
  rcases rest with ⟨seen, texels, frac', gathered', rfl⟩
  rcases Texels.frac_of_gather gathered with ⟨across, down⟩
  have scaled : 0 ≤ share * tileWeight tile normal := mul_nonneg shares faces.le
  have inside := Texels.mem_of_gather gathered'
  have between : texels.All fun texel => Between (lo, hi) texel.xyz :=
    ⟨lit _ inside.topLeft, lit _ inside.topRight, lit _ inside.bottomLeft, lit _ inside.bottomRight⟩
  rcases tileWeights_nonneg tile pos threshold depths across down with ⟨x, y, z, w⟩
  exact isWeighted_scale scaled seen.le (weighted_between x y z w between)

omit lit in
theorem normalWeight_nonneg (a : AtlasConstants ℝ) (localNormal : Vec3 ℝ) (dir : Nat) :
    0 ≤ normalWeight a localNormal dir := by
  rw [normalWeight]
  split
  · norm_num
  · split
    · rw [sqr_real]
      positivity
    · norm_num

theorem isWeighted_sampleObject {object : ObjectRecord ℝ} {address : Nat}
    (ran : s.sampleObject object address pos normal threshold = .ok light) :
    IsWeighted lo hi light := by
  rw [sampleObject] at ran
  refine foldlM_keeps (IsWeighted lo hi) ?_ isWeighted_zero ran
  intro dir _ sum sum' weighted ran
  split at ran
  · rcases bind_eq_ok.mp ran with ⟨place, -, ran⟩
    rcases bind_eq_ok.mp ran with ⟨tile, -, ran⟩
    rcases bind_eq_ok.mp ran with ⟨light, sampled, ran⟩
    obtain rfl := Except.ok.inj ran
    exact weighted.add (isWeighted_sampleTile lit (normalWeight_nonneg _ _ _) sampled)
  · obtain rfl := Except.ok.inj ran
    exact weighted

theorem isWeighted_addObject {place i : Nat} {total total' : Option (Vec4 ℝ)}
    (weighted : ∀ light ∈ total, IsWeighted lo hi light)
    (ran : s.addObject place pos normal threshold total i = .ok total') :
    ∀ light ∈ total', IsWeighted lo hi light := by
  rw [addObject] at ran
  rcases bind_eq_ok.mp ran with ⟨_, -, ran⟩
  rcases bind_eq_ok.mp ran with ⟨_, -, ran⟩
  rcases bind_eq_ok.mp ran with ⟨address, -, ran⟩
  rcases bind_eq_ok.mp ran with ⟨object, -, ran⟩
  split at ran
  · obtain rfl := Except.ok.inj ran
    exact weighted
  · rcases bind_eq_ok.mp ran with ⟨added, sampled, ran⟩
    obtain rfl := Except.ok.inj ran
    intro light same
    obtain rfl := Option.some.inj same
    cases total with
    | none => exact isWeighted_zero.add (isWeighted_sampleObject lit sampled)
    | some before => exact (weighted before rfl).add (isWeighted_sampleObject lit sampled)

end Steps

section Results

variable {lo hi : Vec3 ℝ} {a : AtlasConstants ℝ} {total : Vec4 ℝ}

/-- Light that adds nothing to what is stored: it is between two colours, and there is none without
weight. -/
structure IsMean (lo hi : Vec3 ℝ) (light : Vec4 ℝ) : Prop where
  between : Between (lo, hi) light.xyz
  weight : 0 ≤ light.w
  dark : light.w = 0 → light.xyz = .splat 0

theorem isMean_zero (dark : Between (lo, hi) (.splat 0)) : IsMean lo hi .zero := by
  have none : (Vec4.zero : Vec4 ℝ) = ⟨0, 0, 0, 0⟩ := by simp only [Vec4.zero, real_zero]
  rw [none]
  exact ⟨dark, le_rfl, fun _ => rfl⟩

theorem isMean_resolve (plain : a.isDebug = false) (dark : Between (lo, hi) (.splat 0))
    (weighted : IsWeighted lo hi total) : IsMean lo hi (resolve a total) := by
  have floor : (0 : ℝ) < max total.w 0.0001 := lt_max_of_lt_right (by norm_num)
  have result : resolve a total = (total.xyz.divide (max total.w 0.0001)).extend total.w := by
    rw [resolve, plain, maxNum_real]
    rfl
  have own : ∀ axis, ((total.xyz.divide (max total.w 0.0001)).extend total.w).xyz.axis axis =
      total.xyz.axis axis / max total.w 0.0001 :=
    fun axis => Vec3.axis_divide total.xyz (max total.w 0.0001) axis
  rw [result]
  refine ⟨between_iff_axes.mpr ?_, weighted.weight, ?_⟩
  · intro axis
    have above : total.w ≤ max total.w 0.0001 := le_max_left _ _
    rcases weighted.between axis with ⟨low, high⟩
    rcases between_iff_axes.mp dark axis with ⟨negative, positive⟩
    rw [Vec3.axis_splat] at negative positive
    rw [own]
    constructor
    · apply (le_div_iff₀ floor).mpr
      calc lo.axis axis * max total.w 0.0001
          ≤ lo.axis axis * total.w := mul_le_mul_of_nonpos_left above negative
        _ ≤ total.xyz.axis axis := low
    · apply (div_le_iff₀ floor).mpr
      calc total.xyz.axis axis ≤ hi.axis axis * total.w := high
        _ ≤ hi.axis axis * max total.w 0.0001 := mul_le_mul_of_nonneg_left above positive
  · intro none
    apply Vec3.eq_of_axes
    intro axis
    have unlit : total.w = 0 := none
    rcases weighted.between axis with ⟨low, high⟩
    rw [unlit, mul_zero] at low high
    rw [own, le_antisymm high low, zero_div, Vec3.axis_splat]

theorem isMean_sample {s : AtlasSampler ℝ} {pos normal : Vec3 ℝ} {threshold : ℝ} {light : Vec4 ℝ}
    (plain : s.constants.isDebug = false) (dark : Between (lo, hi) (.splat 0))
    (lit : ∀ texel ∈ s.lighting.data, Between (lo, hi) texel.xyz)
    (ran : s.sample pos normal threshold = .ok light) : IsMean lo hi light := by
  rw [sample] at ran
  rcases bind_eq_ok.mp ran with ⟨chunk, -, ran⟩
  rcases bind_eq_ok.mp ran with ⟨entry, -, ran⟩
  rcases bind_eq_ok.mp ran with ⟨place, -, ran⟩
  split at ran
  · obtain rfl := Except.ok.inj ran
    exact isMean_zero dark
  rcases bind_eq_ok.mp ran with ⟨count, -, ran⟩
  split at ran
  · obtain rfl := Except.ok.inj ran
    exact isMean_zero dark
  rcases bind_eq_ok.mp ran with ⟨total, added, ran⟩
  have weighted : ∀ light ∈ total, IsWeighted lo hi light := by
    refine foldlM_keeps (fun total => ∀ light ∈ total, IsWeighted lo hi light) ?_ ?_ added
    · exact fun i _ before after weighted ran => isWeighted_addObject lit weighted ran
    · exact fun _ member => absurd member (Option.not_mem_none _)
  cases total with
  | none =>
      obtain rfl := Except.ok.inj ran
      exact isMean_zero dark
  | some total =>
      obtain rfl := Except.ok.inj ran
      exact isMean_resolve plain dark (weighted total rfl)

end Results

end AtlasSampler

section Lists

/-- The words from a place on are the length of a list and the list. -/
structure CulledLists.IsList (lists : CulledLists) (place : Nat) (addresses : List Nat) : Prop where
  count : lists.words[place]? = some addresses.length
  entries : ∀ k < addresses.length, lists.words[place + 1 + k]? = addresses[k]?
  words : place + addresses.length < 4294967296

namespace AtlasSampler

/-- The objects that are listed for the chunk of a point, none where there is no list. -/
def Lists (s : AtlasSampler ℝ) (pos : Vec3 ℝ) (addresses : List Nat) : Prop :=
  ∃ chunk entry place, s.constants.chunkCoords pos = .ok chunk ∧
    s.constants.chunkAddress chunk = .ok entry ∧ s.lists.chunks[entry]? = some place ∧
    (place = 0 ∧ addresses = [] ∨ place ≠ 0 ∧ s.lists.IsList place addresses)

noncomputable def lightOf (s : AtlasSampler ℝ) (pos normal : Vec3 ℝ) (threshold : ℝ) (address : Nat) :
    Except Fault (Option (Vec4 ℝ)) := do
  let object ← ObjectRecord.read s.objects address
  if !isNear object pos threshold then return none
  return some (← s.sampleObject object address pos normal threshold)

noncomputable def merge (total : Option (Vec4 ℝ)) : Option (Vec4 ℝ) → Option (Vec4 ℝ)
  | none => total
  | some light => some (total.getD .zero + light)

noncomputable def finish (a : AtlasConstants ℝ) : Option (Vec4 ℝ) → Vec4 ℝ
  | none => .zero
  | some total => resolve a total

variable {s : AtlasSampler ℝ} {pos normal : Vec3 ℝ} {threshold : ℝ} {total total' : Option (Vec4 ℝ)}
  {address : Nat} {addresses addresses' : List Nat}

theorem addLight_eq_ok : s.addLight pos normal threshold total address = .ok total' ↔
    ∃ light, s.lightOf pos normal threshold address = .ok light ∧ total' = merge total light := by
  have split : s.addLight pos normal threshold total address =
      (do return merge total (← s.lightOf pos normal threshold address)) := by
    rw [addLight, lightOf, bind_assoc]
    refine bind_congr fun object => ?_
    split
    · rfl
    · cases s.sampleObject object address pos normal threshold <;> rfl
  rw [split, bind_eq_ok]
  simp only [pure_eq_ok, Except.ok.injEq, eq_comm]

theorem merge_swap (total a b : Option (Vec4 ℝ)) :
    merge (merge total a) b = merge (merge total b) a := by
  cases a with
  | none => rfl
  | some a =>
      cases b with
      | none => rfl
      | some b =>
          simp only [merge, Option.getD_some, Vec4.add_eq, Option.some.injEq, Vec4.mk.injEq]
          refine ⟨?_, ?_, ?_, ?_⟩
          all_goals ring

theorem sample_of_lists (lists : s.Lists pos addresses) : s.sample pos normal threshold =
    if s.constants.objectsCount < addresses.length then .ok .zero
    else do
      return finish s.constants (← addresses.foldlM (s.addLight pos normal threshold) none) := by
  rcases lists with ⟨chunk, entry, place, coords, addressed, held, list⟩
  rw [sample, coords, ok_bind, addressed, ok_bind, fetch_eq_ok.mpr held, ok_bind]
  rcases list with ⟨rfl, rfl⟩ | ⟨nonzero, list⟩
  · rw [if_pos rfl]
    rfl
  · rw [if_neg nonzero, fetch_eq_ok.mpr list.count, ok_bind]
    split
    · rfl
    · refine congrArg₂ bind (foldlM_addObject list.words list.entries) ?_
      funext total
      cases total <;> rfl

theorem sample_of_perm {lists : CulledLists} (listed : s.Lists pos addresses)
    (listed' : { s with lists := lists }.Lists pos addresses') (perm : addresses.Perm addresses')
    {light : Vec4 ℝ} (ran : s.sample pos normal threshold = .ok light) :
    { s with lists := lists }.sample pos normal threshold = .ok light := by
  have own : { s with lists := lists }.addLight pos normal threshold =
      s.addLight pos normal threshold := rfl
  rw [sample_of_lists listed] at ran
  rw [sample_of_lists listed', own, ← perm.length_eq]
  split at ran
  · rename_i many
    rwa [if_pos many]
  · rename_i few
    rw [if_neg few]
    rcases bind_eq_ok.mp ran with ⟨total, added, finished⟩
    refine bind_eq_ok.mpr ⟨total, foldlM_perm ?_ perm added, finished⟩
    intro before i j t u first second
    rcases addLight_eq_ok.mp first with ⟨a, lightI, rfl⟩
    rcases addLight_eq_ok.mp second with ⟨b, lightJ, rfl⟩
    exact ⟨_, addLight_eq_ok.mpr ⟨b, lightJ, rfl⟩,
      addLight_eq_ok.mpr ⟨a, lightI, merge_swap _ _ _⟩⟩

end AtlasSampler

end Lists

section Totality

structure TileRecord.IsInAtlas (tile : TileRecord ℝ) : Prop where
  left : 0 ≤ tile.atlasRect.x
  top : 0 ≤ tile.atlasRect.y
  width : 0 ≤ tile.atlasRect.z
  height : 0 ≤ tile.atlasRect.w
  right : tile.atlasRect.x + tile.atlasRect.z ≤ 1
  bottom : tile.atlasRect.y + tile.atlasRect.w ≤ 1

namespace AtlasSampler

section Definitions

variable (s : AtlasSampler ℝ)

/-- The record of an object can be read, and that of each tile that it has, which is in the atlas. -/
def IsReadable (address : Nat) : Prop :=
  ∃ object, ObjectRecord.read s.objects address = .ok object ∧
    ∀ dir < directionsCount, object.tileOffset dir ≠ 0 → ∃ tile : TileRecord ℝ,
      (do TileRecord.read s.objects (← Word.add address (object.tileOffset dir))) = .ok tile ∧
        tile.IsInAtlas

/-- All that a sampler reads is there: an entry for each chunk, the lists that the entries tell, the
records of the objects in a list unless it is longer than there are objects, and the texels. -/
structure IsServed : Prop where
  chunks : 0 < s.constants.chunkResolution
  entries : s.constants.chunkResolution * s.constants.chunkResolution *
    s.constants.chunkResolution ≤ s.lists.chunks.size
  words : s.lists.chunks.size < 4294967296
  lists : ∀ place ∈ s.lists.chunks, place ≠ 0 → ∃ addresses, s.lists.IsList place addresses ∧
    (addresses.length ≤ s.constants.objectsCount → ∀ address ∈ addresses, s.IsReadable address)
  resolution : 0 < s.constants.resolution
  texels : s.constants.resolution * s.constants.resolution ≤ 4294967296
  depth : s.depth.IsSquare s.constants.resolution
  lighting : s.lighting.IsSquare s.constants.resolution

end Definitions

variable {s : AtlasSampler ℝ} {pos normal : Vec3 ℝ} {threshold : ℝ}

theorem tilePosition_within (a : AtlasConstants ℝ) {tile : TileRecord ℝ} (inAtlas : tile.IsInAtlas)
    (tilePos : Vec3 ℝ) :
    (0 ≤ (tilePosition a tile tilePos).x ∧ (tilePosition a tile tilePos).x ≤ a.resolution) ∧
      0 ≤ (tilePosition a tile tilePos).y ∧ (tilePosition a tile tilePos).y ≤ a.resolution := by
  have inside : ∀ {u low size : ℝ}, 0 ≤ u → u ≤ 1 → 0 ≤ low → 0 ≤ size → low + size ≤ 1 →
      0 ≤ (u * size + low) * a.resolution ∧ (u * size + low) * a.resolution ≤ a.resolution := by
    intro u low size start ends first positive last
    have part : u * size ≤ size := mul_le_of_le_one_left positive ends
    constructor
    · positivity
    · exact mul_le_of_le_one_left (Nat.cast_nonneg _) (by linarith)
  have moved : ∀ u : ℝ, 0 ≤ min (max u 0) 1 ∧ min (max u 0) 1 ≤ 1 :=
    fun u => ⟨le_min (le_max_right _ _) zero_le_one, min_le_right _ _⟩
  have cut : ∀ u : ℝ, 0 ≤ u → u ≤ 1 → 0 ≤ min u 0.999999 ∧ min u 0.999999 ≤ 1 := by
    intro u low high
    exact ⟨le_min low (by norm_num), (min_le_left _ _).trans high⟩
  simp only [tilePosition, Vec2.confine, Vec2.zipWith, Vec2.map, Vec2.splat, Vec4.xy, Vec4.zw,
    Vec2.mul_eq, Vec2.add_eq, Vec2.scale_eq, maxNum_real, minNum_real, real_zero, real_one, ofNat_real]
  constructor
  · rcases moved ((tilePos.xy / tile.viewBounds.xy).shift 0.5).x with ⟨low, high⟩
    rcases cut _ low high with ⟨low, high⟩
    exact inside low high inAtlas.left inAtlas.width inAtlas.right
  · rcases moved ((tilePos.xy / tile.viewBounds.xy).shift 0.5).y with ⟨low, high⟩
    rcases cut _ (sub_nonneg.mpr high) (sub_le_self 1 low) with ⟨low, high⟩
    exact inside low high inAtlas.top inAtlas.height inAtlas.bottom

namespace IsServed

variable (served : s.IsServed)

include served

theorem sampleTile_ends {tile : TileRecord ℝ} {share : ℝ} (inAtlas : tile.IsInAtlas) :
    ∃ light, s.sampleTile tile pos normal share threshold = .ok light := by
  rcases tilePosition_within s.constants inAtlas (tile.worldToLocal.point pos) with ⟨x, y⟩
  exact AtlasSampler.sampleTile_ends
    (served.depth.gather_ends served.resolution served.texels _ x y)
    (served.lighting.gather_ends served.resolution served.texels _ x y)

theorem addLight_ends {address : Nat} (readable : s.IsReadable address)
    (total : Option (Vec4 ℝ)) :
    ∃ total', s.addLight pos normal threshold total address = .ok total' := by
  rcases readable with ⟨object, read, tiles⟩
  rw [addLight, read, ok_bind]
  split
  · exact ⟨_, rfl⟩
  · refine bind_ends ?_ fun light => ⟨_, rfl⟩
    apply foldlM_ends_of_each
    intro dir listed sum
    split
    · rename_i sampled
      rw [isSampled, Bool.and_eq_true, decide_eq_true_eq] at sampled
      rcases tiles dir (List.mem_range.mp listed) sampled.1 with ⟨tile, found, inAtlas⟩
      rcases bind_eq_ok.mp found with ⟨place, added, found⟩
      rw [added, ok_bind, found, ok_bind]
      exact bind_ends (served.sampleTile_ends inAtlas) fun light => ⟨_, rfl⟩
    · exact ⟨_, rfl⟩

theorem exists_lists (pos : Vec3 ℝ) : ∃ addresses, s.Lists pos addresses ∧
    (addresses.length ≤ s.constants.objectsCount → ∀ address ∈ addresses, s.IsReadable address) := by
  have counted := served.chunks
  have words := served.entries.trans_lt served.words
  have short : s.constants.chunkResolution < 4294967296 :=
    calc s.constants.chunkResolution
        ≤ s.constants.chunkResolution * s.constants.chunkResolution :=
          Nat.le_mul_of_pos_right _ counted
      _ ≤ s.constants.chunkResolution * s.constants.chunkResolution * s.constants.chunkResolution :=
          Nat.le_mul_of_pos_right _ counted
      _ < 4294967296 := words
  have below := AtlasConstants.chunkAt_lt counted
  have inside : Inside s.constants.chunkResolution ⟨s.constants.chunkAt s.constants.viewPos.x pos.x,
      s.constants.chunkAt s.constants.viewPos.y pos.y,
      s.constants.chunkAt s.constants.viewPos.z pos.z⟩ := ⟨below _ _, below _ _, below _ _⟩
  have early := (placeOf_lt inside).trans_le served.entries
  rcases fetch_of_lt early with ⟨place, held⟩
  have entry := fetch_eq_ok.mp held
  have found : ∀ addresses, (place = 0 ∧ addresses = [] ∨
      place ≠ 0 ∧ s.lists.IsList place addresses) → s.Lists pos addresses := fun addresses list =>
    ⟨_, _, place, AtlasConstants.chunkCoords_eq counted short, chunkAddress_of_lt inside words, entry,
      list⟩
  by_cases zero : place = 0
  · exact ⟨[], found _ (.inl ⟨zero, rfl⟩), fun _ _ member => absurd member List.not_mem_nil⟩
  · rcases served.lists place (Array.mem_of_getElem? entry) zero with ⟨addresses, list, readable⟩
    exact ⟨addresses, found _ (.inr ⟨zero, list⟩), readable⟩

theorem sample_ends : ∃ light, s.sample pos normal threshold = .ok light := by
  rcases served.exists_lists pos with ⟨addresses, listed, readable⟩
  rw [sample_of_lists listed]
  split
  · exact ⟨_, rfl⟩
  · rename_i few
    refine bind_ends ?_ fun total => ⟨_, rfl⟩
    apply foldlM_ends_of_each
    intro address member total
    exact served.addLight_ends (readable (not_lt.mp few) address member) total

end IsServed

end AtlasSampler

end Totality

namespace AtlasSampler

/-- Sampling the surfaces never amplifies light. There is some light for every point where all that is
read is there; what is given lies between the same colours as what is stored, its weight is not
negative, and there is no colour without weight; and lists of the same objects in another order give
the same. -/
theorem sample_never_amplifies {s : AtlasSampler ℝ} {lo hi : Vec3 ℝ}
    (plain : s.constants.isDebug = false) (dark : Between (lo, hi) (.splat 0))
    (lit : ∀ texel ∈ s.lighting.data, Between (lo, hi) texel.xyz) (pos normal : Vec3 ℝ)
    (threshold : ℝ) :
    (s.IsServed → ∃ light, s.sample pos normal threshold = .ok light) ∧
    (∀ light, s.sample pos normal threshold = .ok light →
      Between (lo, hi) light.xyz ∧ 0 ≤ light.w ∧ (light.w = 0 → light.xyz = .splat 0)) ∧
    ∀ lists addresses addresses', s.Lists pos addresses →
      { s with lists := lists }.Lists pos addresses' → addresses.Perm addresses' → ∀ light,
        s.sample pos normal threshold = .ok light ↔
          { s with lists := lists }.sample pos normal threshold = .ok light := by
  refine ⟨fun served => served.sample_ends, ?_, ?_⟩
  · intro light ran
    have mean := isMean_sample plain dark lit ran
    exact ⟨mean.between, mean.weight, mean.dark⟩
  · intro lists addresses addresses' listed listed' perm light
    constructor
    · exact sample_of_perm listed listed' perm
    · exact sample_of_perm listed' listed perm.symm

section Glow

noncomputable def glowingBox : ObjectRecord ℝ := ⟨⟨0, 0, 0, 2⟩, ⟨0, 0, 6⟩, .identity, ⟨1, 1, 1⟩⟩

noncomputable def glowingTile (left : ℝ) : TileRecord ℝ :=
  ⟨⟨left, 0, 1 / 2, 1 / 2⟩, ⟨⟨-1, 0, 0, 0⟩, ⟨0, 1, 0, 0⟩, ⟨0, 0, -1, 1⟩⟩, ⟨2, 2, 2⟩⟩

noncomputable def glowingRecords : List (RecordWord ℝ) :=
  glowingBox.words 11 ++ (glowingTile 0).words ++ glowingBox.words 11 ++ (glowingTile (1 / 2)).words

noncomputable def glow : AtlasSampler ℝ where
  constants :=
    { (default : AtlasConstants ℝ) with
      resolution := 8
      chunkResolution := 1
      objectsCount := 2
      isDebug := false }
  objects := glowingRecords.toArray
  lists := ⟨#[1], #[0, 2, 0, 11]⟩
  depth := ⟨.replicate 64 0, .splat 8⟩
  lighting := ⟨.replicate 64 ⟨1, 2, 2, 0⟩, .splat 8⟩

theorem glowingTile_isInAtlas {left : ℝ} (low : 0 ≤ left) (high : left ≤ 1 / 2) :
    (glowingTile left).IsInAtlas := by
  constructor
  case left => exact low
  case top => exact le_refl (0 : ℝ)
  case width => norm_num [glowingTile]
  case height => norm_num [glowingTile]
  case right =>
    change left + 1 / 2 ≤ 1
    linarith
  case bottom => norm_num [glowingTile]

theorem tileOffset_glowingBox {dir : Nat} (present : dir < directionsCount)
    (some : glowingBox.tileOffset dir ≠ 0) : glowingBox.tileOffset dir = 6 := by
  rw [directionsCount] at present
  interval_cases dir
  case «4» => rfl
  all_goals exact absurd rfl some

theorem glow_reads {address : Nat} (member : address ∈ [0, 11]) :
    ObjectRecord.read glow.objects address = .ok glowingBox ∧ ∃ left : ℝ,
      TileRecord.read glow.objects (address + 6) = .ok (glowingTile left) ∧
        0 ≤ left ∧ left ≤ 1 / 2 := by
  simp only [List.mem_cons, List.not_mem_nil, or_false] at member
  rcases member with rfl | rfl
  · refine ⟨ObjectRecord.read_of_words (n := 11) ?_ (by decide), 0,
      TileRecord.read_of_words ?_ (by decide), by norm_num⟩
    all_goals
      intro k inside
      interval_cases k <;> rfl
  · refine ⟨ObjectRecord.read_of_words (n := 11) ?_ (by decide), 1 / 2,
      TileRecord.read_of_words ?_ (by decide), by norm_num⟩
    all_goals
      intro k inside
      interval_cases k <;> rfl

theorem glow_isReadable {address : Nat} (member : address ∈ [0, 11]) : glow.IsReadable address := by
  rcases glow_reads member with ⟨box, left, tile, low, high⟩
  refine ⟨glowingBox, box, fun dir present some => ⟨glowingTile left, ?_,
    glowingTile_isInAtlas low high⟩⟩
  have early : address + 6 < 4294967296 := by
    simp only [List.mem_cons, List.not_mem_nil, or_false] at member
    omega
  rw [tileOffset_glowingBox present some, Word.add_eq_ok.mpr ⟨rfl, early⟩, ok_bind, tile]

theorem glow_isList : glow.lists.IsList 1 [0, 11] := by
  refine ⟨rfl, ?_, by decide⟩
  intro k inside
  simp only [List.length_cons, List.length_nil] at inside
  interval_cases k <;> rfl

theorem glow_isServed : glow.IsServed := by
  constructor
  case chunks => exact (by decide : 0 < 1)
  case entries => exact (by decide : 1 * 1 * 1 ≤ 1)
  case words => exact (by decide : 1 < 4294967296)
  case resolution => exact (by decide : 0 < 8)
  case texels => exact (by decide : 8 * 8 ≤ 4294967296)
  case depth => exact ⟨rfl, by simp [glow]⟩
  case lighting => exact ⟨rfl, by simp [glow]⟩
  case lists =>
    intro place member nonzero
    obtain rfl : place = 1 := by simpa [glow] using member
    exact ⟨_, glow_isList, fun _ _ member => glow_isReadable member⟩

theorem glow_lists {words : Array Nat} {addresses : List Nat} (pos : Vec3 ℝ)
    (list : CulledLists.IsList ⟨#[1], words⟩ 1 addresses) :
    { glow with lists := ⟨#[1], words⟩ }.Lists pos addresses := by
  have some : 0 < glow.constants.chunkResolution := Nat.one_pos
  have only : ∀ view x : ℝ, glow.constants.chunkAt view x = 0 :=
    fun view x => Nat.lt_one_iff.mp (AtlasConstants.chunkAt_lt some view x)
  have coords : glow.constants.chunkCoords pos = .ok ⟨0, 0, 0⟩ := by
    rw [AtlasConstants.chunkCoords_eq some (by decide : 1 < 4294967296), only, only, only]
  exact ⟨_, 0, 1, coords, rfl, rfl, .inr ⟨one_ne_zero, list⟩⟩

/-- The light of two boxes that are listed one way round and the other. -/
theorem sample_never_amplifies_glow :
    ∃ light, glow.sample ⟨0, 0, 1⟩ ⟨0, 0, 1⟩ 1 = .ok light ∧
      Between (⟨0, 0, 0⟩, ⟨1, 2, 2⟩) light.xyz ∧ 0 ≤ light.w ∧
      { glow with lists := ⟨#[1], #[0, 2, 11, 0]⟩ }.sample ⟨0, 0, 1⟩ ⟨0, 0, 1⟩ 1 = .ok light := by
  have dark : Between (⟨0, 0, 0⟩, ⟨1, 2, 2⟩) (.splat 0) := by norm_num [Between, Vec3.splat]
  have lit : ∀ texel ∈ glow.lighting.data, Between (⟨0, 0, 0⟩, ⟨1, 2, 2⟩) texel.xyz := by
    intro texel member
    obtain rfl : texel = ⟨1, 2, 2, 0⟩ := by
      simpa [glow] using member
    norm_num [Between, Vec4.xyz]
  rcases sample_never_amplifies (s := glow) rfl dark lit ⟨0, 0, 1⟩ ⟨0, 0, 1⟩ 1
    with ⟨ends, mean, orders⟩
  have swapped : CulledLists.IsList ⟨#[1], #[0, 2, 11, 0]⟩ 1 [11, 0] := by
    refine ⟨rfl, ?_, by decide⟩
    intro k inside
    simp only [List.length_cons, List.length_nil] at inside
    interval_cases k <;> rfl
  rcases ends glow_isServed with ⟨light, sampled⟩
  rcases mean light sampled with ⟨between, weight, -⟩
  exact ⟨light, sampled, between, weight, (orders _ _ _ (glow_lists _ glow_isList)
    (glow_lists _ swapped) (List.Perm.swap 11 0 [])  light).mp sampled⟩

end Glow

end AtlasSampler

end IrradianceField
