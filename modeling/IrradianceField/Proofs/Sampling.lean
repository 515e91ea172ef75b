import IrradianceField.Proofs.Fetching
import IrradianceField.Proofs.Furnace
import IrradianceField.Radiance.Lighting

/-!
Sampling of filled tiles: the weights of the probes cancel, whatever they are, as long as one of the
eight probes around a point has any.
-/

namespace IrradianceField

open Scalar

/-- A probe is one of the eight at the corners of the cell of the grid that a point is in, wherever
the probes have been moved to. -/
def Volume.Surrounds (v : Volume ℝ) (cascade index : Nat) (pos : Vec3 ℝ) : Prop :=
  ∃ spacing base, v.spacing cascade = .ok spacing ∧
    v.basePosition cascade (v.grid.coordsAt index) = .ok base ∧
    (base.x - spacing ≤ pos.x ∧ pos.x < base.x + spacing) ∧
    (base.y - spacing ≤ pos.y ∧ pos.y < base.y + spacing) ∧
    base.z - spacing ≤ pos.z ∧ pos.z < base.z + spacing

namespace Sampler

section Cells

variable {n : Nat} {center pos spacing : ℝ}

noncomputable def cellOf (n : Nat) (center spacing pos : ℝ) : Nat :=
  min (toNat (maxNum (floor ((pos - (center - ((n - 1 : Nat) : ℝ) * spacing * 0.5)) / spacing)) 0.0))
    (n - 2)

theorem cellOf_le (two : 2 ≤ n) (center spacing pos : ℝ) : cellOf n center spacing pos + 2 ≤ n := by
  rw [cellOf]
  omega

theorem cellOf_bounds (positive : 0 < spacing) (two : 2 ≤ n) (short : n < 2147483648)
    (inside : spacing * 0.5 ≤ ((n - 1 : Nat) : ℝ) * spacing * 0.5 - |pos - center|) :
    center - ((n - 1 : Nat) : ℝ) * spacing * 0.5 + cellOf n center spacing pos * spacing ≤ pos ∧
      pos < center - ((n - 1 : Nat) : ℝ) * spacing * 0.5 +
        (cellOf n center spacing pos + 1) * spacing := by
  obtain ⟨low, high⟩ := abs_le.mp (le_of_sub_nonneg
    ((mul_nonneg positive.le (by norm_num)).trans inside) : |pos - center| ≤ _)
  have low' : -(((n - 1 : Nat) : ℝ) * spacing * 0.5 - spacing * 0.5) ≤ pos - center :=
    (abs_le.mp (by linarith)).1
  have high' : pos - center ≤ ((n - 1 : Nat) : ℝ) * spacing * 0.5 - spacing * 0.5 :=
    (abs_le.mp (by linarith)).2
  set q := (pos - (center - ((n - 1 : Nat) : ℝ) * spacing * 0.5)) / spacing with quotient
  have least : 0 ≤ q := div_nonneg (by linarith) positive.le
  have most : q < ((n - 1 : Nat) : ℝ) := by
    rw [quotient, div_lt_iff₀ positive]
    linarith
  have first : 0 ≤ ⌊q⌋ := Int.floor_nonneg.mpr least
  have last : ⌊q⌋ < ((n - 1 : Nat) : Int) := Int.floor_lt.mpr (by exact_mod_cast most)
  obtain ⟨k, found⟩ := Int.eq_ofNat_of_zero_le first
  have cell : cellOf n center spacing pos = k := by
    rw [cellOf, ← quotient, floor_real, found, maxNum_real, real_zero]
    rw [max_eq_left (by exact_mod_cast Nat.zero_le k), Int.cast_natCast, toNat_ofNat_real (by omega)]
    omega
  have above := Int.floor_le q
  have below := Int.lt_floor_add_one q
  rw [found] at above below
  push_cast at above below
  rw [quotient, le_div_iff₀ positive] at above
  rw [quotient, div_lt_iff₀ positive] at below
  rw [cell]
  constructor
  · linarith
  · linarith

theorem cellOf_near {j : Nat} (positive : 0 < spacing) (two : 2 ≤ n) (short : n < 2147483648)
    (inside : spacing * 0.5 ≤ ((n - 1 : Nat) : ℝ) * spacing * 0.5 - |pos - center|)
    (left : center + j * spacing - ((n - 1 : Nat) : ℝ) * spacing * 0.5 - spacing ≤ pos)
    (right : pos < center + j * spacing - ((n - 1 : Nat) : ℝ) * spacing * 0.5 + spacing) :
    cellOf n center spacing pos ≤ j ∧ j ≤ cellOf n center spacing pos + 1 := by
  obtain ⟨above, below⟩ := cellOf_bounds positive two short inside
  have first : (cellOf n center spacing pos : ℝ) < j + 1 := by
    apply lt_of_mul_lt_mul_right _ positive.le
    linarith
  have second : (j : ℝ) < cellOf n center spacing pos + 2 := by
    apply lt_of_mul_lt_mul_right _ positive.le
    linarith
  constructor
  · exact Nat.lt_succ_iff.mp (by exact_mod_cast first)
  · exact Nat.lt_succ_iff.mp (by exact_mod_cast second)

end Cells

structure IsReadable (s : Sampler ℝ) (cascade : Nat) (p : Placement ℝ) : Prop where
  placed : s.volume.placement cascade = .ok p
  spaced : 0 < p.spacing
  present : cascade < s.volume.grid.cascades
  counts : 2 ≤ s.volume.grid.counts.x ∧ 2 ≤ s.volume.grid.counts.y ∧ 2 ≤ s.volume.grid.counts.z
  small : s.volume.grid.IsSmall
  words : s.volume.grid.size < 4294967296
  slots : ∀ index < s.volume.grid.size, ∃ slot packed,
    s.volume.physicalIndex cascade index = .ok slot ∧
      s.volume.grid.slot cascade slot = .ok (cascade * s.volume.grid.size + slot) ∧
      s.probes[cascade * s.volume.grid.size + slot]? = some packed
  irradiance : s.irradiance.IsAtlas s.volume.grid irradianceResolution
  distance : s.distance.IsAtlas s.volume.grid distanceResolution

/-- All that is read of a cascade of probes is there, wherever it stands. -/
structure IsStocked (s : Sampler ℝ) (cascade : Nat) (p : Placement ℝ) : Prop where
  placed : s.volume.placement cascade = .ok p
  present : cascade < s.volume.grid.cascades
  counts : 2 ≤ s.volume.grid.counts.x ∧ 2 ≤ s.volume.grid.counts.y ∧ 2 ≤ s.volume.grid.counts.z
  small : s.volume.grid.IsSmall
  words : s.volume.grid.size < 4294967296
  slots : ∀ index < s.volume.grid.size, ∃ slot packed,
    s.volume.physicalIndex cascade index = .ok slot ∧
      s.volume.grid.slot cascade slot = .ok (cascade * s.volume.grid.size + slot) ∧
      s.probes[cascade * s.volume.grid.size + slot]? = some packed
  irradiance : s.irradiance.IsAtlas s.volume.grid irradianceResolution
  distance : s.distance.IsAtlas s.volume.grid distanceResolution

theorem IsReadable.stocked {s : Sampler ℝ} {cascade : Nat} {p : Placement ℝ}
    (readable : s.IsReadable cascade p) : s.IsStocked cascade p :=
  { readable with }

def IsFilled (s : Sampler ℝ) (cascade : Nat) (value : Vec4 ℝ) : Prop :=
  ∀ slot < s.volume.grid.size, ∀ packed : PackedProbe,
    s.probes[cascade * s.volume.grid.size + slot]? = some packed →
      (Probe.unpack packed : Probe ℝ).state ≠ .inactive →
        s.irradiance.IsFilledAt s.volume.grid cascade slot value

section Weighing

variable {α : Type} [Scalar α]

theorem probeValue_lookUp (s : Sampler α) (cascade : Nat) (coords : Vec3 Nat) (normal : Vec3 α) :
    s.probeValue cascade coords normal = (do
      let index ← s.volume.grid.probeIndex coords
      let slot ← s.volume.physicalIndex cascade index
      let texel ← s.volume.lookUp s.irradiance cascade slot irradianceResolution
        (Octahedral.encode normal)
      return texel.xyz.powPositive (s.volume.gamma * 0.5)) := by
  simp only [probeValue, Volume.lookUp, bind_assoc]

def weigh (s : Sampler α) (cascade : Nat) (coords offset : Vec3 Nat)
    (alpha pos biasedPos normal : Vec3 α) (total : WeightedSum α) :
    Except Fault (WeightedSum α) := do
  let weight ← s.probeWeight cascade coords offset alpha pos biasedPos normal
  if lt 0.0 weight then
    let value ← s.probeValue cascade coords normal
    return ⟨total.sum + value.scale weight, total.weight + weight⟩
  else return total

/-- What all probes around a point make of it, black if none of them counts. -/
def settle (total : WeightedSum α) : Vec3 α :=
  if le total.weight 0.0 then .zero
  else
    let irradiance := total.sum.divide total.weight
    (irradiance * irradiance).scale (2.0 * Scalar.pi)

theorem sampleCascade_settles (s : Sampler α) (cascade : Nat) (pos normal : Vec3 α) (bias : α) :
    s.sampleCascade cascade pos normal bias = (do
      let spacing ← s.volume.spacing cascade
      let counts := s.volume.grid.counts
      let gridMin := (← s.volume.center cascade) - (← s.volume.extent cascade)
      let viewDir := (s.volume.viewPos - pos).normalizeOrZero
      let biasedPos := pos + (normal.scale 0.2 + viewDir.scale 0.8).scale (0.75 * spacing * bias)
      let lastCell ← counts.mapM (Word.sub · 2)
      let cell := (((pos - gridMin).divide spacing).floor.zipWith maxNum .zero).toNat
      let base := cell.zipWith min lastCell
      let basePos := gridMin + (Vec3.ofNat base).scale spacing
      let alpha := ((biasedPos - basePos).divide spacing).confine .zero (.splat 1.0)
      settle <$> (List.range 8).foldlM (fun total corner => do
        let coords ← base.zipWithM Word.add (cornerOffset corner)
        let last ← counts.mapM (Word.sub · 1)
        s.weigh cascade (coords.zipWith min last) (cornerOffset corner) alpha pos biasedPos normal
          total) ⟨.zero, 0.0⟩) := by
  rw [sampleCascade]
  refine bind_congr fun spacing => bind_congr fun center => bind_congr fun extent =>
    bind_congr fun lastCell => ?_
  rw [map_eq_pure_bind]
  refine bind_congr fun total => ?_
  rw [settle]
  split
  · rfl
  · rfl

end Weighing

section Probes

variable {s : Sampler ℝ} {cascade index : Nat} {p : Placement ℝ} {coords : Vec3 Nat}
  {value : Vec4 ℝ}

theorem crush_pos {weight : ℝ} (positive : 0 < weight) : 0 < crush weight := by
  rw [crush]
  split
  · simp only [crushThreshold, sqr_real]
    positivity
  · exact positive

namespace IsStocked

theorem readProbe_ends (stocked : s.IsStocked cascade p) (inside : index < s.volume.grid.size) :
    ∃ probe : Probe ℝ, s.volume.readProbe s.probes cascade index = .ok probe := by
  obtain ⟨slot, packed, physical, placed, held⟩ := stocked.slots index inside
  rw [Volume.readProbe, physical, ok_bind, placed, ok_bind, fetch_eq_ok.mpr held]
  exact ⟨_, rfl⟩

theorem counts_pos (stocked : s.IsStocked cascade p) : 0 < s.volume.grid.counts.x ∧
    0 < s.volume.grid.counts.y ∧ 0 < s.volume.grid.counts.z := by
  obtain ⟨x, y, z⟩ := stocked.counts
  exact ⟨two_pos.trans_le x, two_pos.trans_le y, two_pos.trans_le z⟩

theorem probeWeight_ends (stocked : s.IsStocked cascade p)
    (inside : s.volume.grid.Contains coords) (offset : Vec3 Nat)
    (alpha pos biasedPos normal : Vec3 ℝ) :
    ∃ weight, s.probeWeight cascade coords offset alpha pos biasedPos normal = .ok weight ∧
      0 ≤ weight ∧ (0 < weight ↔
        s.volume.isActive s.probes cascade (s.volume.grid.indexAt coords) = true) := by
  have below := Grid.indexAt_lt inside
  obtain ⟨probe, read⟩ := stocked.readProbe_ends below
  have active : s.volume.isActive s.probes cascade (s.volume.grid.indexAt coords) =
      !probe.state.isInactive := by rw [Volume.isActive, read]
  rw [probeWeight_eq, Grid.probeIndex_of_contained stocked.words inside, ok_bind, read, ok_bind,
    active]
  cases probe.state.isInactive with
  | true => exact ⟨0, by simp, le_rfl, by simp⟩
  | false =>
      obtain ⟨slot, packed, physical, -, -⟩ := stocked.slots _ below
      obtain ⟨probePos, placed⟩ :=
        Volume.relocatedPosition_ends stocked.placed stocked.words below probe
      obtain ⟨moments, fetched⟩ := momentsTowards_ends stocked.distance stocked.present physical
        (biasedPos - probePos)
      simp only [Bool.false_eq_true, if_false, placed, ok_bind, fetched, pure_eq_ok, maxNum_real,
        Bool.not_false, iff_true]
      have positive : ∀ visible trilinear : ℝ,
          0 < crush (max visible 0.000001) * max trilinear 0.001 := by
        intro visible trilinear
        apply mul_pos
        · exact crush_pos (lt_max_of_lt_right (by norm_num))
        · exact lt_max_of_lt_right (by norm_num)
      exact ⟨_, rfl, (positive _ _).le, positive _ _⟩

theorem probeValue_ends (stocked : s.IsStocked cascade p) (inside : s.volume.grid.Contains coords)
    (normal : Vec3 ℝ) : ∃ value, s.probeValue cascade coords normal = .ok value := by
  obtain ⟨slot, packed, physical, -⟩ := stocked.slots _ (Grid.indexAt_lt inside)
  have below := Volume.physicalIndex_lt stocked.irradiance.sized physical
  obtain ⟨x, y⟩ := Octahedral.abs_encode_le normal
  have origin := Grid.tileOrigin_of_lt stocked.irradiance.sized stocked.present below
  rw [probeValue_lookUp, Grid.probeIndex_of_contained stocked.words inside, ok_bind, physical, ok_bind,
    Volume.lookUp_eq stocked.irradiance stocked.present below (by decide) origin x y]
  exact ⟨_, rfl⟩

end IsStocked

theorem IsReadable.probeValue_eq (readable : s.IsReadable cascade p) (filled : s.IsFilled cascade value)
    (inside : s.volume.grid.Contains coords)
    (awake : s.volume.isActive s.probes cascade (s.volume.grid.indexAt coords) = true)
    (normal : Vec3 ℝ) : s.probeValue cascade coords normal =
      .ok (value.xyz.powPositive (s.volume.gamma * 0.5)) := by
  obtain ⟨slot, packed, physical, held, state⟩ := Volume.stored_of_isActive awake
  have slotInside := Volume.physicalIndex_lt readable.irradiance.sized physical
  obtain ⟨origin, found, reads⟩ := filled slot slotInside packed held state
  obtain ⟨x, y⟩ := Octahedral.abs_encode_le normal
  obtain ⟨uv, around, at', gathered, tile⟩ := Volume.gather_of_tile readable.irradiance
    readable.present slotInside (by decide) found x y
  obtain ⟨first, top⟩ := Volume.tileCell_le irradianceResolution x y
  obtain ⟨colour, sampled, same⟩ := Texels.sampleBilinear_of_gather gathered
    (tile.all fun offset texel left above read => by
      rw [reads offset ⟨by omega, by omega⟩] at read
      rw [← Except.ok.inj read])
  rw [probeValue, Grid.probeIndex_of_contained readable.words inside, ok_bind, physical, ok_bind,
    at', ok_bind, sampled, ok_bind, same, pure_eq_ok]

end Probes

section Corners

theorem exists_corner (offset : Vec3 Nat) (x : offset.x ≤ 1) (y : offset.y ≤ 1)
    (z : offset.z ≤ 1) : ∃ corner < 8, cornerOffset corner = offset := by
  refine ⟨offset.x + 2 * offset.y + 4 * offset.z, by omega, ?_⟩
  obtain ⟨dx, dy, dz⟩ := offset
  simp only [cornerOffset, Vec3.mk.injEq] at x y z ⊢
  omega

theorem corner_contained {g : Grid} {base : Vec3 Nat} (x : base.x + 2 ≤ g.counts.x)
    (y : base.y + 2 ≤ g.counts.y) (z : base.z + 2 ≤ g.counts.z) (corner : Nat) :
    g.Contains ⟨base.x + (cornerOffset corner).x, base.y + (cornerOffset corner).y,
      base.z + (cornerOffset corner).z⟩ := by
  simp only [Grid.Contains, cornerOffset]
  omega

variable {f : WeightedSum ℝ → Nat → Except Fault (WeightedSum ℝ)} {u : Vec3 ℝ} (counts : Nat → Prop)

theorem weighed_of_corners (step : ∀ total : WeightedSum ℝ, ∀ corner < 8, ∃ weight ≥ 0,
      f total corner = .ok ⟨total.sum + u.scale weight, total.weight + weight⟩ ∧
        (counts corner → 0 < weight))
    (some : ∃ corner < 8, counts corner) :
    ∃ weight > 0, (List.range 8).foldlM f ⟨.zero, 0.0⟩ = .ok ⟨u.scale weight, weight⟩ := by
  obtain ⟨corner, below, counted⟩ := some
  obtain ⟨total, ran, ⟨nonneg, same⟩, seen⟩ := foldlM_ends (f := f) (l := List.range 8)
    (s := ⟨.zero, 0.0⟩) (fun done total => (0 ≤ total.weight ∧ total.sum = u.scale total.weight) ∧
      ∀ corner ∈ done, counts corner → 0 < total.weight) (by
    intro done corner rest total split kept
    obtain ⟨⟨nonneg, same⟩, seen⟩ := kept
    have below : corner < 8 := by
      apply List.mem_range.mp
      rw [split]
      exact List.mem_append_right _ List.mem_cons_self
    obtain ⟨weight, low, added, positive⟩ := step total corner below
    refine ⟨_, added, ⟨add_nonneg nonneg low, ?_⟩, ?_⟩
    · simp only [same, Vec3.add_eq, Vec3.scale_eq, mul_add]
    · intro other member counted
      cases List.mem_append.mp member with
      | inl before => exact add_pos_of_pos_of_nonneg (seen other before counted) low
      | inr last =>
          rw [List.mem_singleton.mp last] at counted
          exact add_pos_of_nonneg_of_pos nonneg (positive counted))
    ⟨⟨by simp, by simp [Vec3.zero, Vec3.splat, Vec3.scale_eq]⟩, by simp⟩
  refine ⟨total.weight, seen corner (List.mem_range.mpr below) counted, ?_⟩
  rw [ran, ← same]

theorem settle_of_corners (step : ∀ total : WeightedSum ℝ, ∀ corner < 8, ∃ weight ≥ 0,
      f total corner = .ok ⟨total.sum + u.scale weight, total.weight + weight⟩ ∧
        (counts corner → 0 < weight))
    (some : ∃ corner < 8, counts corner) :
    settle <$> (List.range 8).foldlM f ⟨.zero, 0.0⟩ = Except.ok ((u * u).scale (2 * Real.pi)) := by
  obtain ⟨weight, positive, ran⟩ := weighed_of_corners counts step some
  have heavy : le weight 0.0 = false := by simpa using positive
  have whole : (u.scale weight).divide weight = u := by
    simp only [Vec3.scale_eq, Vec3.divide_eq, mul_div_cancel_right₀ _ positive.ne']
  have settled : settle ⟨u.scale weight, weight⟩ = (u * u).scale (2 * Real.pi) := by
    rw [settle]
    dsimp only
    rw [heavy, whole, real_two]
    rfl
  rw [ran, ← settled]
  rfl

end Corners

section Cascades

variable {s : Sampler ℝ} {cascade : Nat} {p : Placement ℝ} {pos : Vec3 ℝ} {value : Vec4 ℝ}

/-- Where a cascade covers a point in full, it lies half a spacing inside of the grid. -/
theorem IsReadable.inside_of_fade (readable : s.IsReadable cascade p) {fade : ℝ}
    (faded : s.cascadeFade cascade pos = .ok fade) (full : 1 ≤ fade) :
    p.spacing * 0.5 ≤ ((s.volume.grid.counts.x - 1 : Nat) : ℝ) * p.spacing * 0.5 -
        |pos.x - (p.origin.x + p.scroll.x * p.spacing)| ∧
      p.spacing * 0.5 ≤ ((s.volume.grid.counts.y - 1 : Nat) : ℝ) * p.spacing * 0.5 -
        |pos.y - (p.origin.y + p.scroll.y * p.spacing)| ∧
      p.spacing * 0.5 ≤ ((s.volume.grid.counts.z - 1 : Nat) : ℝ) * p.spacing * 0.5 -
        |pos.z - (p.origin.z + p.scroll.z * p.spacing)| := by
  obtain ⟨x, y, z⟩ := readable.counts
  rw [cascadeFade, Volume.spacing_of_placement readable.placed, ok_bind,
    Volume.extent_of_placement readable.placed readable.stocked.counts_pos, ok_bind,
    Volume.center_of_placement readable.placed, ok_bind, pure_eq_ok, Except.ok.injEq] at faded
  subst faded
  have half : 0 < p.spacing * 0.5 := mul_pos readable.spaced (by norm_num)
  simp only [saturate, clampTo_real, real_one, real_zero, le_min_iff, le_refl, and_true, le_max_iff,
    not_le.mpr one_pos, or_false] at full
  rw [one_le_div half] at full
  simp only [Vec3.minElement, minNum_real, le_min_iff] at full
  exact full

theorem IsReadable.weigh_ends (readable : s.IsReadable cascade p) (filled : s.IsFilled cascade value)
    {coords : Vec3 Nat} (inside : s.volume.grid.Contains coords) (offset : Vec3 Nat)
    (alpha pos biasedPos normal : Vec3 ℝ) (total : WeightedSum ℝ) : ∃ weight ≥ 0,
      s.weigh cascade coords offset alpha pos biasedPos normal total =
        .ok ⟨total.sum + (value.xyz.powPositive (s.volume.gamma * 0.5)).scale weight,
          total.weight + weight⟩ ∧
      (s.volume.isActive s.probes cascade (s.volume.grid.indexAt coords) = true → 0 < weight) := by
  obtain ⟨weight, weighed, nonneg, counts⟩ :=
    readable.stocked.probeWeight_ends inside offset alpha pos biasedPos normal
  refine ⟨weight, nonneg, ?_, counts.mpr⟩
  rw [weigh, weighed, ok_bind]
  by_cases heavy : 0 < weight
  · rw [readable.probeValue_eq filled inside (counts.mp heavy)]
    simp only [lt_real, real_zero, heavy, decide_true, if_true, ok_bind, pure_eq_ok]
  · obtain rfl : weight = 0 := le_antisymm (not_lt.mp heavy) nonneg
    simp [Vec3.scale_eq, Vec3.add_eq]

noncomputable def cellAt (counts : Vec3 Nat) (p : Placement ℝ) (pos : Vec3 ℝ) : Vec3 Nat :=
  ⟨cellOf counts.x (p.origin.x + p.scroll.x * p.spacing) p.spacing pos.x,
    cellOf counts.y (p.origin.y + p.scroll.y * p.spacing) p.spacing pos.y,
    cellOf counts.z (p.origin.z + p.scroll.z * p.spacing) p.spacing pos.z⟩

theorem cellAt_eq (counts : Vec3 Nat) (p : Placement ℝ) (pos : Vec3 ℝ) :
    ((((pos - (p.origin + (Vec3.ofInt p.scroll).scale p.spacing -
      ((Vec3.ofNat (counts.map (· - 1))).scale p.spacing).scale 0.5)).divide p.spacing).floor.zipWith
        maxNum .zero).toNat.zipWith min (counts.map (· - 2))) = cellAt counts p pos := rfl

noncomputable def cornerAt (counts : Vec3 Nat) (p : Placement ℝ) (pos : Vec3 ℝ) (corner : Nat) :
    Vec3 Nat :=
  ⟨(cellAt counts p pos).x + (cornerOffset corner).x, (cellAt counts p pos).y + (cornerOffset corner).y,
    (cellAt counts p pos).z + (cornerOffset corner).z⟩

theorem IsReadable.corner_of_surrounds (readable : s.IsReadable cascade p) {fade : ℝ}
    (faded : s.cascadeFade cascade pos = .ok fade) (full : 1 ≤ fade) {index : Nat}
    (around : s.volume.Surrounds cascade index pos) :
    ∃ corner < 8, cornerAt s.volume.grid.counts p pos corner = s.volume.grid.coordsAt index := by
  obtain ⟨x, y, z⟩ := readable.counts
  obtain ⟨sx, sy, sz⟩ := readable.small
  obtain ⟨left, below, behind⟩ := readable.inside_of_fade faded full
  obtain ⟨_, _, spacing, placed, nearX, nearY, nearZ⟩ := around
  obtain rfl := Except.ok.inj ((Volume.spacing_of_placement readable.placed).symm.trans spacing)
  obtain rfl := Except.ok.inj ((Volume.basePosition_of_placement readable.placed
    readable.stocked.counts_pos _).symm.trans placed)
  simp only [Vec3.add_eq, Vec3.sub_eq, Vec3.scale_eq, Vec3.ofNat, Vec3.ofInt, Vec3.map, ofNat_real,
    ofInt_real] at nearX nearY nearZ
  obtain ⟨x₀, x₁⟩ := cellOf_near readable.spaced x sx left nearX.1 nearX.2
  obtain ⟨y₀, y₁⟩ := cellOf_near readable.spaced y sy below nearY.1 nearY.2
  obtain ⟨z₀, z₁⟩ := cellOf_near readable.spaced z sz behind nearZ.1 nearZ.2
  set base := cellAt s.volume.grid.counts p pos with cell
  obtain ⟨corner, few, offset⟩ := exists_corner ⟨(s.volume.grid.coordsAt index).x - base.x,
    (s.volume.grid.coordsAt index).y - base.y, (s.volume.grid.coordsAt index).z - base.z⟩
    (Nat.sub_le_iff_le_add'.mpr x₁) (Nat.sub_le_iff_le_add'.mpr y₁) (Nat.sub_le_iff_le_add'.mpr z₁)
  refine ⟨corner, few, ?_⟩
  rw [cornerAt, ← cell, offset]
  dsimp only
  rw [Nat.add_sub_cancel' (show base.x ≤ _ from x₀), Nat.add_sub_cancel' (show base.y ≤ _ from y₀),
    Nat.add_sub_cancel' (show base.z ≤ _ from z₀)]

theorem IsStocked.corner_ends (stocked : s.IsStocked cascade p) (pos : Vec3 ℝ) (corner : Nat) :
    s.volume.grid.Contains (cornerAt s.volume.grid.counts p pos corner) ∧
      (cellAt s.volume.grid.counts p pos).zipWithM Word.add (cornerOffset corner) =
        .ok (cornerAt s.volume.grid.counts p pos corner) ∧
      s.volume.grid.counts.mapM (Word.sub · 1) = .ok (s.volume.grid.counts.map (· - 1)) ∧
      (cornerAt s.volume.grid.counts p pos corner).zipWith min (s.volume.grid.counts.map (· - 1)) =
        cornerAt s.volume.grid.counts p pos corner := by
  obtain ⟨x, y, z⟩ := stocked.counts
  obtain ⟨sx, sy, sz⟩ := stocked.small
  have inside : s.volume.grid.Contains (cornerAt s.volume.grid.counts p pos corner) :=
    corner_contained (cellOf_le x _ _ _) (cellOf_le y _ _ _) (cellOf_le z _ _ _) corner
  obtain ⟨inX, inY, inZ⟩ := inside
  refine ⟨⟨inX, inY, inZ⟩, ?_, ?_, ?_⟩
  · exact Vec3.zipWithM_add_of_lt (inX.trans (by omega)) (inY.trans (by omega))
      (inZ.trans (by omega))
  · exact Vec3.mapM_sub_of_le (by omega)
  · simp only [Vec3.zipWith, Vec3.map, min_eq_left (Nat.le_sub_one_of_lt inX),
      min_eq_left (Nat.le_sub_one_of_lt inY), min_eq_left (Nat.le_sub_one_of_lt inZ)]

theorem IsStocked.sampleCascade_eq (stocked : s.IsStocked cascade p) (pos normal : Vec3 ℝ)
    (bias : ℝ) : ∃ alpha biasedPos, s.sampleCascade cascade pos normal bias =
      settle <$> (List.range 8).foldlM (fun total corner =>
        s.weigh cascade (cornerAt s.volume.grid.counts p pos corner) (cornerOffset corner) alpha pos
          biasedPos normal total) ⟨.zero, 0.0⟩ := by
  have lastCell := Vec3.mapM_sub_of_le stocked.counts
  rw [sampleCascade_settles, Volume.spacing_of_placement stocked.placed, ok_bind]
  dsimp only
  rw [Volume.center_of_placement stocked.placed, ok_bind,
    Volume.extent_of_placement stocked.placed stocked.counts_pos, ok_bind, lastCell, ok_bind,
    cellAt_eq]
  apply Exists.intro
  apply Exists.intro
  apply congrArg
  apply foldlM_congr
  intro corner _ total
  obtain ⟨-, added, cut, same⟩ := stocked.corner_ends pos corner
  rw [added, ok_bind, cut, ok_bind, same]

/-- A filled cascade shows the same irradiance wherever it covers a point in full and one of the
eight probes around the point is not inactive. -/
theorem IsReadable.sampleCascade_eq (readable : s.IsReadable cascade p)
    (filled : s.IsFilled cascade value) {fade : ℝ}
    (faded : s.cascadeFade cascade pos = .ok fade) (full : 1 ≤ fade)
    (seen : ∃ index, s.volume.isActive s.probes cascade index = true ∧
      s.volume.Surrounds cascade index pos) (normal : Vec3 ℝ) (bias : ℝ) :
    s.sampleCascade cascade pos normal bias =
      .ok ((value.xyz.powPositive (s.volume.gamma * 0.5) *
        value.xyz.powPositive (s.volume.gamma * 0.5)).scale (2 * Real.pi)) := by
  rcases readable.stocked.sampleCascade_eq pos normal bias with ⟨alpha, biasedPos, corners⟩
  rw [corners]
  refine settle_of_corners (fun corner => s.volume.isActive s.probes cascade
    (s.volume.grid.indexAt (cornerAt s.volume.grid.counts p pos corner)) = true) ?_ ?_
  · intro total corner few
    exact readable.weigh_ends filled (readable.stocked.corner_ends pos corner).1 _ _ _ _ _ total
  · obtain ⟨index, awake, around⟩ := seen
    obtain ⟨corner, few, same⟩ := readable.corner_of_surrounds faded full around
    refine ⟨corner, few, ?_⟩
    rw [same, Grid.indexAt_coordsAt, awake]

def Covers (s : Sampler ℝ) (cascade : Nat) (pos : Vec3 ℝ) : Prop :=
  (∀ earlier < cascade, ∃ fade ≤ 0, s.cascadeFade earlier pos = .ok fade) ∧
    ∃ fade ≥ 1, s.cascadeFade cascade pos = .ok fade

theorem sampleFrom_of_covers {normal light : Vec3 ℝ} {bias : ℝ} {first remaining : Nat}
    (uncovered : ∀ earlier, first ≤ earlier → earlier < cascade →
      ∃ fade ≤ 0, s.cascadeFade earlier pos = .ok fade)
    (covered : ∃ fade ≥ 1, s.cascadeFade cascade pos = .ok fade)
    (above : first ≤ cascade) (below : cascade < first + remaining)
    (sampled : s.sampleCascade cascade pos normal bias = .ok light) :
    s.sampleFrom pos normal bias remaining first = .ok light := by
  induction remaining generalizing first with
  | zero => omega
  | succ remaining ih =>
      rw [sampleFrom]
      obtain rfl | later := above.eq_or_lt
      · obtain ⟨fade, full, faded⟩ := covered
        have some : 0 < fade := one_pos.trans_le full
        rw [faded, ok_bind, sampled]
        simp only [lt_real, le_real, real_zero, real_one, some, full, decide_true, if_true, ok_bind,
          pure_eq_ok]
      · obtain ⟨fade, none, faded⟩ := uncovered first le_rfl later
        rw [faded, ok_bind]
        simp only [lt_real, real_zero, not_lt.mpr none, decide_false, Bool.false_eq_true, if_false]
        exact ih (fun earlier from' => uncovered earlier (by omega)) later (by omega)

theorem sample_of_covers {normal light : Vec3 ℝ} {bias : ℝ} (covers : s.Covers cascade pos)
    (present : cascade < s.volume.grid.cascades)
    (sampled : s.sampleCascade cascade pos normal bias = .ok light) :
    s.sample pos normal bias = .ok light :=
  sampleFrom_of_covers (fun earlier _ => covers.1 earlier) covers.2 (Nat.zero_le _)
    ((Nat.zero_add _).symm ▸ present) sampled

end Cascades

section Furnaces

variable {s : Sampler ℝ} {cascade : Nat} {p : Placement ℝ} {pos radiance : Vec3 ℝ}

/-- Decoding, squaring and the factor of a hemisphere undo the encoding, but for a factor of `π`. -/
theorem decode_encodedHalf (nonneg : radiance.IsNonneg) {gamma : ℝ} (positive : 0 < gamma) :
    (((encodedHalf radiance gamma).powPositive (gamma * 0.5) *
      (encodedHalf radiance gamma).powPositive (gamma * 0.5)).scale (2 * Real.pi)) =
        radiance.scale Real.pi := by
  have channel : ∀ {a : ℝ}, 0 ≤ a →
      (max ((a / 2) ^ (1 / gamma)) 0) ^ (gamma * 0.5) * (max ((a / 2) ^ (1 / gamma)) 0) ^
        (gamma * 0.5) * (2 * Real.pi) = a * Real.pi := by
    intro a low
    have half : 0 ≤ a / 2 := div_nonneg low two_pos.le
    have exponent : 1 / gamma * (gamma * 0.5) = 1 / 2 := by
      rw [real_half]
      field_simp
    rw [max_eq_left (Real.rpow_nonneg half _), ← Real.rpow_mul half, exponent, ← Real.sqrt_eq_rpow,
      Real.mul_self_sqrt half]
    ring
  obtain ⟨x, y, z⟩ := nonneg
  simp only [encodedHalf, Vec3.powPositive, Vec3.map, Vec3.mul_eq, Vec3.scale_eq, maxNum_real,
    real_zero]
  rw [Vec3.mk.injEq]
  exact ⟨channel x, channel y, channel z⟩

theorem IsReadable.sample_eq (readable : s.IsReadable cascade p) (nonneg : radiance.IsNonneg)
    (positive : 0 < s.volume.gamma)
    (filled : s.IsFilled cascade ((encodedHalf radiance s.volume.gamma).extend 1))
    (covers : s.Covers cascade pos)
    (seen : ∃ index, s.volume.isActive s.probes cascade index = true ∧
      s.volume.Surrounds cascade index pos) (normal : Vec3 ℝ) (bias : ℝ) :
    s.sample pos normal bias = .ok (radiance.scale Real.pi) := by
  obtain ⟨fade, full, faded⟩ := covers.2
  have sampled := readable.sampleCascade_eq filled faded full seen normal bias
  rw [← decode_encodedHalf nonneg positive]
  exact sample_of_covers covers readable.present sampled

end Furnaces

end Sampler

theorem Lighting.indirect_eq (albedo radiance : Vec3 ℝ) (intensity : ℝ) :
    indirect albedo (radiance.scale Real.pi) intensity = (albedo * radiance).scale intensity := by
  have share : ∀ a l : ℝ, a / Real.pi * (l * Real.pi) = a * l := by
    intro a l
    field_simp
  have pi : (Scalar.pi : ℝ) = Real.pi := rfl
  simp only [indirect, Vec3.divide_eq, Vec3.scale_eq, Vec3.mul_eq, pi, share]

end IrradianceField
