import IrradianceField.Proofs.Sampling

/-!
Supplying: sampling ends wherever the probes and the tiles that it asks for are there, for positions
and directions of any kind, since the cell that is read is one of the grid's own.
-/

namespace IrradianceField

open Scalar

theorem Texels.IsAtlas.slots_le {β : Type} {g : Grid} {resolution : Nat} {t : Texels β}
    (atlas : t.IsAtlas g resolution) :
    g.cascades * g.size * ((resolution + 2) * (resolution + 2)) ≤ 4294967296 := by
  have sized := (Grid.atlasSize_eq_ok.mp atlas.sized).1
  have texels := atlas.words
  rw [sized] at texels
  calc
    g.cascades * g.size * ((resolution + 2) * (resolution + 2)) = g.counts.x * (resolution + 2) *
        (g.counts.y * g.counts.z * (resolution + 2) * g.cascades) := by
      unfold Grid.size
      ring
    _ ≤ 4294967296 := texels

namespace Sampler

variable {α : Type} {s : Sampler α} {cascade index first remaining : Nat}
  {coords : Vec3 Nat}

/-- There are probes and tiles for all cascades, and those that are placed have not scrolled too
far. -/
structure IsSupplied (s : Sampler α) : Prop where
  counts : 2 ≤ s.volume.grid.counts.x ∧ 2 ≤ s.volume.grid.counts.y ∧ 2 ≤ s.volume.grid.counts.z
  fits : ∀ cascade < s.volume.grid.cascades, ∀ p, s.volume.placement cascade = .ok p →
    s.volume.grid.Fits p.scroll
  probes : s.volume.grid.cascades * s.volume.grid.size ≤ s.probes.size
  irradiance : s.irradiance.IsAtlas s.volume.grid irradianceResolution
  distance : s.distance.IsAtlas s.volume.grid distanceResolution

theorem cornerOffset_le (corner : Nat) : (cornerOffset corner).x ≤ 1 ∧
    (cornerOffset corner).y ≤ 1 ∧ (cornerOffset corner).z ≤ 1 := by
  simp only [cornerOffset]
  omega

section Supplies

namespace IsSupplied

variable (supplied : s.IsSupplied)

include supplied

theorem counts_pos : 0 < s.volume.grid.counts.x ∧ 0 < s.volume.grid.counts.y ∧
    0 < s.volume.grid.counts.z := by
  rcases supplied.counts with ⟨x, y, z⟩
  exact ⟨two_pos.trans_le x, two_pos.trans_le y, two_pos.trans_le z⟩

theorem slots_le : s.volume.grid.cascades * s.volume.grid.size ≤ 16777216 := by
  have few := supplied.distance.slots_le
  have side : (distanceResolution + 2) * (distanceResolution + 2) = 256 := rfl
  rw [side] at few
  omega

variable (present : cascade < s.volume.grid.cascades)

include present

theorem size_le : s.volume.grid.size ≤ 16777216 :=
  (Nat.le_mul_of_pos_left _ (Nat.zero_lt_of_lt present)).trans supplied.slots_le

theorem size_lt : s.volume.grid.size < 4294967296 :=
  (supplied.size_le present).trans_lt (by decide)

theorem counts_le : s.volume.grid.counts.x ≤ 16777216 ∧ s.volume.grid.counts.y ≤ 16777216 ∧
    s.volume.grid.counts.z ≤ 16777216 := by
  have few := supplied.size_le present
  rcases supplied.counts_pos with ⟨x, y, z⟩
  have plane : s.volume.grid.counts.x * s.volume.grid.counts.y ≤ s.volume.grid.size :=
    Nat.le_mul_of_pos_right _ z
  have columns : s.volume.grid.counts.x ≤ s.volume.grid.counts.x * s.volume.grid.counts.y :=
    Nat.le_mul_of_pos_right _ y
  have rows : s.volume.grid.counts.y ≤ s.volume.grid.counts.x * s.volume.grid.counts.y :=
    Nat.le_mul_of_pos_left _ x
  have layers : s.volume.grid.counts.z ≤ s.volume.grid.size :=
    Nat.le_mul_of_pos_left _ (Nat.mul_pos x y)
  omega

/-- Since there are two probes and more along each axis, no tile is far along any. -/
theorem origin_le {slot resolution : Nat} (inside : slot < s.volume.grid.size)
    (small : resolution ≤ distanceResolution) :
    slot % s.volume.grid.counts.x * (resolution + 2) ≤ 2 ^ 27 ∧
      (cascade * (s.volume.grid.counts.y * s.volume.grid.counts.z) +
        slot / s.volume.grid.counts.x) * (resolution + 2) ≤ 2 ^ 27 := by
  rcases supplied.counts with ⟨x, y, z⟩
  have few := supplied.slots_le
  have plane : 2 * 2 ≤ s.volume.grid.counts.y * s.volume.grid.counts.z := Nat.mul_le_mul y z
  have total : s.volume.grid.cascades * s.volume.grid.size =
      s.volume.grid.cascades * (s.volume.grid.counts.y * s.volume.grid.counts.z) *
        s.volume.grid.counts.x := by
    unfold Grid.size
    ring
  have rows : cascade * (s.volume.grid.counts.y * s.volume.grid.counts.z) +
      slot / s.volume.grid.counts.x <
        s.volume.grid.cascades * (s.volume.grid.counts.y * s.volume.grid.counts.z) :=
    calc
      _ < (cascade + 1) * (s.volume.grid.counts.y * s.volume.grid.counts.z) := by
        rw [Nat.succ_mul]
        exact Nat.add_lt_add_left (Grid.slot_row_lt inside) _
      _ ≤ _ := Nat.mul_le_mul_right _ present
  have columns := Nat.mod_lt slot (two_pos.trans_le x)
  have layers : 4 ≤ s.volume.grid.cascades * (s.volume.grid.counts.y * s.volume.grid.counts.z) :=
    plane.trans (Nat.le_mul_of_pos_left _ (Nat.zero_lt_of_lt present))
  generalize s.volume.grid.cascades * (s.volume.grid.counts.y * s.volume.grid.counts.z) = height
    at total rows layers
  have wide : 4 * s.volume.grid.counts.x ≤ height * s.volume.grid.counts.x :=
    Nat.mul_le_mul_right _ layers
  have high : height * 2 ≤ height * s.volume.grid.counts.x := Nat.mul_le_mul_left _ x
  have side : resolution + 2 ≤ 16 := Nat.add_le_add_right small 2
  constructor
  · calc
      _ ≤ 4194304 * 16 := Nat.mul_le_mul (by omega) side
      _ ≤ 2 ^ 27 := by decide
  · calc
      _ ≤ 8388608 * 16 := Nat.mul_le_mul (by omega) side
      _ ≤ 2 ^ 27 := by decide

variable (listed : cascade < maxCascades)

include listed

theorem slot_ends (inside : index < s.volume.grid.size) : ∃ slot < s.volume.grid.size, ∃ packed,
    s.volume.physicalIndex cascade index = .ok slot ∧
      s.volume.grid.slot cascade slot = .ok (cascade * s.volume.grid.size + slot) ∧
      fetch s.probes (cascade * s.volume.grid.size + slot) = .ok packed := by
  rcases Volume.placement_of_lt (v := s.volume) listed with ⟨p, placed⟩
  have fits : s.volume.grid.Fits (s.volume.scrollOf cascade) := by
    rw [Volume.scrollOf_eq placed]
    exact supplied.fits cascade present p placed
  have words := supplied.size_lt present
  have few := supplied.slots_le
  have later : (cascade + 1) * s.volume.grid.size ≤ s.volume.grid.cascades * s.volume.grid.size :=
    Nat.mul_le_mul_right _ present
  have total : (cascade + 1) * s.volume.grid.size = cascade * s.volume.grid.size +
    s.volume.grid.size := Nat.succ_mul ..
  have plane : s.volume.grid.counts.x * s.volume.grid.counts.y ≤ s.volume.grid.size :=
    Nat.le_mul_of_pos_right _ supplied.counts_pos.2.2
  have counted : s.volume.grid.probesPerCascade = .ok s.volume.grid.size :=
    Grid.probesPerCascade_eq_ok.mpr ⟨rfl, plane.trans_lt words, words⟩
  have below : s.volume.grid.slotAt (s.volume.scrollOf cascade) index < s.volume.grid.size :=
    Grid.slotAt_lt inside
  have room : cascade * s.volume.grid.size +
      s.volume.grid.slotAt (s.volume.scrollOf cascade) index < s.probes.size := by
    have probes := supplied.probes
    omega
  rcases fetch_of_lt room with ⟨packed, held⟩
  refine ⟨_, below, packed, ?_, Grid.slot_of_lt counted below (by omega), held⟩
  rw [Volume.physicalIndex, Grid.probeCoords_of_lt words inside, ok_bind,
    Volume.wrappedIndex_of_fits listed words fits (Grid.coordsAt_contained inside)]
  rfl

end IsSupplied

end Supplies

section Readings

variable [Scalar α]

/-- Something is found in the tiles of each slot, whatever direction is looked in. -/
def Finds (s : Sampler α) : Prop :=
  ∀ cascade < s.volume.grid.cascades, ∀ slot < s.volume.grid.size, ∀ way : Vec3 α,
    (∃ texel, s.volume.lookUp s.irradiance cascade slot irradianceResolution
      (Octahedral.encode way) = .ok texel) ∧
    ∃ texel, s.volume.lookUp s.distance cascade slot distanceResolution
      (Octahedral.encode way) = .ok texel

namespace IsSupplied

variable (supplied : s.IsSupplied) (present : cascade < s.volume.grid.cascades)
  (listed : cascade < maxCascades)

include supplied listed

theorem cascadeFade_ends (pos : Vec3 α) : ∃ fade, s.cascadeFade cascade pos = .ok fade := by
  rcases Volume.placement_of_lt (v := s.volume) listed with ⟨p, placed⟩
  rw [cascadeFade, Volume.spacing_of_placement placed, ok_bind,
    Volume.extent_of_placement placed supplied.counts_pos, ok_bind,
    Volume.center_of_placement placed, ok_bind]
  exact ⟨_, rfl⟩

include present

theorem readProbe_ends (inside : index < s.volume.grid.size) :
    ∃ probe : Probe α, s.volume.readProbe s.probes cascade index = .ok probe := by
  rcases supplied.slot_ends present listed inside with ⟨slot, -, packed, physical, placed, held⟩
  rw [Volume.readProbe, physical, ok_bind, placed, ok_bind, held]
  exact ⟨_, rfl⟩

variable (finds : s.Finds)

include finds

theorem probeWeight_ends (inside : s.volume.grid.Contains coords) (offset : Vec3 Nat)
    (alpha pos biasedPos normal : Vec3 α) :
    ∃ weight, s.probeWeight cascade coords offset alpha pos biasedPos normal = .ok weight := by
  have below := Grid.indexAt_lt inside
  have words := supplied.size_lt present
  rcases Volume.placement_of_lt (v := s.volume) listed with ⟨p, placed⟩
  rcases supplied.readProbe_ends present listed below with ⟨probe, read⟩
  rw [probeWeight_eq, Grid.probeIndex_of_contained words inside, ok_bind, read, ok_bind]
  split
  · exact ⟨_, rfl⟩
  · rcases Volume.relocatedPosition_ends placed words below probe with ⟨probePos, moved⟩
    rcases supplied.slot_ends present listed below with ⟨slot, within, -, physical, -⟩
    rcases (finds cascade present slot within (biasedPos - probePos).normalizeOrZero).2
      with ⟨texel, found⟩
    rw [moved, ok_bind, momentsTowards_eq, physical, ok_bind, found]
    exact ⟨_, rfl⟩

theorem probeValue_ends (inside : s.volume.grid.Contains coords) (normal : Vec3 α) :
    ∃ value, s.probeValue cascade coords normal = .ok value := by
  rcases supplied.slot_ends present listed (Grid.indexAt_lt inside)
    with ⟨slot, within, -, physical, -⟩
  rcases (finds cascade present slot within normal).1 with ⟨texel, found⟩
  rw [probeValue_lookUp, Grid.probeIndex_of_contained (supplied.size_lt present) inside, ok_bind,
    physical, ok_bind, found]
  exact ⟨_, rfl⟩

theorem weigh_ends (inside : s.volume.grid.Contains coords) (offset : Vec3 Nat)
    (alpha pos biasedPos normal : Vec3 α) (total : WeightedSum α) :
    ∃ total', s.weigh cascade coords offset alpha pos biasedPos normal total = .ok total' := by
  rcases supplied.probeWeight_ends present listed finds inside offset alpha pos biasedPos normal
    with ⟨weight, weighed⟩
  rcases supplied.probeValue_ends present listed finds inside normal with ⟨value, shown⟩
  rw [weigh, weighed, ok_bind, shown, ok_bind]
  split
  · exact ⟨_, rfl⟩
  · exact ⟨_, rfl⟩

/-- The first corner of a cell is never one of the last probes, wherever the point is, so that the
probes at the other corners are there as well. -/
theorem sampleCascade_ends (pos normal : Vec3 α) (bias : α) :
    ∃ light, s.sampleCascade cascade pos normal bias = .ok light := by
  rcases Volume.placement_of_lt (v := s.volume) listed with ⟨p, placed⟩
  rcases supplied.counts with ⟨x, y, z⟩
  rcases supplied.counts_le present with ⟨shortX, shortY, shortZ⟩
  have lastCell := Vec3.mapM_sub_of_le supplied.counts
  have last := Vec3.mapM_sub_of_le supplied.counts_pos
  rw [sampleCascade_settles, Volume.spacing_of_placement placed, ok_bind,
    Volume.center_of_placement placed, ok_bind,
    Volume.extent_of_placement placed supplied.counts_pos, ok_bind, lastCell, ok_bind]
  dsimp only
  generalize @Vec3.toNat α _ _ = cell
  rw [map_eq_pure_bind]
  apply bind_ends
  · apply foldlM_ends_of_each
    intro corner _ total
    have step := cornerOffset_le corner
    have moved : (cell.zipWith min (s.volume.grid.counts.map (· - 2))).zipWithM Word.add
        (cornerOffset corner) = .ok ((cell.zipWith min (s.volume.grid.counts.map (· - 2))).zipWith
          (· + ·) (cornerOffset corner)) := by
      apply Vec3.zipWithM_add_of_lt
      all_goals
        simp only [Vec3.zipWith, Vec3.map]
        omega
    rw [moved, ok_bind, last, ok_bind]
    apply supplied.weigh_ends present listed finds
    simp only [Grid.Contains, Vec3.zipWith, Vec3.map]
    omega
  · exact fun total => ⟨_, rfl⟩

omit present listed

variable {pos normal : Vec3 α} {bias : α}

/-- What is looked for in the cascades one after the other is found, unless there are more of them
than can be placed: the first of those is a fault, before anything is read for it. -/
theorem sampleFrom_ends (placed : first ≤ maxCascades)
    (few : first + remaining ≤ s.volume.grid.cascades) :
    (∃ light, s.sampleFrom pos normal bias remaining first = .ok light) ∨
      maxCascades < first + remaining ∧ s.sampleFrom pos normal bias remaining first =
        .error (.indexOutOfBounds maxCascades maxCascades) := by
  have unplaced : s.volume.placement maxCascades =
      .error (.indexOutOfBounds maxCascades maxCascades) := dif_neg (Nat.lt_irrefl _)
  induction remaining generalizing first with
  | zero => exact .inl ⟨_, rfl⟩
  | succ remaining ih =>
      rcases placed.lt_or_eq with listed | rfl
      · have following : first + 1 ≤ maxCascades := listed
        rcases supplied.cascadeFade_ends listed pos with ⟨fade, faded⟩
        rcases supplied.sampleCascade_ends (by omega) listed finds pos normal bias
          with ⟨here, shown⟩
        rw [sampleFrom, faded, ok_bind, shown, ok_bind]
        split
        · split
          · exact .inl ⟨_, rfl⟩
          · dsimp only
            split
            · rename_i more
              rcases following.lt_or_eq with listed' | last
              · rcases supplied.sampleCascade_ends (by omega) listed' finds pos normal bias
                  with ⟨next, shown'⟩
                rw [shown']
                exact .inl ⟨_, rfl⟩
              · right
                refine ⟨by omega, ?_⟩
                rw [last, sampleCascade, Volume.spacing, unplaced]
                rfl
            · exact .inl ⟨_, rfl⟩
        · have rest := ih following (by omega)
          rw [Nat.add_right_comm] at rest
          exact rest
      · right
        refine ⟨by omega, ?_⟩
        rw [sampleFrom, cascadeFade, Volume.spacing, unplaced]
        rfl

theorem sample_ends (pos normal : Vec3 α) (bias : α) :
    (∃ light, s.sample pos normal bias = .ok light) ∨
      maxCascades < s.volume.grid.cascades ∧
        s.sample pos normal bias = .error (.indexOutOfBounds maxCascades maxCascades) := by
  have ends : (∃ light, s.sampleFrom pos normal bias s.volume.grid.cascades 0 = .ok light) ∨ _ :=
    supplied.sampleFrom_ends finds (Nat.zero_le _) (Nat.zero_add _).le
  rwa [Nat.zero_add] at ends

end IsSupplied

end Readings

end Sampler

end IrradianceField
