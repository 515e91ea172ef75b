import IrradianceField.Proofs.DistanceAtlas
import IrradianceField.Proofs.Interpolating

/-!
Fetching: what the sampler reads of a probe's distances are moments, so that the test of visibility
has a variance and its bound is a chance.
-/

namespace IrradianceField

open Scalar

section Mixing

variable {t : Texels (Vec4 ℝ)} {s : Texels.Footprint (Vec4 ℝ)} {pos frac : Vec2 ℝ} {value : Vec4 ℝ}
  {limit : ℝ} {m : Vec2 ℝ}

theorem Texels.xy_of_sampleBilinear (ran : t.sampleBilinear pos = .ok value) :
    ∃ s frac, t.gather pos = .ok (s, frac) ∧
      value.xy = mix frac.y (mix frac.x s.topLeft.xy s.topRight.xy)
        (mix frac.x s.bottomLeft.xy s.bottomRight.xy) := by
  obtain ⟨⟨s, frac⟩, gathered, -⟩ := bind_eq_ok.mp ran
  obtain rfl := Except.ok.inj ((sampleBilinear_eq gathered).symm.trans ran)
  refine ⟨s, frac, gathered, ?_⟩
  simp only [Vec4.mix_eq, Vec4.xy, mix, mul_comm]

theorem isMoments_of_sample (sampled : t.sampleBilinear pos = .ok value)
    (each : ∀ s frac, t.gather pos = .ok (s, frac) → s.All fun texel => IsMoments limit texel.xy) :
    IsMoments limit value.xy := by
  obtain ⟨s, frac, gathered, mixed⟩ := Texels.xy_of_sampleBilinear sampled
  obtain ⟨topLeft, topRight, bottomLeft, bottomRight⟩ := each s frac gathered
  obtain ⟨⟨lowX, highX⟩, lowY, highY⟩ := Texels.frac_of_gather gathered
  rw [mixed]
  exact (topLeft.mix topRight lowX highX).mix (bottomLeft.mix bottomRight lowX highX) lowY highY

theorem IsMoments.variance_eq (moments : IsMoments limit m) :
    Scalar.abs (sqr m.x - m.y) = m.y - m.x ^ 2 := by
  rw [abs_real, sqr_real, abs_sub_comm]
  exact abs_of_nonneg (sub_nonneg.mpr moments.spread)

theorem IsMoments.chebyshev_eq (moments : IsMoments limit m) (distance : ℝ) :
    Sampler.chebyshevBound distance m.x m.y =
      (m.y - m.x ^ 2) / (m.y - m.x ^ 2 + (distance - m.x) ^ 2) := by
  rw [Sampler.chebyshevBound, moments.variance_eq, sqr_real]

theorem IsMoments.chebyshev_bounds (moments : IsMoments limit m) (distance : ℝ) :
    0 ≤ Sampler.chebyshevBound distance m.x m.y ∧ Sampler.chebyshevBound distance m.x m.y ≤ 1 := by
  have variance : 0 ≤ m.y - m.x ^ 2 := sub_nonneg.mpr moments.spread
  have total : 0 ≤ m.y - m.x ^ 2 + (distance - m.x) ^ 2 := add_nonneg variance (sq_nonneg _)
  rw [moments.chebyshev_eq]
  constructor
  · exact div_nonneg variance total
  · exact div_le_one_of_le₀ (le_add_of_nonneg_right (sq_nonneg _)) total

end Mixing

namespace Sampler

variable {α : Type} [Scalar α] (s : Sampler α)

def momentsTowards (cascade index : Nat) (way : Vec3 α) : Except Fault (Vec2 α) := do
  let physical ← s.volume.physicalIndex cascade index
  let uv ← s.volume.atlasPosition cascade physical (Octahedral.encode way.normalizeOrZero)
    distanceResolution
  return (← s.distance.sampleBilinear uv).xy

theorem momentsTowards_eq (cascade index : Nat) (way : Vec3 α) :
    s.momentsTowards cascade index way = (do
      let slot ← s.volume.physicalIndex cascade index
      let texel ← s.volume.lookUp s.distance cascade slot distanceResolution
        (Octahedral.encode way.normalizeOrZero)
      return texel.xy) := by
  simp only [momentsTowards, Volume.lookUp, bind_assoc]

theorem probeWeight_eq (cascade : Nat) (coords offset : Vec3 Nat)
    (alpha pos biasedPos normal : Vec3 α) :
    s.probeWeight cascade coords offset alpha pos biasedPos normal = (do
      let index ← s.volume.grid.probeIndex coords
      let probe ← s.volume.readProbe s.probes cascade index
      if probe.state.isInactive then return 0.0
      let probePos ← s.volume.relocatedPosition cascade index probe
      let facing := facingWeight probePos pos normal
      let distance := (biasedPos - probePos).length
      let moments ← s.momentsTowards cascade index (biasedPos - probePos)
      let visible :=
        if lt moments.x distance then
          let bound := chebyshevBound distance moments.x moments.y
          facing * maxNum (bound * bound * bound) 0.05
        else facing
      let weight := crush (maxNum visible 0.000001)
      let trilinear := trilinearWeights offset alpha
      return weight * maxNum (trilinear.x * trilinear.y * trilinear.z) 0.001) := by
  simp only [probeWeight, momentsTowards, bind_assoc, pure_bind]

theorem momentsTowards_ends {s : Sampler ℝ} {cascade index slot : Nat}
    (atlas : s.distance.IsAtlas s.volume.grid distanceResolution)
    (present : cascade < s.volume.grid.cascades)
    (physical : s.volume.physicalIndex cascade index = .ok slot) (way : Vec3 ℝ) :
    ∃ m, s.momentsTowards cascade index way = .ok m := by
  obtain ⟨x, y⟩ := Octahedral.abs_encode_le way.normalizeOrZero
  have inside := Volume.physicalIndex_lt atlas.sized physical
  rw [momentsTowards_eq, physical, ok_bind, Volume.lookUp_eq atlas present inside (by decide)
    (Grid.tileOrigin_of_lt atlas.sized present inside) x y]
  exact ⟨_, rfl⟩

end Sampler

namespace HoldsMoments

variable {g : Grid} {cascade index slot : Nat} {limit : ℝ} {s : Sampler ℝ} {way : Vec3 ℝ}
  {m : Vec2 ℝ}

theorem fetch (holds : HoldsMoments s.volume.grid cascade limit s.distance)
    (present : cascade < s.volume.grid.cascades)
    (ran : s.momentsTowards cascade index way = .ok m) : IsMoments limit m := by
  obtain ⟨slot, physical, ran⟩ := bind_eq_ok.mp ran
  obtain ⟨uv, placed, ran⟩ := bind_eq_ok.mp ran
  obtain ⟨value, sampled, ran⟩ := bind_eq_ok.mp ran
  obtain rfl := Except.ok.inj ran
  have inside := Volume.physicalIndex_lt holds.sized physical
  obtain ⟨x, y⟩ := Octahedral.abs_encode_le way.normalizeOrZero
  obtain ⟨-, above, below⟩ := Volume.within_of_atlasPosition
    (Grid.tileOrigin_of_lt holds.sized present inside) x y placed
  obtain ⟨fitsX, fitsY⟩ := Grid.tile_within holds.sized present inside
  obtain ⟨same, -, wordX, -, -, wordY⟩ := Grid.atlasSize_eq_ok.mp holds.sized
  have sizeX := congrArg Vec2.x same
  have sizeY := congrArg Vec2.y same
  dsimp only at sizeX sizeY above below
  rw [Nat.succ_mul] at fitsX fitsY
  simp only [distanceResolution] at fitsX
  refine isMoments_of_sample sampled fun footprint frac gathered => ?_
  have rows := Texels.rows_of_gather (by omega) (by omega) (by omega) above below fitsY gathered
  have valid : ∀ texel : Vec4 ℝ, (∃ row ≤ distanceResolution + 1,
      ∃ column < s.distance.size.x,
      s.distance.data[((cascade * (s.volume.grid.counts.y * s.volume.grid.counts.z) +
        slot / s.volume.grid.counts.x) * (distanceResolution + 2) + row) * s.distance.size.x +
          column]? = some texel) → IsMoments limit texel.xy := by
    intro texel found
    obtain ⟨row, low, column, left, held⟩ := found
    exact holds.moments ⟨column, _⟩ texel left
      (Grid.cascadeOfRow_tile inside (Nat.lt_succ_of_le low)) held
  exact ⟨valid _ rows.topLeft, valid _ rows.topRight, valid _ rows.bottomLeft,
    valid _ rows.bottomRight⟩

theorem fetch_ends (holds : HoldsMoments s.volume.grid cascade limit s.distance)
    (present : cascade < s.volume.grid.cascades)
    (words : s.distance.size.x * s.distance.size.y ≤ 4294967296)
    (physical : s.volume.physicalIndex cascade index = .ok slot) (way : Vec3 ℝ) :
    ∃ m, s.momentsTowards cascade index way = .ok m :=
  Sampler.momentsTowards_ends ⟨holds.sized, holds.texels, words⟩ present physical way

end HoldsMoments

namespace DistanceThread

variable {g : Grid} {size : Vec2 Nat} {cascade : Nat} {spacing : ℝ} {threads : List DistanceThread}
  {atlas : Texels (Vec4 ℝ)}

/-- Threads that have what they read do not fault. However a distance atlas has come about from one
that was zero, a cascade holds moments, and the sampler fetches moments from it: their variance is
not negative, and the bound is a chance. -/
theorem fetches_moments (sized : g.atlasSize distanceResolution = .ok size)
    (present : cascade < g.cascades) (positive : 0 < spacing)
    (fits : ∀ thread ∈ threads, thread.Fits g cascade spacing) :
    (size.x * size.y ≤ 4294967296 → (∀ thread ∈ threads, thread.IsServed g) →
      ∃ atlas, threads.foldlM run (FrameMemory.blank size) = .ok atlas) ∧
    ∀ atlas, threads.foldlM run (FrameMemory.blank size) = .ok atlas →
      HoldsMoments g cascade (3 / 2 * spacing) atlas ∧
      ∀ s : Sampler ℝ, s.volume.grid = g → s.distance = atlas → ∀ index way,
        (∀ slot, s.volume.physicalIndex cascade index = .ok slot → size.x * size.y ≤ 4294967296 →
          ∃ m, s.momentsTowards cascade index way = .ok m) ∧
        ∀ m, s.momentsTowards cascade index way = .ok m →
          IsMoments (3 / 2 * spacing) m ∧ 0 ≤ m.y - m.x ^ 2 ∧
            Scalar.abs (sqr m.x - m.y) = m.y - m.x ^ 2 ∧
            ∀ distance, 0 ≤ Sampler.chebyshevBound distance m.x m.y ∧
              Sampler.chebyshevBound distance m.x m.y ≤ 1 := by
  have start : HoldsMoments g cascade (3 / 2 * spacing) (FrameMemory.blank size) :=
    .blank sized (by positivity)
  constructor
  · exact fun words served => runs_end positive fits served sized words start
  · intro atlas ran
    have holds := runs_keep positive fits start ran
    refine ⟨holds, ?_⟩
    intro s grid distance index way
    subst grid distance
    constructor
    · intro slot physical words
      obtain rfl := Except.ok.inj (sized.symm.trans holds.sized)
      exact holds.fetch_ends present words physical way
    · intro m found
      have moments := holds.fetch present found
      exact ⟨moments, sub_nonneg.mpr moments.spread, moments.variance_eq,
        fun distance => moments.chebyshev_bounds distance⟩

noncomputable def lantern : Volume ℝ where
  grid := ⟨⟨1, 1, 1⟩, 1⟩
  placements := .replicate _ ⟨⟨0, 0, 0⟩, 2, ⟨0, 0, 0⟩⟩
  raysRotation := .identity
  viewPos := ⟨0, 0, 0⟩
  rayMaxDistance := 10
  raysCount := 1
  historyWeight := 1 / 2
  gamma := 5
  intensity := 1

/-- Eight probes that trace a single ray each, in a grid that has scrolled forwards along one axis and
back along another. -/
noncomputable def drifted : Volume ℝ :=
  { lantern with
    grid := ⟨⟨2, 2, 2⟩, 1⟩
    placements := .replicate _ ⟨⟨0, 0, 0⟩, 2, ⟨1, 0, -1⟩⟩ }

noncomputable def lit : DistanceThread :=
  .update drifted ⟨0, 1, false⟩ (.replicate 8 ⟨0, 131072⟩) ⟨2, #[7, 1]⟩ #[⟨0, 0, 0, 1⟩] 0 ⟨3, 5⟩

noncomputable def framed : List DistanceThread :=
  [.borderRow ⟨distanceResolution, 8⟩ 2 ⟨0, 0⟩, .borderColumn ⟨distanceResolution, 8⟩ 2 ⟨0, 0⟩]

theorem target_drifted : Updating.target? drifted ⟨0, 1, false⟩ (.replicate 8 ⟨0, 131072⟩)
    ⟨2, #[7, 1]⟩ 0 = .ok (some ⟨0, 2, drifted.historyWeight⟩) := rfl

theorem lit_isServed : lit.IsServed drifted.grid := by
  have limited : Updating.IsLimited drifted 0 := by
    refine ⟨Classification.distanceLimit * 2, rfl, ?_, ?_⟩
    · norm_num [Classification.distanceLimit]
    · norm_num [Classification.distanceLimit]
  refine ⟨by decide, limited, ⟨_, target_drifted⟩, ?_⟩
  intro ray inside
  obtain rfl : ray = 0 := Nat.lt_one_iff.mp inside
  exact ⟨_, rfl⟩

theorem fetches_moments_drifted : ∃ atlas m,
    (lit :: framed).foldlM run (FrameMemory.blank ⟨32, 64⟩) = .ok atlas ∧
    Sampler.momentsTowards ⟨drifted, .replicate 8 ⟨0, 131072⟩, default, atlas⟩ 0 1 ⟨1, 2, 2⟩ = .ok m ∧
    HoldsMoments drifted.grid 0 (3 / 2 * 2) atlas ∧ IsMoments (3 / 2 * 2) m ∧
    Scalar.abs (sqr m.x - m.y) = m.y - m.x ^ 2 ∧
    0 ≤ Sampler.chebyshevBound 3 m.x m.y ∧ Sampler.chebyshevBound 3 m.x m.y ≤ 1 := by
  have sized : drifted.grid.atlasSize distanceResolution = .ok ⟨32, 64⟩ := rfl
  have physical : drifted.physicalIndex 0 1 = .ok 2 := rfl
  have spaces : drifted.Spaces drifted.grid 0 2 := ⟨rfl, rfl, le_rfl, by norm_num [drifted, lantern]⟩
  have fits : ∀ thread ∈ lit :: framed, thread.Fits drifted.grid 0 2 := by
    simp only [List.forall_mem_cons, framed]
    exact ⟨spaces, rfl, rfl, nofun⟩
  have served : ∀ thread ∈ lit :: framed, thread.IsServed drifted.grid := by
    simp only [List.forall_mem_cons, framed]
    exact ⟨lit_isServed, le_rfl, le_rfl, nofun⟩
  obtain ⟨ends, keeps⟩ := fetches_moments sized (by decide) two_pos fits
  obtain ⟨atlas, ran⟩ := ends (by decide) served
  obtain ⟨holds, fetches⟩ := keeps atlas ran
  obtain ⟨found, valid⟩ :=
    fetches ⟨drifted, .replicate 8 ⟨0, 131072⟩, default, atlas⟩ rfl rfl 1 ⟨1, 2, 2⟩
  obtain ⟨m, fetched⟩ := found 2 physical (by decide)
  obtain ⟨moments, -, variance, bounds⟩ := valid m fetched
  exact ⟨atlas, m, ran, fetched, holds, moments, variance, bounds 3⟩

end DistanceThread

end IrradianceField
