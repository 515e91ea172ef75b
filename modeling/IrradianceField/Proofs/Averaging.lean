import IrradianceField.Proofs.Overlooking

/-!
Averaging: in exact arithmetic, all probes around a point that are not inactive have some weight, so
that the irradiance at the point is a mean of what they show.
-/

namespace IrradianceField

open Scalar

namespace Sampler

section Sums

variable {f : WeightedSum ℝ → Nat → Except Fault (WeightedSum ℝ)} {weight : Nat → ℝ}
  {value : Nat → Vec3 ℝ} {n : Nat}

structure Totals (weight : Nat → ℝ) (value : Nat → Vec3 ℝ) (n : Nat) (total : WeightedSum ℝ) :
    Prop where
  weights : total.weight = ∑ corner ∈ Finset.range n, weight corner
  sum : ∀ axis, total.sum.axis axis =
    ∑ corner ∈ Finset.range n, weight corner * (value corner).axis axis

theorem Totals.start : Totals weight value 0 ⟨.zero, 0.0⟩ where
  weights := by simp
  sum := by
    intro axis
    simp [Vec3.axis_zero]

theorem Totals.step {total : WeightedSum ℝ} (totals : Totals weight value n total) :
    Totals weight value (n + 1)
      ⟨total.sum + (value n).scale (weight n), total.weight + weight n⟩ where
  weights := by rw [Finset.sum_range_succ, totals.weights]
  sum := by
    intro axis
    rw [Finset.sum_range_succ, Vec3.axis_add, Vec3.axis_scale, totals.sum axis,
      mul_comm (weight n)]

theorem foldlM_totals (step : ∀ corner < n, ∀ total, f total corner =
      .ok ⟨total.sum + (value corner).scale (weight corner), total.weight + weight corner⟩) :
    ∃ total, (List.range n).foldlM f ⟨.zero, 0.0⟩ = .ok total ∧ Totals weight value n total := by
  induction n with
  | zero => exact ⟨_, rfl, .start⟩
  | succ n ih =>
      rcases ih fun corner below => step corner (Nat.lt_succ_of_lt below) with ⟨total, ran, totals⟩
      refine ⟨_, ?_, totals.step⟩
      rw [List.range_succ, foldlM_append_eq_ok]
      refine ⟨total, ran, foldlM_cons_eq_ok.mpr ⟨_, step n (Nat.lt_succ_self n) total, rfl⟩⟩

theorem settle_of_le {total : WeightedSum ℝ} (none : total.weight ≤ 0) : settle total = .zero := by
  rw [settle]
  simp only [le_real, real_zero, none, decide_true, if_true]

theorem settle_axis {total : WeightedSum ℝ} (some : 0 < total.weight) (axis : Nat) :
    (settle total).axis axis = (total.sum.axis axis / total.weight) ^ 2 * (2 * Real.pi) := by
  have pi : (Scalar.pi : ℝ) = Real.pi := rfl
  rw [settle]
  simp only [le_real, real_zero, not_le.mpr some, decide_false, Bool.false_eq_true, if_false,
    Vec3.axis_scale, Vec3.axis_divide, Vec3.axis_mul, real_two, pi, pow_two]

end Sums

section Means

noncomputable def share (awake : Finset Nat) (weight : Nat → ℝ) (corner : Nat) : ℝ :=
  weight corner / ∑ other ∈ awake, weight other

noncomputable def mean (awake : Finset Nat) (weight : Nat → ℝ) (value : Nat → Vec3 ℝ) (axis : Nat) :
    ℝ :=
  ∑ corner ∈ awake, share awake weight corner * (value corner).axis axis

/-- Irradiance is the square of a mean of the values at the corners that contribute, up to the factor
of a hemisphere: shares are positive and add up to one, so that the mean is between two of the values.
It is black only if there is nothing to be seen. -/
structure IsAverage (awake : Finset Nat) (weight : Nat → ℝ) (value : Nat → Vec3 ℝ)
    (light : Vec3 ℝ) : Prop where
  dark : awake = ∅ → light = .zero
  divisor : awake.Nonempty → 0 < ∑ corner ∈ awake, weight corner
  shares : ∀ corner ∈ awake, 0 < share awake weight corner
  whole : awake.Nonempty → ∑ corner ∈ awake, share awake weight corner = 1
  square : awake.Nonempty → ∀ axis, light.axis axis / (2 * Real.pi) = mean awake weight value axis ^ 2
  between : awake.Nonempty → ∀ axis, ∃ low ∈ awake, ∃ high ∈ awake,
    (value low).axis axis ^ 2 ≤ light.axis axis / (2 * Real.pi) ∧
      light.axis axis / (2 * Real.pi) ≤ (value high).axis axis ^ 2
  seen : light = .zero → awake = ∅ ∨ ∀ corner ∈ awake, value corner = .zero

variable {awake : Finset Nat} {weight : Nat → ℝ} {value : Nat → Vec3 ℝ}

theorem weights_pos (positive : ∀ corner ∈ awake, 0 < weight corner) (some : awake.Nonempty) :
    0 < ∑ corner ∈ awake, weight corner :=
  Finset.sum_pos positive some

theorem share_pos (positive : ∀ corner ∈ awake, 0 < weight corner) {corner : Nat}
    (counted : corner ∈ awake) : 0 < share awake weight corner :=
  div_pos (positive corner counted) (weights_pos positive ⟨corner, counted⟩)

theorem sum_share (positive : ∀ corner ∈ awake, 0 < weight corner) (some : awake.Nonempty) :
    ∑ corner ∈ awake, share awake weight corner = 1 := by
  unfold share
  rw [← Finset.sum_div]
  exact div_self (weights_pos positive some).ne'

theorem mean_eq (axis : Nat) : mean awake weight value axis =
    (∑ corner ∈ awake, weight corner * (value corner).axis axis) / ∑ corner ∈ awake, weight corner := by
  rw [mean, Finset.sum_div]
  apply Finset.sum_congr rfl
  intro corner _
  rw [share, div_mul_eq_mul_div]

theorem mean_between (positive : ∀ corner ∈ awake, 0 < weight corner) (some : awake.Nonempty)
    (value : Nat → Vec3 ℝ) (axis : Nat) : ∃ low ∈ awake, ∃ high ∈ awake,
      (value low).axis axis ≤ mean awake weight value axis ∧
        mean awake weight value axis ≤ (value high).axis axis := by
  have whole := sum_share positive some
  rcases Finset.exists_min_image awake (fun corner => (value corner).axis axis) some with
    ⟨low, inside, least⟩
  rcases Finset.exists_max_image awake (fun corner => (value corner).axis axis) some with
    ⟨high, inside', most⟩
  refine ⟨low, inside, high, inside', ?_, ?_⟩
  · calc (value low).axis axis
        = ∑ corner ∈ awake, share awake weight corner * (value low).axis axis := by
          rw [← Finset.sum_mul, whole, one_mul]
      _ ≤ mean awake weight value axis := by
          apply Finset.sum_le_sum
          intro corner counted
          exact mul_le_mul_of_nonneg_left (least corner counted) (share_pos positive counted).le
  · calc mean awake weight value axis
        ≤ ∑ corner ∈ awake, share awake weight corner * (value high).axis axis := by
          apply Finset.sum_le_sum
          intro corner counted
          exact mul_le_mul_of_nonneg_left (most corner counted) (share_pos positive counted).le
      _ = (value high).axis axis := by rw [← Finset.sum_mul, whole, one_mul]

theorem eq_zero_of_mean (positive : ∀ corner ∈ awake, 0 < weight corner)
    (nonneg : ∀ corner ∈ awake, ∀ axis, 0 ≤ (value corner).axis axis) {axis : Nat}
    (none : mean awake weight value axis = 0) {corner : Nat} (counted : corner ∈ awake) :
    (value corner).axis axis = 0 := by
  have terms : ∀ corner ∈ awake, 0 ≤ share awake weight corner * (value corner).axis axis :=
    fun corner counted => mul_nonneg (share_pos positive counted).le (nonneg corner counted axis)
  have each := (Finset.sum_eq_zero_iff_of_nonneg terms).mp none corner counted
  exact (mul_eq_zero.mp each).resolve_left (share_pos positive counted).ne'

theorem Totals.isAverage {n : Nat} {total : WeightedSum ℝ} (totals : Totals weight value n total)
    (within : awake ⊆ Finset.range n) (positive : ∀ corner ∈ awake, 0 < weight corner)
    (none : ∀ corner < n, corner ∉ awake → weight corner = 0)
    (nonneg : ∀ corner ∈ awake, ∀ axis, 0 ≤ (value corner).axis axis) :
    IsAverage awake weight value (settle total) := by
  have weights : total.weight = ∑ corner ∈ awake, weight corner := by
    rw [totals.weights]
    symm
    apply Finset.sum_subset within
    exact fun corner below => none corner (Finset.mem_range.mp below)
  have sums : ∀ axis, total.sum.axis axis =
      ∑ corner ∈ awake, weight corner * (value corner).axis axis := by
    intro axis
    rw [totals.sum axis]
    symm
    apply Finset.sum_subset within
    intro corner below asleep
    rw [none corner (Finset.mem_range.mp below) asleep, zero_mul]
  have square : awake.Nonempty → ∀ axis,
      (settle total).axis axis / (2 * Real.pi) = mean awake weight value axis ^ 2 := by
    intro some axis
    have heavy : 0 < total.weight := weights ▸ weights_pos positive some
    have hemisphere : 2 * Real.pi ≠ 0 := Real.two_pi_pos.ne'
    rw [settle_axis heavy, mul_div_cancel_right₀ _ hemisphere, mean_eq, sums axis, weights]
  constructor
  case dark =>
    intro empty
    apply settle_of_le
    rw [weights, empty, Finset.sum_empty]
  case divisor => exact weights_pos positive
  case shares => exact fun corner => share_pos positive
  case whole => exact sum_share positive
  case square => exact square
  case between =>
    intro some axis
    rcases mean_between positive some value axis with
      ⟨low, inside, high, inside', above, below⟩
    have bottom := nonneg low inside axis
    refine ⟨low, inside, high, inside', ?_, ?_⟩
    · rw [square some axis]
      exact pow_le_pow_left₀ bottom above 2
    · rw [square some axis]
      exact pow_le_pow_left₀ (bottom.trans above) below 2
  case seen =>
    intro black
    rcases awake.eq_empty_or_nonempty with empty | some
    · exact .inl empty
    right
    intro corner counted
    apply Vec3.eq_of_axes
    intro axis
    have vanished : mean awake weight value axis ^ 2 = 0 := by
      rw [← square some axis, black, Vec3.axis_zero, zero_div]
    rw [Vec3.axis_zero]
    exact eq_zero_of_mean positive nonneg (pow_eq_zero_iff two_ne_zero |>.mp vanished) counted

end Means

section Corners

variable {s : Sampler ℝ} {cascade : Nat} {p : Placement ℝ}

/-- Whether the probe at given coordinates is not inactive. -/
noncomputable def isAwakeAt (s : Sampler ℝ) (cascade : Nat) (coords : Vec3 Nat) : Bool :=
  s.volume.isActive s.probes cascade (s.volume.grid.indexAt coords)

noncomputable def awakeCorners (s : Sampler ℝ) (cascade : Nat) (p : Placement ℝ) (pos : Vec3 ℝ) :
    Finset Nat :=
  (Finset.range 8).filter fun corner =>
    s.isAwakeAt cascade (cornerAt s.volume.grid.counts p pos corner) = true

theorem probeValue_nonneg {coords : Vec3 Nat} {normal value : Vec3 ℝ}
    (shown : s.probeValue cascade coords normal = .ok value) (axis : Nat) : 0 ≤ value.axis axis := by
  rw [probeValue_lookUp] at shown
  rcases bind_eq_ok.mp shown with ⟨index, -, shown⟩
  rcases bind_eq_ok.mp shown with ⟨slot, -, shown⟩
  rcases bind_eq_ok.mp shown with ⟨texel, -, shown⟩
  have same : texel.xyz.powPositive (s.volume.gamma * 0.5) = value := Except.ok.inj shown
  rw [← same, Vec3.powPositive, Vec3.axis_map, maxNum_real, real_zero]
  exact Real.rpow_nonneg (le_max_right _ _) _

theorem weigh_eq {coords offset : Vec3 Nat} {alpha pos biasedPos normal value : Vec3 ℝ} {weight : ℝ}
    (weighed : s.probeWeight cascade coords offset alpha pos biasedPos normal = .ok weight)
    (nonneg : 0 ≤ weight) (shown : s.probeValue cascade coords normal = .ok value)
    (total : WeightedSum ℝ) :
    s.weigh cascade coords offset alpha pos biasedPos normal total =
      .ok ⟨total.sum + value.scale weight, total.weight + weight⟩ := by
  rw [weigh, weighed, ok_bind, shown]
  rcases nonneg.eq_or_lt with rfl | heavy
  · simp [Vec3.scale_eq, Vec3.add_eq]
  · simp only [lt_real, real_zero, heavy, decide_true, if_true, ok_bind, pure_eq_ok]

namespace IsStocked

variable (stocked : s.IsStocked cascade p)

include stocked

theorem probeWeight_cases {coords : Vec3 Nat} (inside : s.volume.grid.Contains coords)
    (offset : Vec3 Nat) (alpha pos biasedPos normal : Vec3 ℝ) :
    ∃ weight, s.probeWeight cascade coords offset alpha pos biasedPos normal = .ok weight ∧
      (s.isAwakeAt cascade coords = true → 0 < weight) ∧
        (s.isAwakeAt cascade coords = false → weight = 0) := by
  rcases stocked.probeWeight_ends inside offset alpha pos biasedPos normal with
    ⟨weight, weighed, nonneg, heavy⟩
  refine ⟨weight, weighed, heavy.mpr, ?_⟩
  intro asleep
  apply le_antisymm _ nonneg
  apply not_lt.mp
  intro positive
  exact absurd (heavy.mp positive) (Bool.eq_false_iff.mp asleep)

theorem sampleCascade_average (pos normal : Vec3 ℝ) (bias : ℝ) :
    ∃ alpha biasedPos weight value light,
      s.sampleCascade cascade pos normal bias = .ok light ∧
      (∀ corner < 8, s.probeWeight cascade (cornerAt s.volume.grid.counts p pos corner)
        (cornerOffset corner) alpha pos biasedPos normal = .ok (weight corner)) ∧
      (∀ corner < 8, s.probeValue cascade (cornerAt s.volume.grid.counts p pos corner) normal =
        .ok (value corner)) ∧
      IsAverage (s.awakeCorners cascade p pos) weight value light := by
  rcases stocked.sampleCascade_eq pos normal bias with ⟨alpha, biasedPos, same⟩
  have inside := fun corner => (stocked.corner_ends pos corner).1
  choose weight weighed awake asleep using fun corner => stocked.probeWeight_cases (inside corner)
    (cornerOffset corner) alpha pos biasedPos normal
  choose value shown using fun corner => stocked.probeValue_ends (inside corner) normal
  have nonneg : ∀ corner, 0 ≤ weight corner := by
    intro corner
    cases state : s.isAwakeAt cascade (cornerAt s.volume.grid.counts p pos corner) with
    | true => exact (awake corner state).le
    | false => exact (asleep corner state).ge
  rcases foldlM_totals (n := 8) fun corner _ total =>
    weigh_eq (weighed corner) (nonneg corner) (shown corner) total with ⟨total, ran, totals⟩
  refine ⟨alpha, biasedPos, weight, value, settle total, ?_, fun corner _ => weighed corner,
    fun corner _ => shown corner, ?_⟩
  · rw [same, ran]
    rfl
  · apply totals.isAverage (Finset.filter_subset _ _)
    · exact fun corner counted => awake corner (Finset.mem_filter.mp counted).2
    · intro corner below absent
      apply asleep corner
      rw [← Bool.not_eq_true]
      exact fun state => absent (Finset.mem_filter.mpr ⟨Finset.mem_range.mpr below, state⟩)
    · exact fun corner _ axis => probeValue_nonneg (shown corner) axis

end IsStocked

/-- A probe has a positive weight for a point wherever that is, unless it is inactive, and then it
has none. What a cascade shows at a point is for every channel the square of a mean of what the
probes around the point show, and black only if all of them are inactive or show nothing. -/
theorem no_dark_holes (served : s.IsServed) (present : cascade < s.volume.grid.cascades) :
    (∀ coords offset, s.volume.grid.Contains coords → ∀ alpha pos biasedPos normal, ∃ weight,
      s.probeWeight cascade coords offset alpha pos biasedPos normal = .ok weight ∧
        (s.isAwakeAt cascade coords = true → 0 < weight) ∧
          (s.isAwakeAt cascade coords = false → weight = 0)) ∧
    ∃ p, s.volume.placement cascade = .ok p ∧ ∀ pos normal bias,
      (∀ corner < 8, s.volume.grid.Contains (cornerAt s.volume.grid.counts p pos corner)) ∧
      ∃ alpha biasedPos weight value light,
        s.sampleCascade cascade pos normal bias = .ok light ∧
        (∀ corner < 8, s.probeWeight cascade (cornerAt s.volume.grid.counts p pos corner)
          (cornerOffset corner) alpha pos biasedPos normal = .ok (weight corner)) ∧
        (∀ corner < 8, s.probeValue cascade (cornerAt s.volume.grid.counts p pos corner) normal =
          .ok (value corner)) ∧
        IsAverage (s.awakeCorners cascade p pos) weight value light := by
  rcases served.stocked present with ⟨p, stocked⟩
  constructor
  · intro coords offset inside alpha pos biasedPos normal
    exact stocked.probeWeight_cases inside offset alpha pos biasedPos normal
  · refine ⟨p, stocked.placed, ?_⟩
    intro pos normal bias
    constructor
    · exact fun corner _ => (stocked.corner_ends pos corner).1
    · exact stocked.sampleCascade_average pos normal bias

/-- Seven probes around a cell are awake, and one is not. -/
theorem no_dark_holes_octet :
    (octetSampler ⟨0, 0⟩ ⟨7, 0, 0, 1⟩).IsServed ∧ 0 < octet.grid.cascades ∧
    ∃ p weight value light, octet.placement 0 = .ok p ∧
      (octetSampler ⟨0, 0⟩ ⟨7, 0, 0, 1⟩).sampleCascade 0 ⟨0, 0, 0⟩ ⟨0, 1, 0⟩ 1 = .ok light ∧
      IsAverage ((octetSampler ⟨0, 0⟩ ⟨7, 0, 0, 1⟩).awakeCorners 0 p ⟨0, 0, 0⟩) weight value light := by
  have asleep : PackedProbe.IsInactive ⟨0, 0⟩ := rfl
  have served := octetSampler_isServed asleep ⟨7, 0, 0, 1⟩
  have present : 0 < octet.grid.cascades := one_pos
  rcases (no_dark_holes served present).2 with ⟨p, placed, shows⟩
  rcases (shows ⟨0, 0, 0⟩ ⟨0, 1, 0⟩ 1).2 with ⟨-, -, weight, value, light, ran, -, -, average⟩
  exact ⟨served, present, p, weight, value, light, placed, ran, average⟩

end Corners

end Sampler

end IrradianceField
