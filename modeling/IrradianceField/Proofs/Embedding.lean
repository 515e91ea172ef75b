import IrradianceField.Proofs.Directing

/-!
Embedding: a ray that starts inside of geometry is told from all others by the sign of what is stored
for it, and whoever gathers the rays of a probe counts and leaves out exactly those.
-/

namespace IrradianceField

open Scalar

namespace DistanceField

/-- The march meets something within the first voxel, with the ray not outside of it. -/
def Embeds (f : DistanceField ℝ) (ray : Ray ℝ) (maxDistance : ℝ) : Prop :=
  ∃ hit size, f.trace ray maxDistance = .ok (some hit) ∧ f.voxelSize hit.cascade = .ok size ∧
    hit.time < size ∧ hit.distance ≤ 0

noncomputable instance (f : DistanceField ℝ) (ray : Ray ℝ) (maxDistance : ℝ) :
    Decidable (f.Embeds ray maxDistance) := Classical.propDecidable _

/-- Precisions are positive. -/
def HasVoxels (f : DistanceField ℝ) : Prop :=
  ∀ cascade size, f.voxelSize cascade = .ok size → 0 < size

variable {f : DistanceField ℝ} {ray : Ray ℝ} {maxDistance time : ℝ} {steps : Nat} {hit : Hit ℝ}

theorem time_le_of_march (voxels : f.HasVoxels)
    (met : f.march ray maxDistance steps time = .ok (some hit)) : time ≤ hit.time := by
  induction steps generalizing time with
  | zero => cases met
  | succ steps ih =>
      rw [march] at met
      split at met
      · obtain ⟨cascade, -, met⟩ := bind_eq_ok.mp met
        obtain ⟨distance, -, met⟩ := bind_eq_ok.mp met
        obtain ⟨size, precision, met⟩ := bind_eq_ok.mp met
        dsimp only at met
        split at met
        · obtain ⟨found, -, met⟩ := bind_eq_ok.mp met
          obtain rfl := Option.some.inj (Except.ok.inj met)
          exact le_rfl
        · have some : 0 < size * 0.25 := mul_pos (voxels cascade size precision) (by norm_num)
          have ahead : 0 ≤ maxNum distance (size * 0.25) := by
            rw [maxNum_real]
            exact some.le.trans (le_max_right _ _)
          exact (le_add_of_nonneg_right ahead).trans (ih met)
      · cases met

theorem time_nonneg_of_trace (voxels : f.HasVoxels)
    (met : f.trace ray maxDistance = .ok (some hit)) : 0 ≤ hit.time := by
  have forward := time_le_of_march voxels met
  rwa [real_zero] at forward

theorem march_ends (answers : f.Answers) (ray : Ray ℝ) (maxDistance : ℝ) (steps : Nat) (time : ℝ) :
    ∃ report, f.march ray maxDistance steps time = .ok report ∧
      ∀ hit, report = some hit → ∃ size, f.voxelSize hit.cascade = .ok size := by
  induction steps generalizing time with
  | zero => exact ⟨none, rfl, fun _ met => nomatch met⟩
  | succ steps ih =>
      rw [march]
      split
      · obtain ⟨cascade, size, located, precision⟩ := answers.precision (ray.point time)
        obtain ⟨distance, sampled⟩ := answers.sample (ray.point time)
        simp only [located, sampled, precision, ok_bind]
        split
        · obtain ⟨found, gradient⟩ := answers.sampleGradient_ends (ray.point time)
          rw [gradient]
          exact ⟨_, rfl, fun hit met => Option.some.inj met ▸ ⟨size, precision⟩⟩
        · exact ih _
      · exact ⟨none, rfl, fun _ met => nomatch met⟩

end DistanceField

structure Surroundings.Answers (s : Surroundings ℝ) : Prop where
  field : s.field.Answers
  sky : ∀ dir, ∃ radiance, s.sky dir = .ok radiance
  surface : ∀ pos normal tolerance, ∃ radiance, s.surface pos normal tolerance = .ok radiance

namespace Tracing

variable {s : Surroundings ℝ} {ray : Ray ℝ} {maxDistance : ℝ} {entry : Vec4 ℝ}

/-- What is stored for a ray: that it misses, that it starts inside of geometry, or what it hits. -/
inductive Sight (s : Surroundings ℝ) (ray : Ray ℝ) (maxDistance : ℝ) : Vec4 ℝ → Prop
  | sky {radiance : Vec3 ℝ} (missed : s.field.trace ray maxDistance = .ok none)
      (shown : s.sky ray.direction = .ok radiance) :
      Sight s ray maxDistance (radiance.extend skyDistance)
  | inside {hit : Hit ℝ} {size : ℝ} (met : s.field.trace ray maxDistance = .ok (some hit))
      (precision : s.field.voxelSize hit.cascade = .ok size)
      (start : hit.time < size) (deep : hit.distance ≤ 0) :
      Sight s ray maxDistance (Vec3.zero.extend (-max (hit.time * 0.2) 1e-4))
  | surface {hit : Hit ℝ} {size : ℝ} {radiance : Vec4 ℝ}
      (met : s.field.trace ray maxDistance = .ok (some hit))
      (precision : s.field.voxelSize hit.cascade = .ok size)
      (outside : ¬(hit.time < size ∧ hit.distance ≤ 0))
      (shown : s.surface (ray.point hit.time) (-ray.direction) size = .ok radiance) :
      Sight s ray maxDistance (radiance.xyz.extend (hit.time + 0.5 * size))

theorem sight_of_traceRay (ran : traceRay s ray maxDistance = .ok entry) :
    Sight s ray maxDistance entry := by
  obtain ⟨report, traced, ran⟩ := bind_eq_ok.mp ran
  cases report with
  | none =>
      obtain ⟨radiance, shown, ran⟩ := bind_eq_ok.mp ran
      exact Except.ok.inj ran ▸ .sky traced shown
  | some hit =>
      obtain ⟨size, precision, ran⟩ := bind_eq_ok.mp ran
      simp only [lt_real, le_real, real_zero, Bool.and_eq_true, decide_eq_true_eq, maxNum_real,
        pure_eq_ok] at ran
      split at ran
      · rename_i within
        exact Except.ok.inj ran ▸ .inside traced precision within.1 within.2
      · rename_i outside
        obtain ⟨radiance, shown, ran⟩ := bind_eq_ok.mp ran
        exact Except.ok.inj ran ▸ .surface traced precision outside shown

theorem traceRay_ends (answers : s.Answers) (ray : Ray ℝ) (maxDistance : ℝ) :
    ∃ entry, traceRay s ray maxDistance = .ok entry := by
  obtain ⟨report, traced, precise⟩ :=
    DistanceField.march_ends answers.field ray maxDistance maxMarchSteps 0.0
  rw [traceRay, DistanceField.trace, traced, ok_bind]
  cases report with
  | none => exact bind_ends (answers.sky _) fun radiance => ⟨_, rfl⟩
  | some hit =>
      obtain ⟨size, precision⟩ := precise hit rfl
      simp only [precision, ok_bind]
      split
      · exact ⟨_, rfl⟩
      · exact bind_ends (answers.surface _ _ _) fun radiance => ⟨_, rfl⟩

theorem Sight.sign (voxels : s.field.HasVoxels) (sight : Sight s ray maxDistance entry) :
    (s.field.Embeds ray maxDistance → entry.w < 0 ∧ entry.xyz = .zero) ∧
      (¬s.field.Embeds ray maxDistance → 0 < entry.w) := by
  cases sight with
  | sky missed shown =>
      refine ⟨?_, fun _ => by norm_num [Vec3.extend, skyDistance]⟩
      rintro ⟨hit, size, met, -⟩
      cases missed.symm.trans met
  | @inside hit size met precision start deep =>
      refine ⟨fun _ => ⟨?_, rfl⟩, fun outside => absurd ⟨hit, size, met, precision, start, deep⟩ outside⟩
      have some : (0 : ℝ) < max (hit.time * 0.2) 1e-4 := lt_max_of_lt_right (by norm_num)
      exact neg_neg_of_pos some
  | @surface hit size radiance met precision outside shown =>
      constructor
      · rintro ⟨hit', size', met', precision', start, deep⟩
        obtain rfl := Option.some.inj (Except.ok.inj (met.symm.trans met'))
        obtain rfl := Except.ok.inj (precision.symm.trans precision')
        exact absurd ⟨start, deep⟩ outside
      · intro _
        have forward := DistanceField.time_nonneg_of_trace voxels met
        have some := voxels _ _ precision
        change 0 < hit.time + 0.5 * size
        norm_num
        linarith

theorem Sight.neg_iff (voxels : s.field.HasVoxels) (sight : Sight s ray maxDistance entry) :
    entry.w < 0 ↔ s.field.Embeds ray maxDistance := by
  obtain ⟨inside, outside⟩ := sight.sign voxels
  exact ⟨fun behind => by_contra fun free => (outside free).not_gt behind, fun met => (inside met).1⟩

end Tracing

namespace Updating

section Totals

variable {values : Nat → Vec4 ℝ} {weight : Nat → ℝ} {n : Nat} {total : IrradianceSum ℝ}

noncomputable def front (values : Nat → Vec4 ℝ) (n : Nat) : Finset Nat :=
  (Finset.range n).filter fun ray => ¬(values ray).w < 0

noncomputable def back (values : Nat → Vec4 ℝ) (n : Nat) : Finset Nat :=
  (Finset.range n).filter fun ray => (values ray).w < 0

structure Totals (values : Nat → Vec4 ℝ) (weight : Nat → ℝ) (n : Nat) (total : IrradianceSum ℝ) :
    Prop where
  sum : ∀ axis, total.sum.axis axis =
    ∑ ray ∈ front values n, (values ray).xyz.axis axis * weight ray
  weight : total.weight = ∑ ray ∈ front values n, weight ray
  backfaces : total.backfaces = (back values n).card

theorem Totals.start : Totals values weight 0 ⟨.zero, 0.0, 0⟩ where
  sum := by
    intro axis
    rw [Vec3.axis_zero]
    rfl
  weight := real_zero
  backfaces := rfl

theorem Totals.step {dir rayDir : Vec3 ℝ} (weighs : weight n = max (dir.dot rayDir) 0)
    (totals : Totals values weight n total) :
    Totals values weight (n + 1) (total.add dir rayDir (values n)) := by
  obtain ⟨sum, weights, backfaces⟩ := totals
  have last : n ∉ Finset.range n := Finset.notMem_range_self
  by_cases behind : (values n).w < 0
  · have kept : front values (n + 1) = front values n := by
      rw [front, Finset.range_add_one, Finset.filter_insert, if_neg (not_not.mpr behind), front]
    have counted : (back values (n + 1)).card = (back values n).card + 1 := by
      rw [back, Finset.range_add_one, Finset.filter_insert, if_pos behind,
        Finset.card_insert_of_notMem (fun member => last (Finset.mem_filter.mp member).1), back]
    simp only [IrradianceSum.add, lt_real, real_zero, behind, decide_true, if_true]
    exact ⟨kept ▸ sum, kept ▸ weights, by rw [backfaces, counted]⟩
  · have kept : back values (n + 1) = back values n := by
      rw [back, Finset.range_add_one, Finset.filter_insert, if_neg behind, back]
    have added : ∀ f : Nat → ℝ,
        ∑ ray ∈ front values (n + 1), f ray = ∑ ray ∈ front values n, f ray + f n := by
      intro f
      rw [front, Finset.range_add_one, Finset.filter_insert, if_pos behind,
        Finset.sum_insert (fun member => last (Finset.mem_filter.mp member).1), add_comm, front]
    simp only [IrradianceSum.add, lt_real, real_zero, behind, decide_false, Bool.false_eq_true,
      if_false, maxNum_real, ← weighs]
    refine ⟨fun axis => ?_, ?_, kept ▸ backfaces⟩
    · rw [added, Vec3.axis_add, Vec3.axis_scale, sum]
    · rw [added, weights]

noncomputable def weightOf (volume : Volume ℝ) (dir : Vec3 ℝ) (ray : Nat) : ℝ :=
  max (dir.dot (direction volume ray)) 0

theorem totals_of_foldl (volume : Volume ℝ) (values : Nat → Vec4 ℝ) (dir : Vec3 ℝ) (n : Nat) :
    Totals values (weightOf volume dir) n
      (((List.range n).map fun ray => (direction volume ray, values ray)).foldl
        (fun s ray => s.add dir ray.1 ray.2) ⟨.zero, 0.0, 0⟩) := by
  induction n with
  | zero => exact .start
  | succ n ih =>
      rw [List.range_succ, List.map_append, List.foldl_append]
      exact ih.step rfl

end Totals

section Shares

variable {volume : Volume ℝ} {values : Nat → Vec4 ℝ} {dir : Vec3 ℝ} {n : Nat}

theorem toNat_backfaceShare (short : n ≤ Batch.raysLimit) :
    toNat (floor (backfaceShare * ofNat n : ℝ)) = ⌊(0.1 : ℝ) * n⌋₊ := by
  have nonneg : (0 : ℝ) ≤ 0.1 * n := by positivity
  have few : ⌊(0.1 : ℝ) * n⌋₊ ≤ 4294967295 := by
    have count : (0 : ℝ) ≤ n := n.cast_nonneg
    have share : (0.1 : ℝ) * n ≤ n := by
      norm_num
      linarith
    calc
      ⌊(0.1 : ℝ) * n⌋₊ ≤ n := Nat.floor_le_of_le share
      _ ≤ 256 := short
      _ ≤ 4294967295 := by decide
  rw [backfaceShare, ofNat_real, floor_real, ← natCast_floor_eq_intCast_floor nonneg, toNat_real,
    Nat.floor_natCast, min_eq_left few]

/-- Half of the mean of the rays that count, by their weights; `least` keeps it from being too large
where there is next to no weight. -/
noncomputable def halfMean (counted : Finset Nat) (weight : Nat → ℝ) (least : ℝ)
    (value : Nat → ℝ) : ℝ :=
  (∑ ray ∈ counted, value ray * weight ray) / (2 * max (∑ ray ∈ counted, weight ray) least)

theorem halfMean_le (counted : Finset Nat) {weight : Nat → ℝ} (low : ∀ ray, 0 ≤ weight ray)
    (least : ℝ) (value : Nat → ℝ) :
    halfMean counted weight least value ≤ counted.fold max 0 value / 2 := by
  set top := counted.fold max 0 value with top_eq
  set total := ∑ ray ∈ counted, weight ray with total_eq
  have top_nonneg : 0 ≤ top := (Finset.le_fold_max 0).mpr (.inl le_rfl)
  have below : ∀ ray ∈ counted, value ray ≤ top := fun ray member =>
    (Finset.le_fold_max _).mpr (.inr ⟨ray, member, le_rfl⟩)
  have total_nonneg : 0 ≤ total := Finset.sum_nonneg fun ray _ => low ray
  have sum : ∑ ray ∈ counted, value ray * weight ray ≤ top * max total least := by
    calc
      ∑ ray ∈ counted, value ray * weight ray ≤ ∑ ray ∈ counted, top * weight ray :=
        Finset.sum_le_sum fun ray member => mul_le_mul_of_nonneg_right (below ray member) (low ray)
      _ = top * total := (Finset.mul_sum ..).symm
      _ ≤ top * max total least := mul_le_mul_of_nonneg_left (le_max_left ..) top_nonneg
  rcases (total_nonneg.trans (le_max_left total least)).eq_or_lt with none | some
  · rw [halfMean, ← total_eq, ← none, mul_zero, div_zero]
    exact div_nonneg top_nonneg two_pos.le
  · rw [halfMean, ← total_eq, div_le_iff₀ (mul_pos two_pos some)]
    linarith

theorem irradianceOf_eq (volume : Volume ℝ) (values : Nat → Vec4 ℝ) (dir : Vec3 ℝ) :
    (⌊(0.1 : ℝ) * raysRead volume⌋₊ < (back values (raysRead volume)).card →
      irradianceOf (raysOf volume values) dir = .zero) ∧
    ((back values (raysRead volume)).card ≤ ⌊(0.1 : ℝ) * raysRead volume⌋₊ →
      (irradianceOf (raysOf volume values) dir).w = 1 ∧ ∀ axis,
        (irradianceOf (raysOf volume values) dir).xyz.axis axis =
          halfMean (front values (raysRead volume)) (weightOf volume dir) (raysRead volume * 1e-9)
            fun ray => (values ray).xyz.axis axis) := by
  have totals := totals_of_foldl volume values dir (raysRead volume)
  rw [irradianceOf, length_raysOf, toNat_backfaceShare Tracing.raysRead_le]
  dsimp only
  rw [raysOf]
  set total := List.foldl _ _ _ with total_eq
  constructor
  · intro many
    rw [totals.backfaces, if_pos many]
  · intro few
    rw [totals.backfaces, if_neg few.not_gt]
    refine ⟨real_one, fun axis => ?_⟩
    change (total.sum.divide _).axis axis = _
    rw [Vec3.axis_divide, totals.sum, totals.weight, halfMean, maxNum_real, real_two, ofNat_real]

end Shares

section Embedding

variable {s : Surroundings ℝ} {rays : Nat → Ray ℝ} {maxDistance : ℝ} {values : Nat → Vec4 ℝ}
  {n : Nat}

noncomputable def embedded (f : DistanceField ℝ) (rays : Nat → Ray ℝ) (maxDistance : ℝ) (n : Nat) :
    Finset Nat :=
  (Finset.range n).filter fun ray => f.Embeds (rays ray) maxDistance

noncomputable def free (f : DistanceField ℝ) (rays : Nat → Ray ℝ) (maxDistance : ℝ) (n : Nat) :
    Finset Nat :=
  Finset.range n \ embedded f rays maxDistance n

theorem mem_embedded {f : DistanceField ℝ} {ray : Nat} :
    ray ∈ embedded f rays maxDistance n ↔ ray < n ∧ f.Embeds (rays ray) maxDistance := by
  rw [embedded, Finset.mem_filter, Finset.mem_range]

theorem back_eq_embedded (voxels : s.field.HasVoxels)
    (traced : ∀ ray < n, Tracing.traceRay s (rays ray) maxDistance = .ok (values ray)) :
    back values n = embedded s.field rays maxDistance n :=
  Finset.filter_congr fun ray member =>
    (Tracing.sight_of_traceRay (traced ray (Finset.mem_range.mp member))).neg_iff voxels

theorem front_eq_free (voxels : s.field.HasVoxels)
    (traced : ∀ ray < n, Tracing.traceRay s (rays ray) maxDistance = .ok (values ray)) :
    front values n = free s.field rays maxDistance n := by
  rw [free, ← back_eq_embedded voxels traced, front, back, Finset.filter_not]

end Embedding

/-- The sign of what is stored is all that tells of geometry around a probe. Every ray is answered;
it stores a negative distance, and no radiance, exactly if the march met something within the first
voxel with the ray not outside of it, and a positive distance otherwise. So a gathering of such
entries gives nothing around any direction if more than a tenth of the rays started inside of
geometry, and otherwise half of the mean of exactly the others, which on no channel is more than
half of the largest of them. -/
theorem embedding_told_by_sign {s : Surroundings ℝ} (voxels : s.field.HasVoxels) (maxDistance : ℝ) :
    (s.Answers → ∀ ray, ∃ entry, Tracing.traceRay s ray maxDistance = .ok entry) ∧
    (∀ ray entry, Tracing.traceRay s ray maxDistance = .ok entry →
      (entry.w < 0 ↔ s.field.Embeds ray maxDistance) ∧
      (s.field.Embeds ray maxDistance → entry.xyz = .zero) ∧
      (¬s.field.Embeds ray maxDistance → 0 < entry.w)) ∧
    ∀ (volume : Volume ℝ) (buffer : Array (Vec4 ℝ)) (batchProbe : Nat) (rays : Nat → Ray ℝ)
      (entries : Nat → Vec4 ℝ),
      (∀ ray < raysRead volume, Tracing.traceRay s (rays ray) maxDistance = .ok (entries ray)) →
      (∀ ray < raysRead volume, ∃ place, Batch.traceIndex batchProbe ray = .ok place ∧
        fetch buffer place = .ok (entries ray)) →
      ∀ dir, ∃ out, gatherIrradiance volume buffer batchProbe dir = .ok out ∧
        (⌊(0.1 : ℝ) * raysRead volume⌋₊ <
            (embedded s.field rays maxDistance (raysRead volume)).card → out = .zero) ∧
        ((embedded s.field rays maxDistance (raysRead volume)).card ≤
            ⌊(0.1 : ℝ) * raysRead volume⌋₊ → out.w = 1 ∧ ∀ axis, out.xyz.axis axis =
          halfMean (free s.field rays maxDistance (raysRead volume)) (weightOf volume dir)
            (raysRead volume * 1e-9) fun ray => (entries ray).xyz.axis axis) ∧
        ∀ axis, out.xyz.axis axis ≤
          (free s.field rays maxDistance (raysRead volume)).fold max 0
            (fun ray => (entries ray).xyz.axis axis) / 2 := by
  refine ⟨fun answers ray => Tracing.traceRay_ends answers ray maxDistance, ?_, ?_⟩
  · intro ray entry ran
    have sight := Tracing.sight_of_traceRay ran
    obtain ⟨inside, outside⟩ := sight.sign voxels
    exact ⟨sight.neg_iff voxels, fun met => (inside met).2, outside⟩
  · intro volume buffer batchProbe rays entries traced stored dir
    have reads : ∀ ray < raysRead volume,
        rayAt volume buffer batchProbe ray = .ok (direction volume ray, entries ray) := by
      intro ray below
      obtain ⟨place, indexed, held⟩ := stored ray below
      exact rayAt_of_fetch indexed held
    obtain ⟨many, few⟩ := irradianceOf_eq volume entries dir
    rw [back_eq_embedded voxels traced] at many few
    rw [front_eq_free voxels traced] at few
    refine ⟨_, gatherIrradiance_eq reads dir, many, few, fun axis => ?_⟩
    rcases lt_or_ge ⌊(0.1 : ℝ) * raysRead volume⌋₊
      (embedded s.field rays maxDistance (raysRead volume)).card with above | below
    · have top : 0 ≤ (free s.field rays maxDistance (raysRead volume)).fold max 0
          fun ray => (entries ray).xyz.axis axis := (Finset.le_fold_max 0).mpr (.inl le_rfl)
      have dark : (Vec4.zero : Vec4 ℝ).xyz.axis axis = 0 := Vec3.axis_zero axis
      rw [many above, dark]
      exact div_nonneg top two_pos.le
    · rw [(few below).2 axis]
      exact halfMean_le _ (fun ray => le_max_right ..) _ _

noncomputable def street : Surroundings ℝ where
  field := .wall
  sky _ := .ok ⟨1, 2, 1⟩
  surface _ _ _ := .ok ⟨0, 0, 0, 1⟩

def tenth (ray : Nat) : Ray ℝ :=
  if ray = 0 then ⟨⟨-1, 0, 0⟩, ⟨0, 1, 0⟩⟩ else ⟨⟨2, 0, 0⟩, ⟨0, 1, 0⟩⟩

noncomputable def tenRays : Volume ℝ := { DistanceThread.lantern with raysCount := 10 }

theorem street_voxels : street.field.HasVoxels := DistanceField.wall_isDistance.positive

theorem street_answers : street.Answers :=
  ⟨DistanceField.wall_isDistance.answers, fun _ => ⟨_, rfl⟩, fun _ _ _ => ⟨_, rfl⟩⟩

theorem embeds_tenth : street.field.Embeds (tenth 0) 2 := by
  obtain ⟨found, gradient⟩ :=
    DistanceField.wall_isDistance.answers.sampleGradient_ends ((tenth 0).point 0.0)
  have here : ((tenth 0).point 0.0).x = -1 := by
    norm_num [tenth, Ray.point, Vec3.add_eq, Vec3.scale_eq]
  have met : street.field.trace (tenth 0) 2 = .ok (some ⟨0.0, -1, 0, found.1⟩) := by
    rw [DistanceField.trace, maxMarchSteps, DistanceField.march]
    simp only [street, DistanceField.wall, ok_bind, here, lt_real] at gradient ⊢
    rw [gradient]
    norm_num
  exact ⟨_, 1, met, rfl, by norm_num, by norm_num⟩

theorem not_embeds_tenth {ray : Nat} (other : ray ≠ 0) : ¬street.field.Embeds (tenth ray) 2 := by
  have missed : street.field.trace (tenth ray) 2 = .ok none := by
    have there : ∀ time, ((tenth ray).point time).x = 2 := by
      intro time
      simp [tenth, other, Ray.point, Vec3.add_eq, Vec3.scale_eq]
    have passed : street.field.march (tenth ray) 2 127 (0 + 2) = .ok none := by
      rw [DistanceField.march]
      norm_num
    rw [DistanceField.trace, maxMarchSteps, DistanceField.march]
    simp only [street, DistanceField.wall, ok_bind, there, lt_real, maxNum_real] at passed ⊢
    norm_num at passed ⊢
    exact passed
  rintro ⟨hit, size, met, -⟩
  cases missed.symm.trans met

theorem embedding_told_by_sign_street :
    (∃ entry, Tracing.traceRay street (tenth 0) 2 = .ok entry ∧ entry.w < 0 ∧
      entry.xyz = .zero) ∧
    (∃ entry, Tracing.traceRay street (tenth 1) 2 = .ok entry ∧ 0 < entry.w) ∧
    ∃ buffer out, gatherIrradiance tenRays buffer 0 ⟨0, 0, 1⟩ = .ok out ∧ out.w = 1 := by
  obtain ⟨ends, signs, gathers⟩ := embedding_told_by_sign street_voxels 2
  choose entries traced using fun ray => ends street_answers (tenth ray)
  have own := signs (tenth 0) (entries 0) (traced 0)
  have next := signs (tenth 1) (entries 1) (traced 1)
  have stored : ∀ ray < raysRead tenRays, ∃ place, Batch.traceIndex 0 ray = .ok place ∧
      fetch ((List.range 10).map entries).toArray place = .ok (entries ray) := by
    intro ray below
    have below : ray < 10 := below
    exact ⟨ray, Tracing.traceIndex_eq_ok.mpr ⟨by omega, by omega⟩,
      fetch_eq_ok.mpr (by simp [below])⟩
  obtain ⟨out, gathered, -, few, -⟩ := gathers tenRays _ 0 tenth entries (fun ray _ => traced ray)
    stored ⟨0, 0, 1⟩
  have one : (embedded street.field tenth 2 (raysRead tenRays)).card ≤
      ⌊(0.1 : ℝ) * raysRead tenRays⌋₊ := by
    have single : embedded street.field tenth 2 (raysRead tenRays) ⊆ {0} := by
      intro ray member
      by_contra other
      exact not_embeds_tenth (by simpa using other) (mem_embedded.mp member).2
    have read : raysRead tenRays = 10 := rfl
    have limit : ⌊(0.1 : ℝ) * (10 : Nat)⌋₊ = 1 := by norm_num
    rw [read, limit]
    exact Finset.card_le_card single
  exact ⟨⟨entries 0, traced 0, own.1.mpr embeds_tenth, own.2.1 embeds_tenth⟩,
    ⟨entries 1, traced 1, next.2.2 (not_embeds_tenth one_ne_zero)⟩, _, out, gathered, (few one).1⟩

end Updating

end IrradianceField
