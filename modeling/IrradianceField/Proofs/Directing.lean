import IrradianceField.Proofs.Fetching
import IrradianceField.Proofs.Marching
import IrradianceField.Proofs.Spreading

/-!
Directing: rays are traced along a lattice of as many directions as a probe has rays, and weighed along
one of as many as are read back. The two are the same unless some rays are left out.
-/

namespace IrradianceField

open Scalar

namespace Quat

variable {q : Quat ℝ} {u v : Vec3 ℝ}

def lengthSquared (q : Quat ℝ) : ℝ := q.x ^ 2 + q.y ^ 2 + q.z ^ 2 + q.w ^ 2

theorem lengthSquared_nonneg (q : Quat ℝ) : 0 ≤ q.lengthSquared := by
  rw [lengthSquared]
  positivity

theorem lengthSquared_pos (some : q ≠ ⟨0, 0, 0, 0⟩) : 0 < q.lengthSquared := by
  refine q.lengthSquared_nonneg.lt_of_ne fun none => some ?_
  have squares : q.x ^ 2 = 0 ∧ q.y ^ 2 = 0 ∧ q.z ^ 2 = 0 ∧ q.w ^ 2 = 0 := by
    rw [lengthSquared] at none
    refine ⟨?_, ?_, ?_, ?_⟩
    all_goals linarith [sq_nonneg q.x, sq_nonneg q.y, sq_nonneg q.z, sq_nonneg q.w]
  simp only [pow_eq_zero_iff two_ne_zero] at squares
  obtain ⟨x, y, z, w⟩ := q
  exact (mk.injEq ..).mpr squares

theorem rotate_sub (q : Quat ℝ) (u v : Vec3 ℝ) : q.rotate (u - v) = q.rotate u - q.rotate v := by
  simp only [rotate, Vec3.add_eq, Vec3.sub_eq, Vec3.scale_eq, Vec3.dot, Vec3.cross, real_two,
    Vec3.mk.injEq]
  refine ⟨?_, ?_, ?_⟩ <;> ring

theorem length_rotate (q : Quat ℝ) (v : Vec3 ℝ) :
    (q.rotate v).length = q.lengthSquared * v.length := by
  have squares : (q.rotate v).x ^ 2 + (q.rotate v).y ^ 2 + (q.rotate v).z ^ 2 =
      q.lengthSquared ^ 2 * (v.x ^ 2 + v.y ^ 2 + v.z ^ 2) := by
    simp only [rotate, lengthSquared, Vec3.add_eq, Vec3.scale_eq, Vec3.dot, Vec3.cross, real_two]
    ring
  rw [Vec3.length_eq, Vec3.length_eq, squares, Real.sqrt_mul (sq_nonneg _),
    Real.sqrt_sq q.lengthSquared_nonneg]

theorem rotate_inj (some : q ≠ ⟨0, 0, 0, 0⟩) : q.rotate u = q.rotate v ↔ u = v := by
  refine ⟨fun same => ?_, congrArg q.rotate⟩
  have none : (q.rotate (u - v)).length = 0 := by
    rw [rotate_sub, same]
    simp [Vec3.length_eq, Vec3.sub_eq]
  rw [length_rotate, mul_eq_zero_iff_left (lengthSquared_pos some).ne'] at none
  apply Vec3.eq_of_axes
  intro axis
  have still := Vec3.abs_axis_le_length (u - v) axis
  rw [none, abs_nonpos_iff, Vec3.axis_sub] at still
  exact sub_eq_zero.mp still

end Quat

namespace Ray

variable {i count count' : Nat} {rotation : Quat ℝ}

theorem probeDirection_eq_iff (some : rotation ≠ ⟨0, 0, 0, 0⟩) (inside : i < count)
    (inside' : i < count') :
    (probeDirection i count rotation : Vec3 ℝ) = probeDirection i count' rotation ↔
      count = count' := by
  refine ⟨fun same => ?_, fun same => same ▸ rfl⟩
  have long : ∀ {n : Nat}, i < n →
      (rotation.rotate (fibonacciPoint i n)).length = rotation.lengthSquared := by
    intro n below
    rw [Quat.length_rotate, length_fibonacciPoint below, mul_one]
  rw [probeDirection, probeDirection, Vec3.normalize, Vec3.normalize, long inside,
    long inside'] at same
  have turned : rotation.rotate (fibonacciPoint i count : Vec3 ℝ) =
      rotation.rotate (fibonacciPoint i count') := by
    have factor : (1.0 : ℝ) / rotation.lengthSquared ≠ 0 := by
      rw [real_one]
      exact one_div_ne_zero (Quat.lengthSquared_pos some).ne'
    apply Vec3.eq_of_axes
    intro axis
    have part := congrArg (fun v : Vec3 ℝ => v.axis axis) same
    simp only [Vec3.axis_scale] at part
    exact mul_right_cancel₀ factor part
  have tall : height i count = height i count' := by
    have point := (Quat.rotate_inj some).mp turned
    rw [fibonacciPoint_eq inside, fibonacciPoint_eq inside'] at point
    exact (Vec3.mk.inj point).2.2
  have step : (2 * (i : ℝ) + 1) / count = (2 * (i : ℝ) + 1) / count' := by
    rw [height, height] at tall
    linarith
  have first : (0 : ℝ) < count := by exact_mod_cast Nat.zero_lt_of_lt inside
  have second : (0 : ℝ) < count' := by exact_mod_cast Nat.zero_lt_of_lt inside'
  rw [div_eq_div_iff first.ne' second.ne'] at step
  exact_mod_cast (mul_left_cancel₀ (by positivity) step).symm

end Ray

section Directions

variable {α : Type} [Scalar α]

/-- The direction that a probe's ray is traced in. -/
def Tracing.direction (volume : Volume α) (ray : Nat) : Vec3 α :=
  Ray.probeDirection ray volume.raysCount volume.raysRotation

/-- The direction that a probe's ray is weighed by. -/
def Updating.direction (volume : Volume α) (ray : Nat) : Vec3 α :=
  Ray.probeDirection ray (Updating.raysRead volume) volume.raysRotation

theorem direction_of_few {volume : Volume α} (few : volume.raysCount ≤ Batch.raysLimit) :
    Updating.direction volume = Tracing.direction volume := by
  funext ray
  rw [Updating.direction, Tracing.direction, Updating.raysRead, Nat.min_eq_left few]

theorem direction_eq_iff {volume : Volume ℝ} (turns : volume.raysRotation ≠ ⟨0, 0, 0, 0⟩) {ray : Nat}
    (read : ray < Updating.raysRead volume) :
    Updating.direction volume ray = Tracing.direction volume ray ↔
      volume.raysCount ≤ Batch.raysLimit := by
  rw [Updating.direction, Tracing.direction, Ray.probeDirection_eq_iff turns read
    (read.trans_le (Nat.min_le_left ..)), Updating.raysRead, min_eq_left_iff]

end Directions

namespace Tracing

variable {α : Type} [Scalar α] {volume : Volume α} {pass : BatchPass} {probes : Array PackedProbe}
  {active : ActiveList} {s : Surroundings α} {groups : Vec3 Nat} {trace traced : Array (Vec4 α)}
  {thread : Nat × Nat}

theorem entry_of_run (inBatch : groups.y ≤ Batch.probesLimit)
    (words : pass.probesOffset + groups.y ≤ 4294967296)
    (ran : run volume pass probes active s groups trace = .ok traced)
    (busy : thread ∈ workers volume pass active groups) :
    ∃ index value, fetch active.entries (pass.probesOffset + thread.1) = .ok index ∧
      seen volume probes s pass.cascade index thread.2 = .ok value ∧
      traced[thread.1 * Batch.raysLimit + thread.2]? = some value := by
  have made := (run_eq_ok inBatch words).mp ran
  obtain ⟨_, value, -, sight, after⟩ := made.changed _ (List.mem_map_of_mem busy)
  obtain ⟨index, held, sight⟩ := bind_eq_ok.mp sight
  exact ⟨index, value, held, sight, after⟩

end Tracing

namespace Updating

section Gathering

variable {α : Type} [Scalar α]

/-- What is gathered from rays, given by the directions that they are weighed by and what they have
seen: irradiance and confidence around `dir`. -/
def irradianceOf (rays : List (Vec3 α × Vec4 α)) (dir : Vec3 α) : Vec4 α :=
  let limit := toNat (floor (backfaceShare * ofNat rays.length : α))
  let total := rays.foldl (fun (s : IrradianceSum α) ray => s.add dir ray.1 ray.2) ⟨.zero, 0.0, 0⟩
  if limit < total.backfaces then .zero
  else
    let floorWeight := ofNat rays.length * 1e-9
    (total.sum.divide (2.0 * maxNum total.weight floorWeight)).extend 1.0

def momentsOf (rays : List (Vec3 α × Vec4 α)) (dir : Vec3 α) (limit : α) :
    Except Fault (Vec2 α) := do
  let total ← rays.foldlM (fun (s : DistanceSum α) ray => s.add dir ray.1 ray.2 limit)
    ⟨.splat 0.0, 0.0⟩
  let floorWeight := ofNat rays.length * 1e-9
  clampMoments (total.sum.divide (maxNum total.weight floorWeight)) limit

def raysOf (volume : Volume α) (values : Nat → Vec4 α) : List (Vec3 α × Vec4 α) :=
  (List.range (raysRead volume)).map fun ray => (direction volume ray, values ray)

variable {volume : Volume α} {trace : Array (Vec4 α)} {batchProbe : Nat} {values : Nat → Vec4 α}

theorem length_raysOf : (raysOf volume values).length = raysRead volume := by
  rw [raysOf, List.length_map, List.length_range]

theorem rayAt_of_fetch {ray place : Nat} {stored : Vec4 α}
    (indexed : Batch.traceIndex batchProbe ray = .ok place) (held : fetch trace place = .ok stored) :
    rayAt volume trace batchProbe ray = .ok (direction volume ray, stored) := by
  rw [rayAt, indexed, ok_bind, held]
  rfl

omit [Scalar α] in
theorem traceIndex_of_lt {ray : Nat} (inBatch : batchProbe < Batch.probesLimit)
    (inside : ray < raysRead volume) :
    Batch.traceIndex batchProbe ray = .ok (batchProbe * Batch.raysLimit + ray) := by
  have below := inside.trans_le Tracing.raysRead_le
  simp only [Batch.raysLimit, Batch.probesLimit] at below inBatch
  exact Tracing.traceIndex_eq_ok.mpr ⟨rfl, by simp only [Batch.raysLimit]; omega⟩

variable (reads : ∀ ray < raysRead volume,
  rayAt volume trace batchProbe ray = .ok (direction volume ray, values ray))

include reads

theorem foldlM_rays {σ : Type} (f : σ → Vec3 α → Vec4 α → Except Fault σ) (start : σ) :
    (List.range (raysRead volume)).foldlM (fun s ray => do
      let (rayDir, stored) ← rayAt volume trace batchProbe ray
      f s rayDir stored) start =
        (raysOf volume values).foldlM (fun s ray => f s ray.1 ray.2) start := by
  rw [raysOf, List.foldlM_map]
  refine foldlM_congr fun ray member s => ?_
  rw [reads ray (List.mem_range.mp member)]
  rfl

theorem gatherIrradiance_eq (dir : Vec3 α) :
    gatherIrradiance volume trace batchProbe dir =
      .ok (irradianceOf (raysOf volume values) dir) := by
  have folded := foldlM_rays reads
    (fun (s : IrradianceSum α) rayDir stored => pure (s.add dir rayDir stored)) ⟨.zero, 0.0, 0⟩
  rw [List.foldlM_pure] at folded
  rw [gatherIrradiance, irradianceOf, length_raysOf]
  dsimp only
  rw [folded, pure_eq_ok, ok_bind]
  split <;> rfl

theorem gatherDistance_eq (dir : Vec3 α) (limit : α) :
    gatherDistance volume trace batchProbe dir limit =
      momentsOf (raysOf volume values) dir limit := by
  rw [gatherDistance, momentsOf, length_raysOf]
  dsimp only
  rw [foldlM_rays reads fun (s : DistanceSum α) rayDir stored => s.add dir rayDir stored limit]

end Gathering

/-- A probe at `origin` has traced its rays along one lattice and gathers what they saw by another. -/
structure Gathers {α : Type} [Scalar α] (volume : Volume α) (s : Surroundings α)
    (buffer : Array (Vec4 α)) (batchProbe : Nat) (origin : Vec3 α) (values : Nat → Vec4 α) :
    Prop where
  traced : ∀ ray < raysRead volume, Tracing.traceRay s ⟨origin, Tracing.direction volume ray⟩
    volume.rayMaxDistance = .ok (values ray)
  irradiance : ∀ dir, gatherIrradiance volume buffer batchProbe dir =
    .ok (irradianceOf (raysOf volume values) dir)
  distance : ∀ dir limit, gatherDistance volume buffer batchProbe dir limit =
    momentsOf (raysOf volume values) dir limit

section Dispatch

variable {α : Type} [Scalar α] {volume : Volume α} {pass : BatchPass} {probes : Array PackedProbe}
  {active : ActiveList} {s : Surroundings α} {groups : Vec3 Nat} {buffer traced : Array (Vec4 α)}
  {batchProbe : Nat}

theorem gathers_of_run (inBatch : groups.y ≤ Batch.probesLimit)
    (words : pass.probesOffset + groups.y ≤ 4294967296)
    (covered : raysRead volume ≤ groups.x * Batch.traceGroupSize)
    (ran : Tracing.run volume pass probes active s groups buffer = .ok traced)
    (inside : batchProbe < groups.y) (listed : pass.probesOffset + batchProbe < active.count)
    {index : Nat} {probe : Probe α} {origin : Vec3 α}
    (held : fetch active.entries (pass.probesOffset + batchProbe) = .ok index)
    (read : volume.readProbe probes pass.cascade index = .ok probe)
    (placed : volume.relocatedPosition pass.cascade index probe = .ok origin) :
    ∃ values, Gathers volume s traced batchProbe origin values := by
  have stored : ∀ ray < raysRead volume, ∃ value,
      Tracing.traceRay s ⟨origin, Tracing.direction volume ray⟩ volume.rayMaxDistance = .ok value ∧
        rayAt volume traced batchProbe ray = .ok (direction volume ray, value) := by
    intro ray below
    have busy : (batchProbe, ray) ∈ Tracing.workers volume pass active groups :=
      Tracing.mem_workers.mpr ⟨⟨inside, below.trans_le covered⟩, below, listed⟩
    obtain ⟨_, value, own, sight, after⟩ := Tracing.entry_of_run inBatch words ran busy
    obtain rfl := Except.ok.inj (held.symm.trans own)
    simp only [Tracing.seen, read, placed, ok_bind] at sight
    have place := traceIndex_of_lt (inside.trans_le inBatch) below
    exact ⟨value, sight, rayAt_of_fetch place (fetch_eq_ok.mpr after)⟩
  choose! values sights reads using stored
  exact ⟨values, sights, gatherIrradiance_eq reads, gatherDistance_eq reads⟩

end Dispatch

/-- A thread that ends has stored something that can be seen, from some place, in the direction that
it is weighed by. -/
def WeighsAsTraced {α : Type} [Scalar α] (volume : Volume α) : Prop :=
  ∀ (pass : BatchPass) (probes : Array PackedProbe) (active : ActiveList) (s : Surroundings α)
    (buffer traced : Array (Vec4 α)) (batchProbe ray : Nat) (rayDir : Vec3 α) (stored : Vec4 α),
    ray < raysRead volume → pass.probesOffset + batchProbe < active.count →
    Tracing.traceProbe volume pass probes active s ray batchProbe buffer = .ok traced →
    rayAt volume traced batchProbe ray = .ok (rayDir, stored) →
    ∃ origin, Tracing.traceRay s ⟨origin, rayDir⟩ volume.rayMaxDistance = .ok stored

theorem weighsAsTraced_of_few {α : Type} [Scalar α] {volume : Volume α}
    (few : volume.raysCount ≤ Batch.raysLimit) : WeighsAsTraced volume := by
  intro pass probes active s buffer traced batchProbe ray rayDir stored below listed ran found
  obtain ⟨_, sum, -⟩ := bind_eq_ok.mp ran
  obtain ⟨rfl, words⟩ := Word.add_eq_ok.mp sum
  have words : pass.probesOffset + (batchProbe, ray).1 < 4294967296 := words
  rw [Tracing.traceProbe_eq words (Tracing.works_iff.mpr ⟨below, listed⟩)] at ran
  obtain ⟨index, -, ran⟩ := bind_eq_ok.mp ran
  obtain ⟨value, sight, ran⟩ := bind_eq_ok.mp ran
  obtain ⟨place, indexed, ran⟩ := bind_eq_ok.mp ran
  obtain ⟨inside, rfl⟩ := store_eq_ok.mp ran
  obtain ⟨probe, -, sight⟩ := bind_eq_ok.mp sight
  obtain ⟨origin, -, sight⟩ := bind_eq_ok.mp sight
  have own : fetch (buffer.setIfInBounds place value) place = .ok value :=
    fetch_eq_ok.mpr (Array.getElem?_setIfInBounds_self_of_lt inside)
  rw [rayAt, indexed, ok_bind, own] at found
  obtain ⟨rfl, rfl⟩ := Prod.mk.inj (Except.ok.inj found)
  have same : Ray.probeDirection ray (raysRead volume) volume.raysRotation =
      (Ray.probeDirection ray volume.raysCount volume.raysRotation : Vec3 α) :=
    congrFun (direction_of_few few) ray
  exact ⟨origin, same ▸ sight⟩

/-- After a dispatch that covers the rays that are read, each probe of the batch gathers what its
own rays saw, from its own position, along the lattice of `raysCount` directions, and weighs it by
the lattice of `raysRead` directions. If no rays are left out, the lattices are the same; if some
are, a ray is weighed by the direction it was traced in for no index at all. -/
theorem weighs_by_lattice_read {α : Type} [Scalar α] (volume : Volume α) :
    (∀ (pass : BatchPass) (probes : Array PackedProbe) (active : ActiveList) (s : Surroundings α)
      (groups : Vec3 Nat) (buffer traced : Array (Vec4 α)),
      groups.y ≤ Batch.probesLimit → pass.probesOffset + groups.y ≤ 4294967296 →
      raysRead volume ≤ groups.x * Batch.traceGroupSize →
      Tracing.run volume pass probes active s groups buffer = .ok traced →
      ∀ batchProbe < groups.y, pass.probesOffset + batchProbe < active.count →
      ∀ index (probe : Probe α) origin,
      fetch active.entries (pass.probesOffset + batchProbe) = .ok index →
      volume.readProbe probes pass.cascade index = .ok probe →
      volume.relocatedPosition pass.cascade index probe = .ok origin →
      ∃ values, Gathers volume s traced batchProbe origin values) ∧
    (volume.raysCount ≤ Batch.raysLimit →
      direction volume = Tracing.direction volume ∧ WeighsAsTraced volume) ∧
    ∀ exact : Volume ℝ, exact.raysRotation ≠ ⟨0, 0, 0, 0⟩ → ∀ ray < raysRead exact,
      (direction exact ray = Tracing.direction exact ray ↔ exact.raysCount ≤ Batch.raysLimit) := by
  refine ⟨?_, ?_, ?_⟩
  · intro pass probes active s groups buffer traced inBatch words covered ran batchProbe inside listed
      index probe origin held read placed
    exact gathers_of_run inBatch words covered ran inside listed held read placed
  · exact fun few => ⟨direction_of_few few, weighsAsTraced_of_few few⟩
  · exact fun _ turns _ read => direction_eq_iff turns read

noncomputable def crowded : Volume ℝ := { DistanceThread.lantern with raysCount := 512 }

noncomputable def openAir : Surroundings ℝ where
  field := ⟨fun _ => .ok 1, fun _ => .ok 1, fun _ => .ok 0⟩
  sky dir := .ok dir
  surface _ _ _ := .ok .zero

theorem traceRay_openAir (ray : Ray ℝ) (maxDistance : ℝ) :
    Tracing.traceRay openAir ray maxDistance = .ok (ray.direction.extend Tracing.skyDistance) := by
  have missed : openAir.field.trace ray maxDistance = .ok none := by
    refine DistanceField.trace_of_far (fun pos => ⟨0, 1, 1, rfl, rfl, rfl, ?_⟩) _ _
    norm_num
  rw [Tracing.traceRay, missed]
  rfl

theorem seen_crowded (ray : Nat) : Tracing.seen crowded #[⟨0, 131072⟩] openAir 0 0 ray =
    .ok ((Tracing.direction crowded ray).extend Tracing.skyDistance) := by
  have placed : ∃ probe origin, crowded.readProbe #[⟨0, 131072⟩] 0 0 = .ok probe ∧
      crowded.relocatedPosition 0 0 probe = .ok origin := ⟨_, _, rfl, rfl⟩
  obtain ⟨probe, origin, read, placed⟩ := placed
  rw [Tracing.seen, read, ok_bind, placed, ok_bind, traceRay_openAir]
  rfl

theorem crowded_turns : crowded.raysRotation ≠ ⟨0, 0, 0, 0⟩ := by
  intro still
  have one : (1.0 : ℝ) = 0 := congrArg Quat.w still
  norm_num at one

theorem weighs_by_lattice_read_crowded :
    (∃ traced origin values, Tracing.run crowded ⟨0, 0, false⟩ #[⟨0, 131072⟩] ⟨1, #[0]⟩ openAir
      ⟨16, 1, 1⟩ (.replicate 256 .zero) = .ok traced ∧
      Gathers crowded openAir traced 0 origin values) ∧
    direction DistanceThread.lantern = Tracing.direction DistanceThread.lantern ∧
    WeighsAsTraced DistanceThread.lantern ∧ direction crowded 0 ≠ Tracing.direction crowded 0 := by
  have all : ∀ edit ∈ (Tracing.workers crowded ⟨0, 0, false⟩ ⟨1, #[0]⟩ ⟨16, 1, 1⟩).map
      (Tracing.edit crowded ⟨0, 0, false⟩ #[⟨0, 131072⟩] ⟨1, #[0]⟩ openAir), ∃ old new,
      (Array.replicate 256 (.zero : Vec4 ℝ))[edit.place]? = some old ∧
        edit.change old = .ok new := by
    intro edit member
    obtain ⟨⟨batchProbe, ray⟩, busy, rfl⟩ := List.mem_map.mp member
    obtain ⟨⟨inside, -⟩, read, -⟩ := Tracing.mem_workers.mp busy
    obtain rfl : batchProbe = 0 := Nat.lt_one_iff.mp inside
    have below : ray < 256 := read.trans_le Tracing.raysRead_le
    have listed : fetch #[0] (0 + 0) = .ok 0 := rfl
    refine ⟨.zero, (Tracing.direction crowded ray).extend Tracing.skyDistance, ?_, ?_⟩
    · simp [Tracing.edit, below]
    · simp only [Tracing.edit, listed, ok_bind, seen_crowded]
  obtain ⟨traced, made⟩ := Edit.run_ends Tracing.distinct_edits all
  have ran := (Tracing.run_eq_ok (by decide) (by decide)).mpr
    ((Edit.run_eq_ok Tracing.distinct_edits).mp made)
  obtain ⟨gathers, -, differs⟩ := weighs_by_lattice_read crowded
  obtain ⟨values, gathered⟩ := gathers _ _ _ _ _ _ traced (by decide) (by decide) (by decide)
    ran 0 (by decide) (by decide) 0 _ _ rfl rfl rfl
  obtain ⟨-, few, -⟩ := weighs_by_lattice_read DistanceThread.lantern
  obtain ⟨same, weighs⟩ := few (by decide)
  refine ⟨⟨traced, _, values, ran, gathered⟩, same, weighs, ?_⟩
  exact mt (differs crowded crowded_turns 0 (by decide)).mp (by decide)

theorem not_weighsAsTraced_crowded : ¬WeighsAsTraced crowded := by
  intro weighs
  have traced : Tracing.traceProbe crowded ⟨0, 0, false⟩ #[⟨0, 131072⟩] ⟨1, #[0]⟩ openAir 0 0
      #[.zero] = .ok #[(Tracing.direction crowded 0).extend Tracing.skyDistance] := by
    have words : 0 + ((0, 0) : Nat × Nat).1 < 4294967296 := by decide
    have busy : Tracing.works crowded ⟨0, 0, false⟩ ⟨1, #[0]⟩ (0, 0) = true := by decide
    have listed : fetch #[0] 0 = .ok 0 := rfl
    rw [Tracing.traceProbe_eq words busy]
    dsimp only
    rw [listed, ok_bind, seen_crowded]
    rfl
  obtain ⟨origin, sight⟩ := weighs _ _ _ _ _ _ 0 0 _ _ (by decide) (by decide) traced rfl
  rw [traceRay_openAir] at sight
  have same := congrArg Vec4.xyz (Except.ok.inj sight)
  have read : 0 < raysRead crowded := by decide
  exact absurd ((direction_eq_iff crowded_turns read).mp same) (by decide)

end Updating

end IrradianceField
