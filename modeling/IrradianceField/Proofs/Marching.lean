import IrradianceField.Scalar.Real
import IrradianceField.DistanceField.Basic
import IrradianceField.Proofs.Classification

/-!
Marching: a ray never steps over a surface. The field changes along the ray no faster than the ray
goes, so a step of the distance itself stays on the outside.
-/

namespace IrradianceField.DistanceField

open Scalar

variable (f : DistanceField ℝ) (ray : Ray ℝ) (maxDistance : ℝ)

/-- Precisions are positive, and along the ray the field is a distance: it changes by no more than
the way between two points. -/
structure IsDistance : Prop where
  answers : f.Answers
  positive : ∀ cascade size, f.voxelSize cascade = .ok size → 0 < size
  slope : ∀ s t a b, 0 ≤ s → 0 ≤ t → f.sample (ray.point s) = .ok a →
    f.sample (ray.point t) = .ok b → |a - b| ≤ |s - t|

/-- The ray is outside of the geometry at a time. -/
def IsOutside (time : ℝ) : Prop := ∃ distance, f.sample (ray.point time) = .ok distance ∧ 0 < distance

/-- The ray has met nothing before a time. -/
def IsClear (time : ℝ) : Prop := ∀ t, 0 ≤ t → t < time → f.IsOutside ray t

/-- The field as the march sees it at a time: its value there and the threshold of the cascade. -/
def Seen (time distance threshold : ℝ) : Prop :=
  ∃ cascade size, f.sample (ray.point time) = .ok distance ∧
    f.cascadeAt (ray.point time) = .ok cascade ∧ f.voxelSize cascade = .ok size ∧
      threshold = 0.25 * size

/-- The times that a ray comes to before it reports anything, with the number of steps to them. -/
inductive Marched : Nat → ℝ → Prop
  | start : Marched 0 0
  | step {steps time distance threshold} (before : Marched steps time) (more : time < maxDistance)
      (seen : f.Seen ray time distance threshold) (far : threshold ≤ distance) :
      Marched (steps + 1) (time + max distance threshold)

/-- What is reported at the end of a march of so many steps. -/
inductive Reported (steps : Nat) (time : ℝ) : Option (Hit ℝ) → Prop
  | hit {hit : Hit ℝ} {size : ℝ} (more : steps < maxMarchSteps) (reached : time < maxDistance)
      (here : hit.time = time) (sampled : f.sample (ray.point hit.time) = .ok hit.distance)
      (located : f.cascadeAt (ray.point hit.time) = .ok hit.cascade)
      (precision : f.voxelSize hit.cascade = .ok size) (near : hit.distance < 0.25 * size) :
      Reported steps time (some hit)
  | left (more : steps < maxMarchSteps) (passed : maxDistance ≤ time) : Reported steps time none
  | tired (last : steps = maxMarchSteps) : Reported steps time none

variable {f ray maxDistance} {steps : Nat} {time distance threshold : ℝ}

theorem IsDistance.sees (smooth : f.IsDistance ray) (time : ℝ) :
    ∃ cascade size distance, f.cascadeAt (ray.point time) = .ok cascade ∧
      f.voxelSize cascade = .ok size ∧ f.sample (ray.point time) = .ok distance ∧ 0 < size := by
  rcases smooth.answers.precision (ray.point time) with ⟨cascade, size, located, precision⟩
  rcases smooth.answers.sample (ray.point time) with ⟨distance, sampled⟩
  exact ⟨cascade, size, distance, located, precision, sampled,
    smooth.positive cascade size precision⟩

theorem Answers.sampleGradient_ends (answers : f.Answers) (pos : Vec3 ℝ) :
    ∃ found, f.sampleGradient pos = .ok found := by
  have difference : ∀ step, ∃ d, f.difference pos step = .ok d := by
    intro step
    apply bind_ends (answers.sample (pos + step))
    intro ahead
    apply bind_ends (answers.sample (pos - step))
    exact fun behind => ⟨_, rfl⟩
  rcases answers.precision pos with ⟨cascade, size, located, precision⟩
  rw [sampleGradient, located, ok_bind, precision, ok_bind]
  apply bind_ends (difference _)
  intro x
  apply bind_ends (difference _)
  intro y
  apply bind_ends (difference _)
  intro z
  apply bind_ends (answers.sample pos)
  exact fun distance => ⟨_, rfl⟩

/-- A step as long as the distance leads through nothing: the field falls no faster than the ray
goes, and there is something of it left until the step is over. -/
theorem IsDistance.isClear_step (smooth : f.IsDistance ray) (forward : 0 ≤ time)
    (clear : f.IsClear ray time) (sampled : f.sample (ray.point time) = .ok distance) :
    f.IsClear ray (time + distance) := by
  intro t late early
  rcases lt_or_ge t time with before | after
  · exact clear t late before
  · rcases smooth.answers.sample (ray.point t) with ⟨there, sampled'⟩
    have slope : |distance - there| ≤ |time - t| :=
      smooth.slope time t distance there forward late sampled sampled'
    have fallen : distance - there ≤ t - time := by
      calc distance - there ≤ |distance - there| := le_abs_self _
        _ ≤ |time - t| := slope
        _ = t - time := by rw [abs_sub_comm, abs_of_nonneg (sub_nonneg.mpr after)]
    exact ⟨there, sampled', by linarith⟩

theorem Marched.isClear (smooth : f.IsDistance ray) (marched : f.Marched ray maxDistance steps time) :
    0 ≤ time ∧ f.IsClear ray time := by
  induction marched with
  | start => exact ⟨le_rfl, fun t late early => absurd early late.not_gt⟩
  | @step steps time distance threshold before more seen far ih =>
      rcases seen with ⟨cascade, size, sampled, located, precision, rfl⟩
      have some : 0 < size := smooth.positive cascade size precision
      have ahead : 0 ≤ distance := by linarith
      rw [max_eq_left far]
      exact ⟨add_nonneg ih.1 ahead, smooth.isClear_step ih.1 ih.2 sampled⟩

theorem IsDistance.march_reports (smooth : f.IsDistance ray) {left : Nat}
    (marched : f.Marched ray maxDistance steps time) (count : steps + left = maxMarchSteps) :
    ∃ report steps' time', f.march ray maxDistance left time = .ok report ∧
      f.Marched ray maxDistance steps' time' ∧ f.Reported ray maxDistance steps' time' report := by
  induction left generalizing steps time with
  | zero => exact ⟨none, steps, time, rfl, marched, .tired count⟩
  | succ left ih =>
      rw [march]
      by_cases more : time < maxDistance
      · rcases smooth.sees time with ⟨cascade, size, distance, located, precision, sampled, -⟩
        have threshold : size * 0.25 = 0.25 * size := mul_comm _ _
        simp only [lt_real, maxNum_real, more, decide_true, if_true, located, sampled, precision,
          ok_bind, decide_eq_true_eq, threshold]
        by_cases near : distance < 0.25 * size
        · rcases smooth.answers.sampleGradient_ends (ray.point time) with ⟨found, gradient⟩
          rw [if_pos near, gradient]
          exact ⟨some ⟨time, distance, cascade, found.1⟩, steps, time, rfl, marched,
            .hit (by omega) more rfl sampled located precision near⟩
        · have seen : f.Seen ray time distance (0.25 * size) :=
            ⟨cascade, size, sampled, located, precision, rfl⟩
          rw [if_neg near]
          exact ih (.step marched more seen (not_lt.mp near)) (by omega)
      · simp only [lt_real, more, decide_false, Bool.false_eq_true, if_false, pure_eq_ok]
        exact ⟨none, steps, time, rfl, marched, .left (by omega) (not_lt.mp more)⟩

/-- A trace ends after at most 128 steps. Whatever it reports, the ray is outside of the geometry
all the way it has marched; a hit is where the march has come to, closer than a quarter of a voxel
to a surface or inside of it; and if it was not for the number of steps, a miss is a ray that is
outside for its whole length. -/
theorem never_tunnels (smooth : f.IsDistance ray) :
    ∃ report steps time, f.trace ray maxDistance = .ok report ∧
      f.Marched ray maxDistance steps time ∧ f.Reported ray maxDistance steps time report ∧
      0 ≤ time ∧ f.IsClear ray time ∧
      (report = none → steps < maxMarchSteps → f.IsClear ray maxDistance) := by
  have zero : (0.0 : ℝ) = 0 := real_zero
  have begun : f.Marched ray maxDistance 0 0 := .start
  rcases smooth.march_reports begun (Nat.zero_add _) with
    ⟨report, steps, time, ran, marched, reported⟩
  rcases marched.isClear smooth with ⟨forward, clear⟩
  refine ⟨report, steps, time, ?_, marched, reported, forward, clear, ?_⟩
  · rw [trace, zero]
    exact ran
  · intro missed few t late early
    rcases reported with _ | ⟨-, passed⟩ | last
    · cases missed
    · exact clear t late (early.trans_le passed)
    · exact absurd last few.ne

theorem trace_of_far {α : Type} [Scalar α] {f : DistanceField α}
    (far : ∀ pos, ∃ cascade distance size, f.cascadeAt pos = .ok cascade ∧
      f.sample pos = .ok distance ∧ f.voxelSize cascade = .ok size ∧
        Scalar.lt distance (size * 0.25) = false) (ray : Ray α) (maxDistance : α) :
    f.trace ray maxDistance = .ok none := by
  have marched : ∀ steps time, f.march ray maxDistance steps time = .ok none := by
    intro steps
    induction steps with
    | zero => exact fun _ => rfl
    | succ steps ih =>
        intro time
        obtain ⟨cascade, distance, size, located, sampled, precision, away⟩ := far (ray.point time)
        rw [march]
        split
        · simp only [located, sampled, precision, ok_bind, away, Bool.false_eq_true, if_false]
          exact ih _
        · rfl
  exact marched maxMarchSteps 0.0

/-- All that is behind the plane through the origin, in voxels of size 1. -/
def wall : DistanceField ℝ where
  sample pos := .ok pos.x
  voxelSize _ := .ok 1
  cascadeAt _ := .ok 0

def towardsWall : Ray ℝ := ⟨⟨3, 0, 0⟩, ⟨-1, 0, 0⟩⟩

theorem wall_isDistance : wall.IsDistance towardsWall where
  answers := ⟨fun pos => ⟨pos.x, rfl⟩, ⟨1, rfl⟩, fun _ => ⟨0, 1, rfl, rfl⟩⟩
  positive := by
    intro _ size precision
    have one : (1 : ℝ) = size := Except.ok.inj precision
    rw [← one]
    exact one_pos
  slope := by
    intro s t a b _ _ first second
    have a_eq : 3 + -1 * s = a := Except.ok.inj first
    have b_eq : 3 + -1 * t = b := Except.ok.inj second
    have apart : a - b = -(s - t) := by
      rw [← a_eq, ← b_eq]
      ring
    rw [apart, abs_neg]

theorem wall_not_tunneled :
    wall.IsDistance towardsWall ∧ ∃ report steps time, wall.trace towardsWall 10 = .ok report ∧
      wall.Marched towardsWall 10 steps time ∧ wall.Reported towardsWall 10 steps time report ∧
      0 ≤ time ∧ wall.IsClear towardsWall time ∧
      (report = none → steps < maxMarchSteps → wall.IsClear towardsWall 10) :=
  ⟨wall_isDistance, never_tunnels wall_isDistance⟩

end IrradianceField.DistanceField
