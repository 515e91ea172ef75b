import IrradianceField.Proofs.Averaging
import IrradianceField.Proofs.Leaping
import IrradianceField.Proofs.WhiteFurnace

/-!
Nesting: cascades follow one view each by its own lattice. If a cascade has room enough around the
finer one, it covers all that the finer one reaches in full.
-/

namespace IrradianceField

open Scalar

section Powers

theorem powLoop_real (base acc : ℝ) (n : Nat) : powLoop base acc n = acc * base ^ n := by
  fun_induction powLoop base acc n with
  | case1 base acc n next last =>
      rcases (by omega : n = 0 ∨ n = 1) with rfl | rfl
      · simp [next]
      · simp [next]
  | case2 base acc n next more ih =>
      have halves : n = n % 2 + 2 * (n / 2) := (Nat.mod_add_div n 2).symm
      rw [ih, ← pow_two, ← pow_mul]
      rcases Nat.mod_two_eq_zero_or_one n with even | odd
      · rw [halves, even, Nat.zero_add]
        simp [next, even]
      · have picked : next = acc * base := if_pos odd
        rw [picked]
        nth_rewrite 2 [halves]
        rw [odd, pow_add, pow_one, mul_assoc]

theorem Config.cascadeSpacing_real (config : Config ℝ) {cascade : Nat} (few : cascade < maxCascades) :
    config.cascadeSpacing cascade = config.probesSpacing * config.spacingMultiplier ^ cascade := by
  have small : cascade < 2147483648 := few.trans (by decide)
  rw [cascadeSpacing, Word.toSigned_of_lt small, powInt, if_neg (by omega), powNat, powLoop_real,
    real_one, one_mul, Int.natAbs_natCast]

theorem Config.cascadeSpacing_succ (config : Config ℝ) {cascade : Nat}
    (few : cascade + 1 < maxCascades) :
    config.cascadeSpacing (cascade + 1) = config.cascadeSpacing cascade * config.spacingMultiplier := by
  rw [config.cascadeSpacing_real few, config.cascadeSpacing_real (Nat.lt_of_succ_lt few), pow_succ,
    mul_assoc]

end Powers

namespace Cascade

variable {c d : Cascade ℝ} {viewPos : Vec3 ℝ} {counts : Vec3 Nat}

/-- Along every axis, the centre of a grid is at most half a spacing away from the view. -/
def IsCentred (c : Cascade ℝ) (viewPos : Vec3 ℝ) : Prop :=
  ∀ axis, |viewPos.axis axis - c.center.axis axis| ≤ c.placement.spacing / 2

/-- A grid has not scrolled to an end of the signed words. -/
def IsScrollable {α : Type} (c : Cascade α) : Prop :=
  ∀ axis, -2147483648 < c.placement.scroll.axis axis ∧ c.placement.scroll.axis axis < 2147483647

theorem center_axis (c : Cascade ℝ) (axis : Nat) : c.center.axis axis =
    c.placement.origin.axis axis + c.placement.scroll.axis axis * c.placement.spacing := by
  rw [center, Vec3.axis_add, Vec3.axis_scale, Vec3.ofInt, Vec3.axis_map, ofInt_real]

theorem near_of_units {a spacing : ℝ} {n : ℝ} (positive : 0 < spacing)
    (near : |a / spacing - n| ≤ 1 / 2) : |a - n * spacing| ≤ spacing / 2 := by
  calc |a - n * spacing| = |a / spacing - n| * spacing := by
        nth_rewrite 3 [← abs_of_pos positive]
        rw [← abs_mul, sub_mul, div_mul_cancel₀ _ positive.ne']
    _ ≤ 1 / 2 * spacing := mul_le_mul_of_nonneg_right near positive.le
    _ = spacing / 2 := by ring

theorem isCentred_restart (c : Cascade ℝ) (viewPos : Vec3 ℝ) (positive : 0 < c.placement.spacing) :
    (c.restart viewPos).IsCentred viewPos := by
  intro axis
  rcases round_near_real (viewPos.axis axis / c.placement.spacing) with ⟨n, whole, near⟩
  have center : (c.restart viewPos).center.axis axis = n * c.placement.spacing := by
    have still : (⟨0, 0, 0⟩ : Vec3 Int).axis axis = 0 := Vec3.axis_splat 0 axis
    rw [center_axis, restart]
    dsimp only
    rw [Vec3.axis_scale, Vec3.round, Vec3.axis_map, Vec3.axis_divide, whole, still,
      Int.cast_zero, zero_mul, add_zero]
  rw [center]
  exact near_of_units positive near

theorem target_axis (c : Cascade ℝ) (viewPos : Vec3 ℝ) (axis : Nat) : (c.target viewPos).axis axis =
    toInt (Scalar.round
      ((viewPos.axis axis - c.placement.origin.axis axis) / c.placement.spacing)) := by
  rw [target, Vec3.toInt, Vec3.axis_map, Vec3.round, Vec3.axis_map, Vec3.axis_divide, Vec3.axis_sub]

theorem isCentred_scrolled (c : Cascade ℝ) (viewPos : Vec3 ℝ) (positive : 0 < c.placement.spacing)
    (within : (c.scrolled viewPos).IsScrollable) : (c.scrolled viewPos).IsCentred viewPos := by
  intro axis
  have low : -2147483648 < (c.target viewPos).axis axis := (within axis).1
  have high : (c.target viewPos).axis axis < 2147483647 := (within axis).2
  rw [target_axis] at low high
  have near := near_of_units positive (toInt_round_near_real low high)
  rw [center_axis, scrolled]
  dsimp only
  rwa [target_axis, ← sub_sub]

theorem isCentred_of_update (ran : c.update viewPos counts = .ok d) (positive : 0 < c.placement.spacing)
    (within : d.IsScrollable) : d.IsCentred viewPos := by
  rcases update_eq_ok.mp ran with ⟨-, ⟨-, rfl⟩ | ⟨-, -, rfl⟩⟩
  · exact isCentred_restart c viewPos positive
  · exact isCentred_scrolled c viewPos positive within

end Cascade

namespace Cascades

variable {config : Config ℝ} {c d cascades : Cascades ℝ} {cascade : Nat} {item : Cascade ℝ}

/-- All cascades of a configuration are there, with the distances between probes that it asks for. -/
structure IsOfConfig (config : Config ℝ) (c : Cascades ℝ) : Prop where
  size : c.items.size = config.cascades
  spacing : ∀ cascade item, c.get cascade = .ok item →
    item.placement.spacing = config.cascadeSpacing cascade

theorem isOfConfig_create (config : Config ℝ) : (create config).IsOfConfig config where
  size := by simp [create]
  spacing := by
    intro cascade item found
    rw [get_eq_ok, create, List.getElem?_toArray, List.getElem?_map, Option.map_eq_some_iff] at found
    rcases found with ⟨i, listed, rfl⟩
    rcases List.getElem?_eq_some_iff.mp listed with ⟨inside, number⟩
    rw [List.getElem_range inside] at number
    rw [number]
    rfl

theorem IsOfConfig.update {viewPos : Vec3 ℝ} (own : c.IsOfConfig config)
    (ran : c.update viewPos = .ok d) : d.IsOfConfig config where
  size := (update_eq_ok ran).2.1.trans own.size
  spacing := by
    intro cascade item found
    rcases (update_eq_ok ran).2.2 cascade item found with ⟨before, held, updated⟩
    rw [Cascade.spacing_of_update updated]
    exact own.spacing cascade before held

theorem isOfConfig_of_follow {views : List (Vec3 ℝ)}
    (reached : (create config).follow views = .ok cascades) : cascades.IsOfConfig config :=
  foldlM_keeps (IsOfConfig config) (fun _ _ _ _ own ran => own.update ran) (isOfConfig_create config)
    reached

theorem isCentred_of_follow (valid : config.validate = .ok []) {views : List (Vec3 ℝ)}
    (some : views ≠ []) (reached : (create config).follow views = .ok cascades) :
    ∃ viewPos, ∀ cascade item, cascades.get cascade = .ok item → item.IsScrollable →
      item.IsCentred viewPos := by
  rcases List.eq_nil_or_concat views with rfl | ⟨earlier, last, rfl⟩
  · exact absurd rfl some
  · rw [List.concat_eq_append] at reached
    rcases foldlM_append_eq_ok.mp reached with ⟨between, started, reached⟩
    rcases foldlM_cons_eq_ok.mp reached with ⟨_, moved, ended⟩
    obtain rfl := Except.ok.inj ended
    refine ⟨last, ?_⟩
    intro cascade item found within
    rcases (update_eq_ok moved).2.2 cascade item found with ⟨before, held, updated⟩
    have spaced : 0 < before.placement.spacing := by
      rw [(isOfConfig_of_follow started).spacing cascade before held]
      exact (Config.isAccepted_of_valid valid).cascadeSpacing_pos cascade
    exact Cascade.isCentred_of_update updated spaced within

end Cascades

namespace Sampler

section Edges

variable {s : Sampler ℝ} {cascade : Nat} {p : Placement ℝ} {pos : Vec3 ℝ} {a : ℝ} {v : Vec3 ℝ}

theorem le_minElement : a ≤ v.minElement ↔ ∀ axis, a ≤ v.axis axis := by
  simp only [Vec3.minElement, minNum_real, le_min_iff]
  exact (Vec3.forall_axis (P := (a ≤ ·))).symm

theorem lt_minElement : a < v.minElement ↔ ∀ axis, a < v.axis axis := by
  simp only [Vec3.minElement, minNum_real, lt_min_iff]
  exact (Vec3.forall_axis (P := (a < ·))).symm

/-- The ways from a point to the nearer sides of a grid, negative outside of it. -/
noncomputable def depth (counts : Vec3 Nat) (p : Placement ℝ) (pos : Vec3 ℝ) : Vec3 ℝ :=
  ((Vec3.ofNat (counts.map (· - 1))).scale p.spacing).scale 0.5 -
    (pos - (p.origin + (Vec3.ofInt p.scroll).scale p.spacing)).abs

theorem depth_axis (counts : Vec3 Nat) (p : Placement ℝ) (pos : Vec3 ℝ) (axis : Nat) :
    (depth counts p pos).axis axis = ((counts.axis axis - 1 : Nat) : ℝ) * p.spacing / 2 -
      |pos.axis axis - (p.origin.axis axis + p.scroll.axis axis * p.spacing)| := by
  simp only [depth, Vec3.axis_sub, Vec3.axis_add, Vec3.scale, Vec3.axis_map, Vec3.abs, Vec3.ofNat,
    Vec3.ofInt, ofNat_real, ofInt_real, abs_real, real_half, mul_one_div]

theorem saturate_bounds (a : ℝ) : 0 ≤ saturate a ∧ saturate a ≤ 1 := by
  simp only [saturate, clampTo_real, real_zero, real_one]
  exact ⟨le_min (le_max_right _ _) zero_le_one, min_le_right _ _⟩

theorem saturate_pos : 0 < saturate a ↔ 0 < a := by
  simp [saturate]

theorem saturate_eq_one (large : 1 ≤ a) : saturate a = 1 := by
  simp only [saturate, clampTo_real, real_zero, real_one]
  exact min_eq_right (large.trans (le_max_left _ _))

theorem cascadeFade_bounds {fade : ℝ} (faded : s.cascadeFade cascade pos = .ok fade) :
    0 ≤ fade ∧ fade ≤ 1 := by
  rcases bind_eq_ok.mp faded with ⟨spacing, -, faded⟩
  rcases bind_eq_ok.mp faded with ⟨extent, -, faded⟩
  rcases bind_eq_ok.mp faded with ⟨center, -, faded⟩
  obtain rfl := Except.ok.inj faded
  exact saturate_bounds _

variable (stocked : s.IsStocked cascade p)

include stocked

theorem IsStocked.cascadeFade_eq (pos : Vec3 ℝ) : s.cascadeFade cascade pos =
    .ok (saturate ((depth s.volume.grid.counts p pos).minElement / (p.spacing / 2))) := by
  have half : p.spacing * 0.5 = p.spacing / 2 := by rw [real_half, mul_one_div]
  rw [cascadeFade, Volume.spacing_of_placement stocked.placed, ok_bind,
    Volume.extent_of_placement stocked.placed stocked.counts_pos, ok_bind,
    Volume.center_of_placement stocked.placed, ok_bind, half]
  rfl

theorem IsStocked.cascadeFade_pos (spaced : 0 < p.spacing) {fade : ℝ}
    (faded : s.cascadeFade cascade pos = .ok fade) :
    0 < fade ↔ ∀ axis, 0 < (depth s.volume.grid.counts p pos).axis axis := by
  obtain rfl := Except.ok.inj ((stocked.cascadeFade_eq pos).symm.trans faded)
  rw [saturate_pos, div_pos_iff_of_pos_right (half_pos spaced), lt_minElement]

theorem IsStocked.cascadeFade_full (spaced : 0 < p.spacing)
    (inside : ∀ axis, p.spacing / 2 ≤ (depth s.volume.grid.counts p pos).axis axis) :
    s.cascadeFade cascade pos = .ok 1 := by
  have least := le_minElement.mpr inside
  rw [stocked.cascadeFade_eq, saturate_eq_one ((one_le_div (half_pos spaced)).mpr least)]

end Edges

end Sampler

/-- Along every axis, there is room enough in a grid for the next finer one, wherever the centres of
the two are rounded to, and for the rim of half a spacing in which the grid fades. -/
def Config.IsRoomy (config : Config ℝ) : Prop :=
  ∀ axis, (config.probesCounts.axis axis : ℝ) + config.spacingMultiplier ≤
    ((config.probesCounts.axis axis : ℝ) - 2) * config.spacingMultiplier

theorem inside_of_roomy {n : Nat} {spacing multiplier view center center' pos : ℝ} (two : 2 ≤ n)
    (spaced : 0 < spacing) (room : (n : ℝ) + multiplier ≤ ((n : ℝ) - 2) * multiplier)
    (near : |view - center| ≤ spacing / 2) (near' : |view - center'| ≤ spacing * multiplier / 2)
    (inside : 0 < ((n - 1 : Nat) : ℝ) * spacing / 2 - |pos - center|) :
    spacing * multiplier / 2 ≤
      ((n - 1 : Nat) : ℝ) * (spacing * multiplier) / 2 - |pos - center'| := by
  have steps : ((n - 1 : Nat) : ℝ) = n - 1 := by
    rw [Nat.cast_sub (by omega), Nat.cast_one]
  have wide : (n : ℝ) * spacing + spacing * multiplier ≤ (n - 2) * (spacing * multiplier) := by
    calc (n : ℝ) * spacing + spacing * multiplier = spacing * (n + multiplier) := by ring
      _ ≤ spacing * ((n - 2) * multiplier) := mul_le_mul_of_nonneg_left room spaced.le
      _ = (n - 2) * (spacing * multiplier) := by ring
  have apart : |pos - center'| ≤ |pos - center| + |view - center| + |view - center'| := by
    calc |pos - center'| = |(pos - center) - (view - center) + (view - center')| := by ring_nf
      _ ≤ |(pos - center) - (view - center)| + |view - center'| := abs_add_le _ _
      _ ≤ |pos - center| + |view - center| + |view - center'| :=
          add_le_add_left (abs_sub _ _) _
  rw [steps] at inside ⊢
  linarith

end IrradianceField
