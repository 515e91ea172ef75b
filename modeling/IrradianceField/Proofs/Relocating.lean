import IrradianceField.Scalar.Real
import IrradianceField.DistanceField.Shape
import IrradianceField.Probe.Classification
import IrradianceField.Proofs.Checked
import IrradianceField.Proofs.Magnitudes
import IrradianceField.Proofs.Ordering

/-!
Relocating: a probe near a surface is moved to the first of the best places around it, as far as the
field tells, and not further than the data of a probe can say.
-/

namespace IrradianceField.Classification

open Scalar

section Searching

variable {α : Type} [Scalar α] {field : DistanceField α} {base : Vec3 α} {limit here top : α}
  {value : Nat → α} {best : α × Vec3 α} {n : Nat}

def candidates : Nat := latticeSize * latticeSize * latticeSize

/-- What a field says where a probe is and at the first candidates for it, all of it defined. -/
structure IsSurvey (field : DistanceField α) (base : Vec3 α) (limit here : α) (value : Nat → α)
    (n : Nat) : Prop where
  atBase : field.sample base = .ok here
  candidate : ∀ i < n, field.sample (base + latticeOffset limit i) = .ok (value i)
  defined : isUndefined here = false ∧ ∀ i < n, isUndefined (value i) = false

/-- The largest of the value at the base and those of the first candidates. -/
structure IsTop (here : α) (value : Nat → α) (n : Nat) (top : α) : Prop where
  attained : top = here ∨ ∃ i < n, top = value i
  above : le here top = true
  aboveAll : ∀ i < n, le (value i) top = true

/-- What the search has found after the first candidates: nothing better than the base, or the first
of the best. -/
structure IsBest (limit here : α) (value : Nat → α) (n : Nat) (best : α × Vec3 α) : Prop where
  top : IsTop here value n best.1
  place : best = (here, .zero) ∨ ∃ i < n, best = (value i, latticeOffset limit i) ∧
    lt here (value i) = true ∧ ∀ j < i, lt (value j) (value i) = true

theorem IsSurvey.init (survey : IsSurvey field base limit here value (n + 1)) :
    IsSurvey field base limit here value n :=
  ⟨survey.atBase, fun i below => survey.candidate i (Nat.lt_succ_of_lt below), survey.defined.1,
    fun i below => survey.defined.2 i (Nat.lt_succ_of_lt below)⟩

theorem IsTop.defined (is : IsTop here value n top)
    (survey : IsSurvey field base limit here value n) : isUndefined top = false := by
  rcases is.attained with rfl | ⟨i, below, rfl⟩
  · exact survey.defined.1
  · exact survey.defined.2 i below

theorem le_self {a : α} (defined : isUndefined a = false) : le a a = true := by
  simpa [isUndefined] using defined

theorem isBest_zero (survey : IsSurvey field base limit here value 0) :
    IsBest limit here value 0 (here, .zero) :=
  ⟨⟨.inl rfl, le_self survey.defined.1, fun _ below => absurd below (Nat.not_lt_zero _)⟩, .inl rfl⟩

variable [IsOrdered α]

theorem IsBest.step (is : IsBest limit here value n best)
    (survey : IsSurvey field base limit here value (n + 1)) : IsBest limit here value (n + 1)
      (if lt best.1 (value n) then (value n, latticeOffset limit n) else best) := by
  have last := survey.defined.2 n (Nat.lt_succ_self n)
  have known : ∀ {i}, i < n → isUndefined (value i) = false := fun below =>
    survey.defined.2 _ (Nat.lt_succ_of_lt below)
  have defined := is.top.defined survey.init
  split
  · rename_i better
    have above := IsOrdered.le_of_lt defined last better
    refine ⟨⟨.inr ⟨n, Nat.lt_succ_self n, rfl⟩, IsOrdered.le_trans is.top.above above, ?_⟩,
      .inr ⟨n, Nat.lt_succ_self n, rfl, ?_, ?_⟩⟩
    · intro i below
      rcases Nat.lt_succ_iff_lt_or_eq.mp below with earlier | rfl
      · exact IsOrdered.le_trans (is.top.aboveAll i earlier) above
      · exact le_self last
    · exact IsOrdered.lt_of_le_of_lt survey.defined.1 defined last is.top.above better
    · intro j earlier
      exact IsOrdered.lt_of_le_of_lt (known earlier) defined last (is.top.aboveAll j earlier)
        better
  · rename_i worse
    have below := (IsOrdered.lt_eq_false_iff defined last).mp (Bool.eq_false_of_not_eq_true worse)
    refine ⟨⟨?_, is.top.above, ?_⟩, ?_⟩
    · exact is.top.attained.imp_right fun ⟨i, inside, same⟩ => ⟨i, Nat.lt_succ_of_lt inside, same⟩
    · intro i inside
      rcases Nat.lt_succ_iff_lt_or_eq.mp inside with earlier | rfl
      · exact is.top.aboveAll i earlier
      · exact below
    · exact is.place.imp_right fun ⟨i, inside, found⟩ => ⟨i, Nat.lt_succ_of_lt inside, found⟩

theorem search_ends (survey : IsSurvey field base limit here value n) : ∃ best,
    (List.range n).foldlM (improve field base limit) (here, .zero) = .ok best ∧
      IsBest limit here value n best := by
  induction n with
  | zero => exact ⟨_, rfl, isBest_zero survey⟩
  | succ n ih =>
      obtain ⟨best, ran, is⟩ := ih survey.init
      refine ⟨_, ?_, is.step survey⟩
      rw [List.range_succ, foldlM_append_eq_ok]
      refine ⟨best, ran, foldlM_cons_eq_ok.mpr ⟨_, ?_, rfl⟩⟩
      rw [improve, survey.candidate n (Nat.lt_succ_self n), ok_bind, pure_eq_ok]

/-- Where a probe is moved: it stays where it is if no candidate is better, and goes to the first of
the best candidates otherwise. -/
structure IsFirst (limit here : α) (value : Nat → α) (n : Nat) (top : α) (offset : Vec3 α) :
    Prop where
  stays : (∀ i < n, lt here (value i) = false) → offset = .zero
  moves : (∃ i < n, lt here (value i) = true) → ∃ i < n, offset = latticeOffset limit i ∧
    value i = top ∧ ∀ j < i, lt (value j) top = true

theorem IsBest.isFirst (is : IsBest limit here value n best)
    (survey : IsSurvey field base limit here value n) :
    IsFirst limit here value n best.1 best.2 := by
  rcases is.place with rfl | ⟨i, inside, rfl, better, first⟩
  · refine ⟨fun _ => rfl, ?_⟩
    rintro ⟨i, inside, better⟩
    rw [(IsOrdered.lt_eq_false_iff survey.defined.1 (survey.defined.2 i inside)).mpr
      (is.top.aboveAll i inside)] at better
    cases better
  · refine ⟨fun none => ?_, fun _ => ⟨i, inside, rfl, rfl, first⟩⟩
    rw [none i inside] at better
    cases better

/-- What becomes of a probe with the given values around it: it is put to sleep where the surface is
far, stays where it is if all places are embedded in geometry, and goes to the first of the best
places otherwise. -/
structure Picks (field : DistanceField α) (base : Vec3 α) (spacing threshold here : α)
    (value : Nat → α) : Prop where
  far : relocateLattice field base spacing = .ok none ↔
    lt (distanceLimit * spacing) (Scalar.abs here) = true
  near : lt (distanceLimit * spacing) (Scalar.abs here) = false → ∃ offset top,
    relocateLattice field base spacing = .ok (some offset) ∧ IsTop here value candidates top ∧
      (lt top threshold = true → offset = .zero) ∧
      (lt top threshold = false →
        IsFirst (relocationLimit * spacing) here value candidates top offset ∧
          (base + .zero = base → field.sample (base + offset) = .ok top))

theorem picks {spacing threshold : α} (sized : surfaceThreshold field spacing = .ok threshold)
    (survey : IsSurvey field base (relocationLimit * spacing) here value candidates) :
    Picks field base spacing threshold here value := by
  obtain ⟨best, ran, is⟩ := search_ends survey
  have made : relocateLattice field base spacing =
      if lt (distanceLimit * spacing) (Scalar.abs here) then .ok none
      else .ok (some (if lt best.1 threshold then .zero else best.2)) := by
    simp only [candidates] at ran
    simp only [relocateLattice, sized, survey.atBase, ran, ok_bind, pure_eq_ok]
  have attained : base + .zero = base → field.sample (base + best.2) = .ok best.1 := by
    intro same
    rcases is.place with rfl | ⟨i, inside, rfl, -⟩
    · rw [same, survey.atBase]
    · exact survey.candidate i inside
  constructor
  · rw [made]
    split
    · exact iff_of_true rfl ‹_›
    · exact iff_of_false (by simp) ‹_›
  · intro near
    refine ⟨_, best.1, by rw [made, near]; rfl, is.top, ?_, ?_⟩
    · intro embedded
      rw [if_pos embedded]
    · intro clear
      rw [clear]
      exact ⟨is.isFirst survey, attained⟩

end Searching

end IrradianceField.Classification

namespace IrradianceField

open Scalar

section Packing

variable {a : ℝ}

theorem Scalar.exists_round (a : ℝ) : ∃ n : Int, Scalar.round a = n ∧ |(n : ℝ) - a| ≤ 1 / 2 := by
  by_cases nonneg : 0 ≤ a
  · refine ⟨⌊a + 1 / 2⌋, if_pos nonneg, ?_⟩
    have low := Int.floor_le (a + 1 / 2)
    have high := Int.lt_floor_add_one (a + 1 / 2)
    rw [abs_le]
    constructor <;> linarith
  · refine ⟨⌈a - 1 / 2⌉, if_neg nonneg, ?_⟩
    have low := Int.le_ceil (a - 1 / 2)
    have high := Int.ceil_lt_add_one (a - 1 / 2)
    rw [abs_le]
    constructor <;> linarith

theorem Scalar.signedHalf_of_int {n : Int} (low : -32768 ≤ n) (high : n < 32768) :
    signedHalf (n % 65536).toNat = n := by
  rw [signedHalf]
  split <;> omega

theorem Scalar.toSnorm16_lt (a : ℝ) : toSnorm16 a < 65536 := by
  rw [toSnorm16]
  omega

/-- Values that need not be moved into the range of the code are off by half a step at most when
they are read back. -/
theorem Scalar.ofSnorm16_toSnorm16 (short : |a| ≤ 1) :
    |(ofSnorm16 (toSnorm16 a) : ℝ) - a| ≤ 1 / 65534 := by
  obtain ⟨low, high⟩ := abs_le.mp short
  obtain ⟨n, rounded, near⟩ := exists_round (a * 32767)
  obtain ⟨below, above⟩ := abs_le.mp near
  have least : -32767 ≤ n := by
    have : (-32768 : ℝ) < n := by linarith
    exact_mod_cast this
  have most : n ≤ 32767 := by
    have : (n : ℝ) < 32768 := by linarith
    exact Int.lt_add_one_iff.mp (by exact_mod_cast this)
  have scale : (32767.0 : ℝ) = 32767 := by norm_num
  have code : toSnorm16 a = (n % 65536).toNat := by
    rw [toSnorm16, clampTo_real, real_one, max_eq_left low, min_eq_left high, scale, rounded,
      toInt_ofInt_real (by omega) (by omega)]
  have back : (ofSnorm16 (toSnorm16 a) : ℝ) = n / 32767 := by
    have inside : (-1 : ℝ) ≤ n / 32767 := by
      rw [le_div_iff₀ (by norm_num)]
      have : (-32767 : ℝ) ≤ n := by exact_mod_cast least
      linarith
    rw [ofSnorm16, maxNum_real, code, signedHalf_of_int (by omega) (by omega), ofInt_real, scale,
      real_one, max_eq_left inside]
  rw [back, abs_le]
  constructor <;> linarith

theorem Probe.unpack_pack_offset {probe : Probe ℝ} (short : ∀ axis, |probe.offset.axis axis| ≤ 1) :
    ∀ axis, |(Probe.unpack probe.pack : Probe ℝ).offset.axis axis - probe.offset.axis axis| ≤
      1 / 65534 := by
  have read : ∀ axis, (Probe.unpack probe.pack : Probe ℝ).offset.axis axis =
      ofSnorm16 (toSnorm16 (probe.offset.axis axis)) := by
    simp only [unpack, pack, Word.halves_ofHalves, Nat.mod_eq_of_lt (toSnorm16_lt _)]
    rintro (_ | _ | axis) <;> rfl
  intro axis
  rw [read]
  exact ofSnorm16_toSnorm16 (short axis)

end Packing

namespace Classification

section Bounding

variable {field : DistanceField ℝ} {base offset : Vec3 ℝ} {spacing : ℝ}

theorem length_le_of_relocate (positive : 0 < spacing)
    (moved : relocateLattice field base spacing = .ok (some offset)) :
    offset.length ≤ relocationLimit * spacing := by
  have low : (0 : ℝ) ≤ relocationLimit * spacing := by
    rw [relocationLimit]
    positivity
  have zero : (Vec3.zero : Vec3 ℝ).length ≤ relocationLimit * spacing := by
    have none : (Vec3.zero : Vec3 ℝ).length = 0 := by
      simp [Vec3.length_eq, Vec3.zero, Vec3.splat]
    rw [none]
    exact low
  obtain ⟨threshold, -, moved⟩ := bind_eq_ok.mp moved
  obtain ⟨distance, -, moved⟩ := bind_eq_ok.mp moved
  split at moved
  · cases moved
  · obtain ⟨best, found, moved⟩ := bind_eq_ok.mp moved
    have within : best.2.length ≤ relocationLimit * spacing := by
      refine foldlM_keeps (fun best : ℝ × Vec3 ℝ => best.2.length ≤ relocationLimit * spacing)
        ?_ zero found
      intro i _ best next kept ran
      obtain ⟨value, -, ran⟩ := bind_eq_ok.mp ran
      obtain rfl := Except.ok.inj ran
      split
      · exact Vec3.length_limitLength_le low _
      · exact kept
    obtain rfl := Option.some.inj (Except.ok.inj moved)
    split
    · exact zero
    · exact within

theorem abs_axis_settle_le (positive : 0 < spacing)
    (moved : relocateLattice field base spacing = .ok (some offset)) (before : Probe ℝ)
    (axis : Nat) : |(settle before offset spacing).offset.axis axis| ≤ 0.6 := by
  have bound : |offset.axis axis| ≤ 0.6 * spacing :=
    (Vec3.abs_axis_le_length offset axis).trans (length_le_of_relocate positive moved)
  have share : (settle before offset spacing).offset.axis axis = offset.axis axis / spacing :=
    Vec3.axis_divide offset spacing axis
  rwa [share, abs_div, abs_of_pos positive, div_le_iff₀ positive]

/-- What is stored of an offset: no component is moved into the range of its code, which is off by
half a step at most. -/
def IsStorable (probe : Probe ℝ) : Prop :=
  ∀ axis, clampTo (-1.0) 1.0 (probe.offset.axis axis) = probe.offset.axis axis ∧
    |(Probe.unpack probe.pack : Probe ℝ).offset.axis axis - probe.offset.axis axis| ≤ 1 / 65534

theorem isStorable_settle (positive : 0 < spacing)
    (moved : relocateLattice field base spacing = .ok (some offset)) (before : Probe ℝ) :
    IsStorable (settle before offset spacing) := by
  have short : ∀ axis, |(settle before offset spacing).offset.axis axis| ≤ 1 := fun axis =>
    (abs_axis_settle_le positive moved before axis).trans (by norm_num)
  refine fun axis => ⟨?_, Probe.unpack_pack_offset short axis⟩
  obtain ⟨low, high⟩ := abs_le.mp (short axis)
  rw [clampTo_real, real_one, max_eq_left low, min_eq_left high]

end Bounding

theorem add_zero_of_unsigned {base : Vec3 Float32} (unsigned : ∀ axis, base.axis axis ≠ -0.0) :
    base + .zero = base := by
  obtain ⟨x, y, z⟩ := (Vec3.forall_axis (P := fun a : Float32 => a ≠ -0.0)).mp unsigned
  have sums : base + .zero = ⟨base.x + 0.0, base.y + 0.0, base.z + 0.0⟩ := rfl
  rw [sums, Binary32.add_zero x, Binary32.add_zero y, Binary32.add_zero z]

/-- A probe is moved to the first of the best places of the lattice around it, whatever the field, in
the arithmetic of the program and in the exact one; exactly, no probe is moved by more than the limit,
so that what is stored is the place it was moved to. Only a negative zero among the coordinates of a
probe makes a difference between staying where it is and being moved by nothing. -/
theorem relocates_to_best :
    (∀ {field : DistanceField Float32} {base : Vec3 Float32} {spacing threshold here : Float32}
      {value : Nat → Float32}, surfaceThreshold field spacing = .ok threshold →
      IsSurvey field base (relocationLimit * spacing) here value candidates →
        Picks field base spacing threshold here value ∧
          ((∀ axis, base.axis axis ≠ -0.0) → base + .zero = base)) ∧
    ∀ {field : DistanceField ℝ} {base : Vec3 ℝ} {spacing : ℝ}, 0 < spacing →
      (∀ {threshold here : ℝ} {value : Nat → ℝ}, surfaceThreshold field spacing = .ok threshold →
        IsSurvey field base (relocationLimit * spacing) here value candidates →
          Picks field base spacing threshold here value ∧ base + .zero = base) ∧
      ∀ offset, relocateLattice field base spacing = .ok (some offset) →
        offset.length ≤ 0.6 * spacing ∧
          ∀ before : Probe ℝ, IsStorable (settle before offset spacing) := by
  refine ⟨fun sized survey => ⟨picks sized survey, add_zero_of_unsigned⟩,
    fun positive => ⟨fun sized survey => ⟨picks sized survey, ?_⟩, fun offset moved =>
      ⟨length_le_of_relocate positive moved, isStorable_settle positive moved⟩⟩⟩
  refine Vec3.eq_of_axes fun axis => ?_
  rw [Vec3.axis_add, Vec3.axis_zero, add_zero]

def height {α : Type} [Scalar α] (x : α) : α := if lt 0.5 x then 1.0 else 0.5

def ledge {α : Type} [Scalar α] : DistanceField α where
  sample pos := .ok (height pos.x)
  voxelSize _ := .ok 0.1
  cascadeAt _ := .ok 0

theorem relocates_to_best_ledge :
    (∃ offset, relocateLattice ledge (⟨0.5, 0.0, 0.0⟩ : Vec3 Float32) 1.0 = .ok (some offset) ∧
      ∃ i < candidates, offset = latticeOffset (relocationLimit * 1.0) i) ∧
    ∃ offset, relocateLattice ledge (⟨0.5, 0, 0⟩ : Vec3 ℝ) 1 = .ok (some offset) ∧
      offset.length ≤ 0.6 * 1 ∧ IsStorable (settle .dormant offset 1) := by
  obtain ⟨floats, reals⟩ := relocates_to_best
  constructor
  · have survey : IsSurvey ledge (⟨0.5, 0.0, 0.0⟩ : Vec3 Float32) (relocationLimit * 1.0) 0.5
        (fun i => height (0.5 + (latticeOffset (relocationLimit * 1.0) i).x)) candidates := by
      refine ⟨by decide +kernel, fun _ _ => rfl, by decide +kernel, fun i _ => ?_⟩
      unfold height
      split <;> decide +kernel
    obtain ⟨offset, top, moved, is, -, clear⟩ := (floats rfl survey).1.near (by decide +kernel)
    have high : lt top (maxNum (0.1 * 0.5) (0.05 * 1.0)) = false :=
      (IsOrdered.lt_eq_false_iff (is.defined survey) (by decide +kernel)).mpr
        (IsOrdered.le_trans (by decide +kernel) is.above)
    obtain ⟨i, inside, same, -⟩ := (clear high).1.moves ⟨3, by decide, by decide +kernel⟩
    exact ⟨offset, moved, i, inside, same⟩
  · obtain ⟨best, short⟩ := @reals ledge ⟨0.5, 0, 0⟩ 1 one_pos
    have survey : IsSurvey ledge (⟨0.5, 0, 0⟩ : Vec3 ℝ) (relocationLimit * 1) 0.5
        (fun i => height (0.5 + (latticeOffset (relocationLimit * 1) i).x)) candidates :=
      ⟨by simp [ledge, height], fun _ _ => rfl, isUndefined_real, fun _ _ => isUndefined_real⟩
    obtain ⟨offset, -, moved, -⟩ := (best rfl survey).1.near (by
      simp only [distanceLimit, lt_real, abs_real, decide_eq_false_iff_not]
      norm_num)
    exact ⟨offset, moved, (short offset moved).1, (short offset moved).2 .dormant⟩

end Classification

end IrradianceField
