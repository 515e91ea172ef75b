import Mathlib.Analysis.SpecialFunctions.Pow.Real
import Mathlib.Analysis.SpecialFunctions.Trigonometric.Basic
import Mathlib.Tactic
import IrradianceField.Vector

/-!
The real numbers as scalars: the arithmetic of the program without any rounding. Words end where they
end, so cuts to them saturate still.
-/

namespace IrradianceField

/-- What the literal `2` of the reals rests on, under one name in all definitions. -/
instance atLeastTwo_two : Nat.AtLeastTwo 2 := ⟨le_rfl⟩

/-- Nothing is undefined and nothing is infinite; how a real number would be stored is left open. -/
noncomputable instance : Scalar ℝ where
  ofNat n := n
  ofInt n := n
  toNat a := min ⌊a⌋₊ 4294967295
  toInt a := max (-2147483648) (min (if 0 ≤ a then ⌊a⌋ else ⌈a⌉) 2147483647)
  toBits a := ⌊|a|⌋₊
  ofBits n := n
  lt a b := decide (a < b)
  le a b := decide (a ≤ b)
  isFinite _ := true
  abs a := |a|
  sqrt := Real.sqrt
  floor a := ⌊a⌋
  ceil a := ⌈a⌉
  round a := if 0 ≤ a then ⌊a + 1 / 2⌋ else ⌈a - 1 / 2⌉
  sin := Real.sin
  cos := Real.cos
  pow a b := a ^ b
  pi := Real.pi

namespace Scalar

variable {a b lo hi : ℝ}

section Literals

@[simp] theorem real_zero : (0.0 : ℝ) = 0 := by norm_num
@[simp] theorem real_one : (1.0 : ℝ) = 1 := by norm_num
@[simp] theorem real_two : (2.0 : ℝ) = 2 := by norm_num
@[simp] theorem real_half : (0.5 : ℝ) = 1 / 2 := by norm_num

end Literals

section Operations

@[simp] theorem ofNat_real (n : Nat) : (ofNat n : ℝ) = n := rfl
@[simp] theorem ofInt_real (n : Int) : (ofInt n : ℝ) = n := rfl
@[simp] theorem lt_real : lt a b = decide (a < b) := rfl
@[simp] theorem le_real : le a b = decide (a ≤ b) := rfl
@[simp] theorem abs_real : Scalar.abs a = |a| := rfl
@[simp] theorem sqrt_real : sqrt a = √a := rfl
@[simp] theorem floor_real : floor a = (⌊a⌋ : ℝ) := rfl
@[simp] theorem isFinite_real : isFinite a = true := rfl

theorem toNat_real : toNat a = min ⌊a⌋₊ 4294967295 := rfl

theorem toNat_ofNat_real {n : Nat} (short : n < 4294967296) : toNat (n : ℝ) = n := by
  rw [toNat_real, Nat.floor_natCast]
  exact min_eq_left (Nat.le_of_lt_succ short)

theorem toInt_real :
    toInt a = max (-2147483648) (min (if 0 ≤ a then ⌊a⌋ else ⌈a⌉) 2147483647) := rfl

theorem toInt_ofInt_real {n : Int} (low : -2147483648 ≤ n) (high : n < 2147483648) :
    toInt (n : ℝ) = n := by
  have cut : (if (0 : ℝ) ≤ n then ⌊(n : ℝ)⌋ else ⌈(n : ℝ)⌉) = n := by
    rw [Int.floor_intCast, Int.ceil_intCast, ite_self]
  rw [toInt_real, cut]
  omega

theorem round_natCast_real (n : Nat) : Scalar.round (n : ℝ) = n := by
  have half : ⌊(n : ℝ) + 1 / 2⌋ = n := by
    rw [Int.floor_eq_iff]
    constructor
    · push_cast
      linarith
    · push_cast
      linarith
  calc Scalar.round (n : ℝ)
      = (⌊(n : ℝ) + 1 / 2⌋ : ℝ) := if_pos (Nat.cast_nonneg n)
    _ = n := by rw [half]; simp

theorem round_zero_real : Scalar.round (0 : ℝ) = 0 := by
  simpa using round_natCast_real 0

@[simp] theorem isUndefined_real : isUndefined a = false := by simp [isUndefined]

@[simp] theorem maxNum_real : maxNum a b = max a b := by
  rw [maxNum, isUndefined_real]
  by_cases less : a < b
  · simp [less, less.le]
  · simp [less, not_lt.mp less]

@[simp] theorem minNum_real : minNum a b = min a b := by
  rw [minNum, isUndefined_real]
  by_cases less : b < a
  · simp [less, less.le]
  · simp [less, not_lt.mp less]

@[simp] theorem sqr_real : sqr a = a ^ 2 := (pow_two a).symm

@[simp] theorem clampTo_real : clampTo lo hi a = min (max a lo) hi := by
  have raised : (if lt a lo then lo else a) = max a lo := by
    by_cases low : a < lo
    · simp [low, low.le]
    · simp [low, not_lt.mp low]
  rw [clampTo, raised]
  by_cases high : hi < max a lo
  · simp only [lt_real, high, decide_true, if_true]
    exact (min_eq_right high.le).symm
  · simp only [lt_real, high, decide_false, Bool.false_eq_true, if_false]
    exact (min_eq_left (not_lt.mp high)).symm

end Operations

theorem powLoop_keeps {α : Type} [Scalar α] {P : α → Prop} (mul : ∀ {a b}, P a → P b → P (a * b))
    {base acc : α} (n : Nat) (hb : P base) (ha : P acc) : P (powLoop base acc n) := by
  have step : ∀ {base acc : α} {n : Nat}, P base → P acc →
      P (if n % 2 = 1 then acc * base else acc) := by
    intro base acc n hb ha
    split
    · exact mul ha hb
    · exact ha
  fun_induction powLoop base acc n with
  | case1 base acc n next last => exact step hb ha
  | case2 base acc n next more ih => exact ih (mul hb hb) (step hb ha)

end Scalar

section Components

variable {α : Type}

namespace Vec2

theorem add_eq [Add α] (u v : Vec2 α) : u + v = ⟨u.x + v.x, u.y + v.y⟩ := rfl
theorem sub_eq [Sub α] (u v : Vec2 α) : u - v = ⟨u.x - v.x, u.y - v.y⟩ := rfl
theorem mul_eq [Mul α] (u v : Vec2 α) : u * v = ⟨u.x * v.x, u.y * v.y⟩ := rfl
theorem scale_eq [Mul α] (v : Vec2 α) (s : α) : v.scale s = ⟨v.x * s, v.y * s⟩ := rfl
theorem divide_eq [Div α] (v : Vec2 α) (s : α) : v.divide s = ⟨v.x / s, v.y / s⟩ := rfl
theorem shift_eq [Add α] (v : Vec2 α) (s : α) : v.shift s = ⟨v.x + s, v.y + s⟩ := rfl
theorem shiftDown_eq [Sub α] (v : Vec2 α) (s : α) : v.shiftDown s = ⟨v.x - s, v.y - s⟩ := rfl

end Vec2

namespace Vec3

theorem add_eq [Add α] (u v : Vec3 α) : u + v = ⟨u.x + v.x, u.y + v.y, u.z + v.z⟩ := rfl
theorem sub_eq [Sub α] (u v : Vec3 α) : u - v = ⟨u.x - v.x, u.y - v.y, u.z - v.z⟩ := rfl
theorem mul_eq [Mul α] (u v : Vec3 α) : u * v = ⟨u.x * v.x, u.y * v.y, u.z * v.z⟩ := rfl
theorem scale_eq [Mul α] (v : Vec3 α) (s : α) : v.scale s = ⟨v.x * s, v.y * s, v.z * s⟩ := rfl
theorem divide_eq [Div α] (v : Vec3 α) (s : α) : v.divide s = ⟨v.x / s, v.y / s, v.z / s⟩ := rfl
theorem shift_eq [Add α] (v : Vec3 α) (s : α) : v.shift s = ⟨v.x + s, v.y + s, v.z + s⟩ := rfl

end Vec3

namespace Vec4

theorem add_eq [Add α] (u v : Vec4 α) :
    u + v = ⟨u.x + v.x, u.y + v.y, u.z + v.z, u.w + v.w⟩ := rfl
theorem scale_eq [Mul α] (v : Vec4 α) (s : α) :
    v.scale s = ⟨v.x * s, v.y * s, v.z * s, v.w * s⟩ := rfl
theorem divide_eq [Div α] (v : Vec4 α) (s : α) :
    v.divide s = ⟨v.x / s, v.y / s, v.z / s, v.w / s⟩ := rfl

end Vec4

end Components

namespace Vec3

open Scalar

variable {u v : Vec3 ℝ}

section Axes

theorem axis_splat {α : Type} (a : α) (axis : Nat) : (splat a).axis axis = a := by
  match axis with
  | 0 => rfl
  | 1 => rfl
  | _ + 2 => rfl

theorem axis_zero (axis : Nat) : (zero : Vec3 ℝ).axis axis = 0 := by
  rw [zero, axis_splat, real_zero]

theorem axis_add (u v : Vec3 ℝ) (axis : Nat) : (u + v).axis axis = u.axis axis + v.axis axis := by
  match axis with
  | 0 => rfl
  | 1 => rfl
  | _ + 2 => rfl

theorem axis_sub (u v : Vec3 ℝ) (axis : Nat) : (u - v).axis axis = u.axis axis - v.axis axis := by
  match axis with
  | 0 => rfl
  | 1 => rfl
  | _ + 2 => rfl

theorem axis_mul (u v : Vec3 ℝ) (axis : Nat) : (u * v).axis axis = u.axis axis * v.axis axis := by
  match axis with
  | 0 => rfl
  | 1 => rfl
  | _ + 2 => rfl

theorem axis_map {α β : Type} (f : α → β) (v : Vec3 α) (axis : Nat) :
    (v.map f).axis axis = f (v.axis axis) := by
  match axis with
  | 0 => rfl
  | 1 => rfl
  | _ + 2 => rfl

theorem axis_scale (v : Vec3 ℝ) (s : ℝ) (axis : Nat) : (v.scale s).axis axis = v.axis axis * s :=
  axis_map (· * s) v axis

theorem axis_divide (v : Vec3 ℝ) (s : ℝ) (axis : Nat) :
    (v.divide s).axis axis = v.axis axis / s :=
  axis_map (· / s) v axis

theorem forall_axis {α : Type} {P : α → Prop} {v : Vec3 α} :
    (∀ axis, P (v.axis axis)) ↔ P v.x ∧ P v.y ∧ P v.z := by
  constructor
  · exact fun each => ⟨each 0, each 1, each 2⟩
  · rintro ⟨x, y, z⟩ (_ | _ | axis)
    · exact x
    · exact y
    · exact z

theorem eq_of_axes (same : ∀ axis, u.axis axis = v.axis axis) : u = v := by
  have x : u.x = v.x := same 0
  have y : u.y = v.y := same 1
  have z : u.z = v.z := same 2
  cases u
  cases v
  rw [mk.injEq]
  exact ⟨x, y, z⟩

end Axes

section Lengths

variable {k limit : ℝ}

theorem length_eq (v : Vec3 ℝ) : v.length = √(v.x ^ 2 + v.y ^ 2 + v.z ^ 2) := by
  simp only [length, dot, sqrt_real, pow_two]

theorem length_scale (low : 0 ≤ k) (v : Vec3 ℝ) : (v.scale k).length = v.length * k := by
  have square : (v.x * k) ^ 2 + (v.y * k) ^ 2 + (v.z * k) ^ 2 =
      (v.x ^ 2 + v.y ^ 2 + v.z ^ 2) * k ^ 2 := by ring
  rw [length_eq, length_eq, scale_eq, square, Real.sqrt_mul' _ (sq_nonneg k), Real.sqrt_sq low]

theorem abs_axis_le_length (v : Vec3 ℝ) : ∀ axis, |v.axis axis| ≤ v.length := by
  rw [length_eq, forall_axis (P := fun a => |a| ≤ √(v.x ^ 2 + v.y ^ 2 + v.z ^ 2))]
  refine ⟨?_, ?_, ?_⟩
  all_goals
    apply Real.abs_le_sqrt
    linarith [sq_nonneg v.x, sq_nonneg v.y, sq_nonneg v.z]

theorem length_le_of_axes (bound : ∀ axis, |v.axis axis| ≤ k) : v.length ≤ 2 * k := by
  obtain ⟨x, y, z⟩ := (forall_axis (P := fun a => |a| ≤ k)).mp bound
  have low : 0 ≤ k := (abs_nonneg v.x).trans x
  have squares : ∀ {a : ℝ}, |a| ≤ k → a ^ 2 ≤ k ^ 2 := fun short =>
    sq_le_sq' (abs_le.mp short).1 (abs_le.mp short).2
  rw [length_eq, Real.sqrt_le_left (mul_nonneg two_pos.le low)]
  linarith [squares x, squares y, squares z, sq_nonneg k]

theorem length_limitLength_le (low : 0 ≤ limit) (v : Vec3 ℝ) :
    (v.limitLength limit).length ≤ limit := by
  have square : v.dot v = v.length ^ 2 := by
    rw [length_eq, Real.sq_sqrt (by positivity)]
    simp only [dot, pow_two]
  have nonneg : 0 ≤ v.length := (abs_nonneg _).trans (abs_axis_le_length v 0)
  simp only [limitLength, lt_real, sqrt_real, square, decide_eq_true_eq, Real.sqrt_sq nonneg]
  split
  · rename_i long
    have some : 0 < v.length := by
      by_contra none
      rw [le_antisymm (not_lt.mp none) nonneg] at long
      nlinarith
    have scaled : (v.divide v.length).map (limit * ·) = v.scale (limit / v.length) := by
      simp only [divide_eq, map, scale_eq, mk.injEq]
      refine ⟨?_, ?_, ?_⟩ <;> ring
    rw [scaled, length_scale (div_nonneg low nonneg), mul_div_cancel₀ _ some.ne']
  · rename_i short
    rw [not_lt, ← pow_two] at short
    exact le_of_sq_le_sq short low

theorem divide_eq_scale (v : Vec3 ℝ) (s : ℝ) : v.divide s = v.scale (1 / s) := by
  simp only [divide_eq, scale_eq, mul_one_div]

theorem normalize_scale (some : 0 < k) (v : Vec3 ℝ) : (v.scale k).normalize = v.normalize := by
  have share : ∀ a : ℝ, a * k * (1 / (v.length * k)) = a * (1 / v.length) := by
    intro a
    field_simp
  rw [normalize, length_scale some.le, normalize]
  simp only [scale_eq, real_one, share]

end Lengths

end Vec3

end IrradianceField
