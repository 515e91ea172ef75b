import Mathlib.LinearAlgebra.Matrix.ToLinearEquiv
import IrradianceField.Scalar.Real
import IrradianceField.Proofs.Bounding

/-!
Viewing: in exact arithmetic the view of a tile holds the box of its object and nothing else, with the
side that the tile shows in front, and maps that are undone by their inverses.
-/

namespace IrradianceField

open Scalar

theorem Vec3.neg_eq (v : Vec3 ℝ) : -v = ⟨-v.x, -v.y, -v.z⟩ := rfl

namespace Affine

variable {t : Affine ℝ}

def IsInvertible (t : Affine ℝ) : Prop := Function.Bijective t.point

/-- Volume of what the map makes of a unit cube, negative where it is mirrored. -/
noncomputable def det (t : Affine ℝ) : ℝ := t.zAxis.dot (t.xAxis.cross t.yAxis)

theorem comp_point (a b : Affine ℝ) (p : Vec3 ℝ) : (a.comp b).point p = a.point (b.point p) := by
  simp only [comp, point, vector, Vec3.add_eq, Vec3.scale_eq, Vec3.mk.injEq]
  refine ⟨?_, ?_, ?_⟩
  all_goals ring

section Determinants

variable (regular : t.det ≠ 0)

include regular

theorem exists_inverse_eq : ∃ r : ℝ, r * t.det = 1 ∧ ∀ p, t.inverse.point p =
    ⟨r * (p - t.offset).dot (t.yAxis.cross t.zAxis), r * (p - t.offset).dot (t.zAxis.cross t.xAxis),
      r * (p - t.offset).dot (t.xAxis.cross t.yAxis)⟩ := by
  refine ⟨1 / t.det, one_div_mul_cancel regular, ?_⟩
  intro p
  have same : t.zAxis.dot (t.xAxis.cross t.yAxis) = t.det := rfl
  rw [inverse, same, real_one]
  generalize 1 / t.det = r
  simp only [point, vector, Vec3.add_eq, Vec3.sub_eq, Vec3.neg_eq,
    Vec3.scale_eq, Vec3.cross, Vec3.dot, Vec3.mk.injEq]
  refine ⟨?_, ?_, ?_⟩
  all_goals ring

theorem inverse_point (p : Vec3 ℝ) : t.inverse.point (t.point p) = p := by
  rcases exists_inverse_eq regular with ⟨r, unit, eq⟩
  rcases p with ⟨x, y, z⟩
  rw [eq]
  simp only [det, point, vector, Vec3.add_eq, Vec3.sub_eq, Vec3.scale_eq, Vec3.cross, Vec3.dot,
    Vec3.mk.injEq] at unit ⊢
  refine ⟨?_, ?_, ?_⟩
  · linear_combination x * unit
  · linear_combination y * unit
  · linear_combination z * unit

theorem point_inverse (p : Vec3 ℝ) : t.point (t.inverse.point p) = p := by
  rcases exists_inverse_eq regular with ⟨r, unit, eq⟩
  rcases p with ⟨x, y, z⟩
  rw [eq]
  simp only [det, point, vector, Vec3.add_eq, Vec3.sub_eq, Vec3.scale_eq, Vec3.cross, Vec3.dot,
    Vec3.mk.injEq] at unit ⊢
  refine ⟨?_, ?_, ?_⟩
  · linear_combination (x - t.offset.x) * unit
  · linear_combination (y - t.offset.y) * unit
  · linear_combination (z - t.offset.z) * unit

end Determinants

theorem isInvertible_iff : t.IsInvertible ↔ t.det ≠ 0 := by
  constructor
  · intro invertible flat
    have singular : (!![t.xAxis.x, t.yAxis.x, t.zAxis.x; t.xAxis.y, t.yAxis.y, t.zAxis.y;
        t.xAxis.z, t.yAxis.z, t.zAxis.z] : Matrix (Fin 3) (Fin 3) ℝ).det = 0 := by
      rw [← flat, Matrix.det_fin_three]
      simp [det, Vec3.dot, Vec3.cross]
      ring
    rcases Matrix.exists_mulVec_eq_zero_iff.mpr singular with ⟨v, nonzero, vanishes⟩
    have x : t.xAxis.x * v 0 + t.yAxis.x * v 1 + t.zAxis.x * v 2 = 0 := by
      simpa [Matrix.mulVec, dotProduct, Fin.sum_univ_three] using congrFun vanishes 0
    have y : t.xAxis.y * v 0 + t.yAxis.y * v 1 + t.zAxis.y * v 2 = 0 := by
      simpa [Matrix.mulVec, dotProduct, Fin.sum_univ_three] using congrFun vanishes 1
    have z : t.xAxis.z * v 0 + t.yAxis.z * v 1 + t.zAxis.z * v 2 = 0 := by
      simpa [Matrix.mulVec, dotProduct, Fin.sum_univ_three] using congrFun vanishes 2
    have same : t.point ⟨v 0, v 1, v 2⟩ = t.point ⟨0, 0, 0⟩ := by
      simp only [point, vector, Vec3.add_eq, Vec3.scale_eq, Vec3.mk.injEq]
      refine ⟨?_, ?_, ?_⟩
      · linarith
      · linarith
      · linarith
    have zero := Vec3.mk.inj (invertible.injective same)
    apply nonzero
    funext i
    fin_cases i
    · exact zero.1
    · exact zero.2.1
    · exact zero.2.2
  · intro regular
    exact Function.bijective_iff_has_inverse.mpr ⟨t.inverse.point, inverse_point regular,
      point_inverse regular⟩

end Affine

namespace Rows

theorem ofAffine_point (t : Affine ℝ) (p : Vec3 ℝ) : (ofAffine t).point p = t.point p := by
  simp only [point, ofAffine, Vec3.map, Vec4.dot, Vec3.extend, Affine.point, Affine.vector, Vec3.add_eq,
    Vec3.scale_eq, real_one, Vec3.mk.injEq]
  refine ⟨?_, ?_, ?_⟩
  all_goals ring

theorem ofAffine_vector (t : Affine ℝ) (v : Vec3 ℝ) : (ofAffine t).vector v = t.vector v := rfl

end Rows

namespace TileBasis

variable {dir : Nat} {e q : Vec3 ℝ}

theorem toView_point (b : TileBasis ℝ) (depth : ℝ) (q : Vec3 ℝ) : (b.toView depth).point q =
    ⟨b.right.dot q, b.up.dot q, b.forward.dot q + depth⟩ := by
  simp only [toView, Affine.point, Affine.vector, Vec3.add_eq, Vec3.scale_eq, Vec3.dot, real_zero,
    add_zero]

theorem forward_ofDirection (present : dir < directionsCount) :
    (ofDirection dir).forward = -(directionNormal dir : Vec3 ℝ) := by
  rw [directionsCount] at present
  interval_cases dir
  all_goals simp [ofDirection, directionNormal, Vec3.neg_eq]

theorem reach_iff (present : dir < directionsCount) :
    (|(ofDirection dir : TileBasis ℝ).right.dot q| ≤ (ofDirection dir).right.abs.dot e ∧
      |(ofDirection dir : TileBasis ℝ).up.dot q| ≤ (ofDirection dir).up.abs.dot e ∧
      |q.dot (directionNormal dir)| ≤ e.dot (directionNormal dir).abs) ↔
    |q.x| ≤ e.x ∧ |q.y| ≤ e.y ∧ |q.z| ≤ e.z := by
  rw [directionsCount] at present
  interval_cases dir
  all_goals
    simp [ofDirection, directionNormal, Vec3.neg_eq, Vec3.dot, Vec3.abs, Vec3.map, and_comm,
      and_assoc]

end TileBasis

/-- Whether a point lies in what a view of a size shows, up to its far end. -/
def InView (bounds p : Vec3 ℝ) : Prop :=
  |p.x| ≤ bounds.x / 2 ∧ |p.y| ≤ bounds.y / 2 ∧ 0 ≤ p.z ∧ p.z ≤ bounds.z

namespace ObjectDesc

/-- The side of an object's box that has an outward normal in local space. -/
def OnSide (d : ObjectDesc ℝ) (normal p : Vec3 ℝ) : Prop :=
  ∃ q : Vec3 ℝ, |q.x| ≤ d.extent.x ∧ |q.y| ≤ d.extent.y ∧ |q.z| ≤ d.extent.z ∧
    q.dot normal = d.extent.dot normal.abs ∧ p = d.transform.point q

variable {d : ObjectDesc ℝ} {dir : Nat} {p q : Vec3 ℝ}

theorem tileView_point (regular : d.transform.det ≠ 0) (present : dir < directionsCount)
    (q : Vec3 ℝ) : (d.tileView dir).1.point (d.transform.point q) =
      ⟨(TileBasis.ofDirection dir : TileBasis ℝ).right.dot q,
        (TileBasis.ofDirection dir : TileBasis ℝ).up.dot q,
        d.extent.dot (directionNormal dir).abs - q.dot (directionNormal dir)⟩ := by
  rw [tileView, Affine.comp_point, Affine.inverse_point regular, TileBasis.toView_point,
    TileBasis.forward_ofDirection present]
  simp only [Vec3.neg_eq, Vec3.abs, Vec3.map, Vec3.dot, abs_real, abs_neg, Vec3.mk.injEq, true_and]
  ring

theorem tileView_bounds (present : dir < directionsCount) : (d.tileView dir).2 =
    ⟨(TileBasis.ofDirection dir : TileBasis ℝ).right.abs.dot d.extent * 2,
      (TileBasis.ofDirection dir : TileBasis ℝ).up.abs.dot d.extent * 2,
      d.extent.dot (directionNormal dir).abs * 2⟩ := by
  rw [tileView, TileBasis.forward_ofDirection present]
  simp only [Vec3.scale_eq, Vec3.neg_eq, Vec3.abs, Vec3.map, Vec3.dot, abs_real, abs_neg, real_two,
    Vec3.mk.injEq, true_and]
  ring

theorem inView_iff (regular : d.transform.det ≠ 0) (present : dir < directionsCount) :
    InView (d.tileView dir).2 ((d.tileView dir).1.point (d.transform.point q)) ↔
      |q.x| ≤ d.extent.x ∧ |q.y| ≤ d.extent.y ∧ |q.z| ≤ d.extent.z := by
  rw [InView, tileView_point regular present, tileView_bounds present, ← TileBasis.reach_iff present,
    mul_div_cancel_right₀ _ two_ne_zero, mul_div_cancel_right₀ _ two_ne_zero, abs_le (a := q.dot _)]
  refine and_congr_right' (and_congr_right' ?_)
  constructor
  · intro within
    constructor
    · linarith
    · linarith
  · intro within
    constructor
    · linarith
    · linarith

theorem contains_point (invertible : d.transform.IsInvertible) :
    d.Contains (d.transform.point q) ↔
      |q.x| ≤ d.extent.x ∧ |q.y| ≤ d.extent.y ∧ |q.z| ≤ d.extent.z := by
  constructor
  · intro inside
    rcases inside with ⟨other, x, y, z, same⟩
    rw [invertible.injective same]
    exact ⟨x, y, z⟩
  · intro inside
    exact ⟨q, inside.1, inside.2.1, inside.2.2, rfl⟩

theorem onSide_point (invertible : d.transform.IsInvertible) {normal : Vec3 ℝ} :
    d.OnSide normal (d.transform.point q) ↔
      d.Contains (d.transform.point q) ∧ q.dot normal = d.extent.dot normal.abs := by
  rw [contains_point invertible]
  constructor
  · intro inside
    rcases inside with ⟨other, x, y, z, side, same⟩
    rw [invertible.injective same]
    exact ⟨⟨x, y, z⟩, side⟩
  · intro inside
    rcases inside with ⟨⟨x, y, z⟩, side⟩
    exact ⟨q, x, y, z, side, rfl⟩

/-- The view of a tile holds what is in the object's box and nothing else: the side whose outward
normal is that of the tile's direction in front, and the side across from it at the far end. The rows
of the map, as the kernels have it, do to points and vectors what the map does. -/
theorem tileView_captures (invertible : d.transform.IsInvertible) (present : dir < directionsCount) :
    (∀ p, d.Contains p ↔ InView (d.tileView dir).2 ((d.tileView dir).1.point p)) ∧
    (∀ p, d.OnSide (directionNormal dir) p ↔
      d.Contains p ∧ ((d.tileView dir).1.point p).z = 0) ∧
    (∀ p, d.OnSide (-directionNormal dir) p ↔
      d.Contains p ∧ ((d.tileView dir).1.point p).z = (d.tileView dir).2.z) ∧
    ∀ p, (Rows.ofAffine d.transform).point p = d.transform.point p ∧
      (Rows.ofAffine d.transform).vector p = d.transform.vector p := by
  have regular := Affine.isInvertible_iff.mp invertible
  refine ⟨?_, ?_, ?_, ?_⟩
  · intro p
    rcases invertible.surjective p with ⟨q, rfl⟩
    rw [inView_iff regular present, contains_point invertible]
  · intro p
    rcases invertible.surjective p with ⟨q, rfl⟩
    rw [onSide_point invertible, tileView_point regular present, sub_eq_zero, eq_comm (a := q.dot _)]
  · intro p
    rcases invertible.surjective p with ⟨q, rfl⟩
    have across : q.dot (-directionNormal dir) = -q.dot (directionNormal dir) := by
      simp only [Vec3.neg_eq, Vec3.dot]
      ring
    have same : (-directionNormal dir : Vec3 ℝ).abs = (directionNormal dir).abs := by
      simp only [Vec3.neg_eq, Vec3.abs, Vec3.map, abs_real, abs_neg]
    rw [onSide_point invertible, tileView_point regular present, tileView_bounds present, across, same]
    refine and_congr_right' ?_
    constructor
    · intro side
      linarith
    · intro side
      linarith
  · intro p
    exact ⟨Rows.ofAffine_point _ p, Rows.ofAffine_vector _ p⟩

noncomputable def shearedBox : ObjectDesc ℝ where
  transform := ⟨⟨2.0, 0.0, 0.0⟩, ⟨1.0, 3.0, 0.0⟩, ⟨0.0, 0.0, -1.0⟩, ⟨1.0, 2.0, 3.0⟩⟩
  extent := ⟨1.0, 2.0, 3.0⟩
  tileSizes := .replicate _ ⟨1, 1⟩

theorem shearedBox_isInvertible : shearedBox.transform.IsInvertible := by
  rw [Affine.isInvertible_iff]
  norm_num [shearedBox, Affine.det, Vec3.dot, Vec3.cross]

/-- A point of the lower side is in front for the tile that shows this side. -/
theorem tileView_captures_shearedBox :
    shearedBox.OnSide (directionNormal 3) ⟨1, -4, 3⟩ ∧
      ((shearedBox.tileView 3).1.point ⟨1, -4, 3⟩).z = 0 ∧
      InView (shearedBox.tileView 3).2 ((shearedBox.tileView 3).1.point ⟨1, -4, 3⟩) := by
  rcases tileView_captures shearedBox_isInvertible (by decide : 3 < directionsCount)
    with ⟨box, front, -⟩
  have side : shearedBox.OnSide (directionNormal 3) ⟨1, -4, 3⟩ := by
    refine ⟨⟨1, -2, 0⟩, ?_⟩
    norm_num [shearedBox, directionNormal, Vec3.dot, Vec3.abs, Vec3.map, Affine.point, Affine.vector,
      Vec3.add_eq, Vec3.scale_eq]
  rcases (front _).mp side with ⟨inside, first⟩
  exact ⟨side, first, (box _).mp inside⟩

end ObjectDesc

end IrradianceField
