import Mathlib
import IrradianceField.Proofs.Validating
import IrradianceField.Scalar.Real

/-!
Ordering: defined scalars are ordered, those of 32 bits as well as exact ones, so that a search for
the largest of some values finds it.
-/

namespace IrradianceField

/-- Scalars whose defined values are in order. Different values may share a place in it, as the zeros
of either sign do. -/
class Scalar.IsOrdered (α : Type) [Scalar α] : Prop where
  le_trans {a b c : α} : Scalar.le a b = true → Scalar.le b c = true → Scalar.le a c = true
  le_total {a b : α} : Scalar.isUndefined a = false → Scalar.isUndefined b = false →
    Scalar.le a b = true ∨ Scalar.le b a = true
  lt_eq_false_iff {a b : α} : Scalar.isUndefined a = false → Scalar.isUndefined b = false →
    (Scalar.lt a b = false ↔ Scalar.le b a = true)

namespace Binary32

open Float.Model (UnpackedFloat)

/-- Place of a value in the order, by its sign, its exponent and its mantissa. -/
def place : UnpackedFloat → Int ×ₗ Int ×ₗ Int
  | .infinity .negative => toLex (-2, toLex (0, 0))
  | .finite .negative m e _ => toLex (-1, toLex (-e, -m))
  | .finite .positive m e _ => toLex (1, toLex (e, m))
  | .infinity .positive => toLex (2, toLex (0, 0))
  | .zero _ | .notANumber => toLex (0, toLex (0, 0))

theorem isLE_then {m n : Nat} {e f : Int} :
    ((compare e f).then (compare m n)).isLE = true ↔ e < f ∨ e = f ∧ m ≤ n := by
  rcases lt_trichotomy e f with less | rfl | more
  · simp [Int.compare_eq_lt.mpr less, less]
  · simp [Nat.isLE_compare]
  · simp [Int.compare_eq_gt.mpr more, more.not_gt, more.ne']

theorem isGE_then {m n : Nat} {e f : Int} :
    ((compare e f).then (compare m n)).isGE = true ↔ f < e ∨ e = f ∧ n ≤ m := by
  rcases lt_trichotomy e f with less | rfl | more
  · simp [Int.compare_eq_lt.mpr less, less.not_gt, less.ne]
  · simp [Nat.isGE_compare]
  · simp [Int.compare_eq_gt.mpr more, more]

theorem isLE_compare {a b : UnpackedFloat} : (a.compare b).any Ordering.isLE = true ↔
    (a ≠ .notANumber ∧ b ≠ .notANumber) ∧ place a ≤ place b := by
  rcases a with (_ | _) | _ | (_ | _) | ⟨_ | _, m, e, some⟩ <;>
    rcases b with (_ | _) | _ | (_ | _) | ⟨_ | _, n, f, some'⟩ <;>
    simp [UnpackedFloat.compare, place, Prod.Lex.toLex_le_toLex, isLE_then, isGE_then]
  all_goals rfl

instance : Scalar.IsOrdered Float32 where
  le_trans {a b c} first second := by
    rw [le_eq_order] at first second ⊢
    obtain ⟨⟨left, -⟩, below⟩ := isLE_compare.mp first
    obtain ⟨⟨-, right⟩, below'⟩ := isLE_compare.mp second
    exact isLE_compare.mpr ⟨⟨left, right⟩, below.trans below'⟩
  le_total {a b} left right := by
    rw [le_eq_order, le_eq_order, ← order_swap a b]
    rcases same : order a b with _ | _ | _ | _
    · have undefined := order_eq_none.mp same
      simp [left, right] at undefined
    · exact .inl rfl
    · exact .inl rfl
    · exact .inr rfl
  lt_eq_false_iff left right := by simp [lt_eq_false, left, right]

end Binary32

instance : Scalar.IsOrdered ℝ where
  le_trans {a b c} first second := by
    rw [Scalar.le_real, decide_eq_true_eq] at first second ⊢
    exact first.trans second
  le_total {a b} _ _ := by
    simpa only [Scalar.le_real, decide_eq_true_eq] using le_total a b
  lt_eq_false_iff _ _ := by simp

namespace Scalar.IsOrdered

variable {α : Type} [Scalar α] [IsOrdered α] {a b c : α}

theorem le_of_lt (left : isUndefined a = false) (right : isUndefined b = false)
    (less : lt a b = true) : le a b = true := by
  rcases le_total left right with below | above
  · exact below
  · rw [(lt_eq_false_iff left right).mpr above] at less
    cases less

theorem lt_of_le_of_lt (first : isUndefined a = false) (second : isUndefined b = false)
    (third : isUndefined c = false) (below : le a b = true) (less : lt b c = true) :
    lt a c = true := by
  rw [← Bool.not_eq_false]
  intro above
  have back := le_trans ((lt_eq_false_iff first third).mp above) below
  rw [(lt_eq_false_iff second third).mpr back] at less
  cases less

end Scalar.IsOrdered

end IrradianceField
