import IrradianceField.Scalar.Basic
import Mathlib.Data.Rat.Floor

/-!
Scalars without rounding, in which worked examples can be computed.
-/

namespace IrradianceField

/-- Rational arithmetic, with roots and angles no finer than whole numbers. -/
instance : Scalar ℚ where
  ofNat n := n
  ofInt n := n
  toNat a := (max a.floor 0).toNat
  toInt a := if 0 ≤ a then a.floor else a.ceil
  toBits a := a.num.toNat
  ofBits n := n
  lt a b := decide (a < b)
  le a b := decide (a ≤ b)
  isFinite _ := true
  abs a := if 0 ≤ a then a else -a
  sqrt a := Nat.sqrt a.num.toNat
  floor a := a.floor
  ceil a := a.ceil
  round a := (a + 1 / 2).floor
  sin _ := 0
  cos _ := 1
  pow a _ := a
  pi := 3

end IrradianceField
