import IrradianceField.Decimal.Shortest

/-!
Faults: the conditions on which a computation stops. `Fault.message` gives the text of each.
-/

namespace IrradianceField

/-- Bounds of a scalar range are kept as the words that store them. -/
inductive Fault where
  | addOverflow
  | subOverflow
  | mulOverflow
  | negOverflow
  | divisionByZero
  | remainderByZero
  | remainderOverflow
  | indexOutOfBounds (size index : Nat)
  | outsideBuffer (size index : Nat)
  | scalarRange (lo hi : Nat)
  | wordRange (lo hi : Nat)
  | emptyAtlas
  deriving DecidableEq, Repr

namespace Fault

def message : Fault → String
  | addOverflow => "attempt to add with overflow"
  | subOverflow => "attempt to subtract with overflow"
  | mulOverflow => "attempt to multiply with overflow"
  | negOverflow => "attempt to negate with overflow"
  | divisionByZero => "attempt to divide by zero"
  | remainderByZero => "attempt to calculate the remainder with a divisor of zero"
  | remainderOverflow => "attempt to calculate the remainder with overflow"
  | indexOutOfBounds size index =>
    s!"index out of bounds: the len is {size} but the index is {index}"
  | outsideBuffer size index => s!"element {index} is outside of a buffer of {size}"
  | scalarRange lo hi =>
    "min > max, or either was NaN. min = " ++ Decimal.render .literal lo ++
      ", max = " ++ Decimal.render .literal hi
  | wordRange lo hi => s!"min > max. min = {lo}, max = {hi}"
  | emptyAtlas => "assertion failed: size.width > 0"

end Fault

end IrradianceField
