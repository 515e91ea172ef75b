import IrradianceField.Decimal.Shortest

/-!
Scientific notation with six significant digits, rounded from the exact value.
-/

namespace IrradianceField.Decimal

def sixDigits (v : Finite) : Scaled :=
  let e := decimalExponent v.units
  let grid := e - 5
  let digits := roundHalfEven (v.units * tenTo bias) (tenTo grid * twoTo 149)
  if digits = 1000000 then ⟨100000, grid + 1⟩ else ⟨digits, grid⟩

/-- Zeros of either sign are written as one digit. -/
def scientific (word : Nat) : String :=
  let sign := if isNegative word then "-" else ""
  match magnitude word with
  | .undefined => "nan"
  | .infinite => sign ++ "inf"
  | .finite v => if v.mantissa = 0 then "0" else sign ++ renderExponential (sixDigits v)

end IrradianceField.Decimal
