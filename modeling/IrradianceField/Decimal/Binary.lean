/-!
The value that a word stands for as a binary floating-point number of 32 bits, as whole numbers.
-/

namespace IrradianceField.Decimal

structure Finite where
  mantissa : Nat
  exponent : Nat
  deriving DecidableEq, Repr

inductive Magnitude where
  | undefined
  | infinite
  | finite (value : Finite)
  deriving DecidableEq, Repr

def twoTo (n : Nat) : Nat := Nat.pow 2 n

def tenTo (n : Nat) : Nat := Nat.pow 10 n

def isNegative (word : Nat) : Bool := 2147483648 ≤ word % 4294967296

def magnitude (word : Nat) : Magnitude :=
  let fraction := word % 8388608
  let code := word / 8388608 % 256
  if code = 255 then if fraction = 0 then .infinite else .undefined
  else if code = 0 then .finite ⟨fraction, 0⟩
  else .finite ⟨8388608 + fraction, code - 1⟩

def Finite.units (v : Finite) : Nat := v.mantissa * twoTo v.exponent

/-- Whether the gap to the next smaller value is half the gap to the next larger one. -/
def Finite.isLowest (v : Finite) : Bool := v.mantissa = 8388608 && 0 < v.exponent

def lastBelow (holds : Nat → Bool) : Nat → Nat
  | 0 => 0
  | e + 1 => if holds e then e else lastBelow holds e

/-- The decimal point is shifted by this much, so that every power of ten in use is whole. -/
def bias : Nat := 60

/-- Decimal exponent of a positive value, plus `bias`: the largest `e` with
`10 ^ (e - bias) ≤ units / 2 ^ 149`. -/
def decimalExponent (units : Nat) : Nat :=
  lastBelow (fun e => tenTo e * twoTo 149 ≤ units * tenTo bias) (2 * bias)

def roundHalfEven (numerator denominator : Nat) : Nat :=
  let q := numerator / denominator
  let r := numerator % denominator
  if 2 * r < denominator then q
  else if denominator < 2 * r then q + 1
  else if q % 2 = 0 then q else q + 1

end IrradianceField.Decimal
