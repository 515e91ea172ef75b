import IrradianceField.Scalar.Basic

/-!
Binary floating point of 32 bits as a scalar. Rounding to whole numbers is built on the cut to an
unsigned word, which is exact below two to the power of 23; larger values are whole already.
-/

namespace IrradianceField.Binary32

def isWhole (x : Float32) : Bool := !(x.abs < 8388608.0)

def isNegative (x : Float32) : Bool := 0x80000000 ≤ x.toBits

/-- Whole part of the magnitude of a value that is not known to be whole. -/
def wholePart (x : Float32) : Float32 := x.abs.toUInt32.toFloat32

def withSignOf (x magnitude : Float32) : Float32 := if isNegative x then -magnitude else magnitude

def wholePartUp (x : Float32) : Float32 :=
  if wholePart x < x.abs then wholePart x + 1.0 else wholePart x

def floor (x : Float32) : Float32 :=
  if isWhole x then x
  else if isNegative x then -wholePartUp x else wholePart x

def ceil (x : Float32) : Float32 :=
  if isWhole x then x
  else if isNegative x then -wholePart x else wholePartUp x

def round (x : Float32) : Float32 :=
  if isWhole x then x
  else withSignOf x (if 0.5 ≤ x.abs - wholePart x then wholePart x + 1.0 else wholePart x)

def ofNat (n : Nat) : Float32 :=
  if n < 4294967296 then n.toUInt32.toFloat32 else Float32.ofNat n

def ofInt : Int → Float32
  | .ofNat n => ofNat n
  | .negSucc n => -ofNat (n + 1)

def toInt (x : Float32) : Int :=
  let magnitude := x.abs.toUInt32.toNat
  if x < 0.0 then -(min magnitude 2147483648 : Nat) else (min magnitude 2147483647 : Nat)

instance : Scalar Float32 where
  ofScientific := OfScientific.ofScientific
  ofNat := ofNat
  ofInt := ofInt
  toNat x := x.toUInt32.toNat
  toInt := toInt
  toBits x := x.toBits.toNat
  ofBits n := Float32.ofBits n.toUInt32
  lt a b := decide (a < b)
  le a b := decide (a ≤ b)
  isFinite := Float32.isFinite
  abs := Float32.abs
  sqrt := Float32.sqrt
  floor := floor
  ceil := ceil
  round := round
  sin := Float32.sin
  cos := Float32.cos
  pow := Float32.pow
  pi := Float32.ofBits 0x40490fdb

end IrradianceField.Binary32
