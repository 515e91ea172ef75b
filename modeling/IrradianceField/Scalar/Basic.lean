/-!
Scalars: the arithmetic that the lighting is written over, and the functions that follow from it.
The program runs over 32-bit floating point; the same definitions over the reals are its exact
arithmetic.
-/

namespace IrradianceField

/-- Scalar operations: `toNat` and `toInt` cut towards zero and saturate at the ends of the unsigned
and the signed 32-bit words, `round` takes halves away from zero, and `toBits` and `ofBits` relate a
value to the word it is stored as. -/
class Scalar (α : Type) extends Add α, Sub α, Mul α, Div α, Neg α, OfScientific α where
  ofNat : Nat → α
  ofInt : Int → α
  toNat : α → Nat
  toInt : α → Int
  toBits : α → Nat
  ofBits : Nat → α
  lt : α → α → Bool
  le : α → α → Bool
  isFinite : α → Bool
  abs : α → α
  sqrt : α → α
  floor : α → α
  ceil : α → α
  round : α → α
  sin : α → α
  cos : α → α
  pow : α → α → α
  pi : α

namespace Scalar

variable {α : Type} [Scalar α]

instance : Inhabited α := ⟨ofNat 0⟩

/-- Equality of values: it holds of two zeros of either sign and never of something undefined. -/
def same (a b : α) : Bool := le a b && le b a

def isUndefined (a : α) : Bool := !le a a

/-- The larger operand, or the other one if one of them is undefined. -/
def maxNum (a b : α) : α := if isUndefined a then b else if lt a b then b else a

/-- The smaller operand, or the other one if one of them is undefined. -/
def minNum (a b : α) : α := if isUndefined a then b else if lt b a then b else a

def sqr (a : α) : α := a * a

/-- Moves `a` into `lo ..= hi`; something undefined stays so. -/
def clampTo (lo hi a : α) : α :=
  let raised := if lt a lo then lo else a
  if lt hi raised then hi else raised

def saturate (a : α) : α := clampTo 0.0 1.0 a

def signNotZero (a : α) : α := if le 0.0 a then 1.0 else -1.0

def lerp (a b t : α) : α := a + (b - a) * saturate t

/-- Squaring step of `powNat`: `acc` holds the product of the powers picked so far. -/
def powLoop (base acc : α) (n : Nat) : α :=
  let acc := if n % 2 = 1 then acc * base else acc
  if _h : n / 2 = 0 then acc else powLoop (base * base) acc (n / 2)
termination_by n
decreasing_by omega

def powNat (base : α) (n : Nat) : α := powLoop base 1.0 n

/-- A negative exponent gives the reciprocal of the positive power. -/
def powInt (base : α) (n : Int) : α :=
  if n < 0 then 1.0 / powNat base n.natAbs else powNat base n.natAbs

/-- Code of a value of `-1 ..= 1` as a signed 16-bit number; other values go to the nearer end. -/
def toSnorm16 (a : α) : Nat :=
  (toInt (round (clampTo (-1.0) 1.0 a * 32767.0)) % 65536).toNat

/-- The 16-bit number in the lower half of a word, read as signed. -/
def signedHalf (bits : Nat) : Int :=
  let half := bits % 65536
  if 32768 ≤ half then (half : Int) - 65536 else half

def ofSnorm16 (bits : Nat) : α := maxNum (ofInt (signedHalf bits) / 32767.0) (-1.0)

def tau : α := 2.0 * pi

end Scalar

end IrradianceField
