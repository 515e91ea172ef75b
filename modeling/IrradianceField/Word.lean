import IrradianceField.Fault
import IrradianceField.Vector

/-!
Checked arithmetic of words: natural numbers below two to the power of 32, and whole numbers of the
signed range. A result that does not fit is a fault, never a wrong number.
-/

namespace IrradianceField

namespace Word

def add (a b : Nat) : Except Fault Nat :=
  if a + b < 4294967296 then .ok (a + b) else .error .addOverflow

def sub (a b : Nat) : Except Fault Nat :=
  if b ≤ a then .ok (a - b) else .error .subOverflow

def mul (a b : Nat) : Except Fault Nat :=
  if a * b < 4294967296 then .ok (a * b) else .error .mulOverflow

def div (a b : Nat) : Except Fault Nat :=
  if b = 0 then .error .divisionByZero else .ok (a / b)

def rem (a b : Nat) : Except Fault Nat :=
  if b = 0 then .error .remainderByZero else .ok (a % b)

/-- Sum without the check, as counters shared by threads add up. -/
def wrappingAdd (a b : Nat) : Nat := (a + b) % 4294967296

def ofHalves (lo hi : Nat) : Nat := lo % 65536 + hi % 65536 * 65536

def halves (word : Nat) : Nat × Nat := (word % 65536, word / 65536)

/-- Moves `a` into `lo ..= hi`. -/
def clamp (a lo hi : Nat) : Except Fault Nat :=
  if lo ≤ hi then .ok (min (max a lo) hi) else .error (.wordRange lo hi)

def groups (count size : Nat) : Except Fault Nat := do
  return (← sub (← add count size) 1) / size

def toSigned (word : Nat) : Int := Int.bmod word 4294967296

end Word

namespace SignedWord

def checked (overflow : Fault) (a : Int) : Except Fault Int :=
  if -2147483648 ≤ a ∧ a < 2147483648 then .ok a else .error overflow

def add (a b : Int) : Except Fault Int := checked .addOverflow (a + b)

def sub (a b : Int) : Except Fault Int := checked .subOverflow (a - b)

def abs (a : Int) : Except Fault Int := checked .negOverflow (a.natAbs : Int)

/-- Remainder with the sign of the dividend. -/
def rem (a b : Int) : Except Fault Int :=
  if b = 0 then .error .remainderByZero
  else if a = -2147483648 ∧ b = -1 then .error .remainderOverflow
  else .ok (a.tmod b)

def toWord (a : Int) : Nat := (a % 4294967296).toNat

end SignedWord

namespace Size

/-- Products of sizes in bytes are held in 64 bits. -/
def mul (a b : Nat) : Except Fault Nat :=
  if a * b < 18446744073709551616 then .ok (a * b) else .error .mulOverflow

def add (a b : Nat) : Except Fault Nat :=
  if a + b < 18446744073709551616 then .ok (a + b) else .error .addOverflow

end Size

namespace Scalar

variable {α : Type} [Scalar α]

/-- Clamping that faults unless the bounds are in order. -/
def clamp (lo hi a : α) : Except Fault α :=
  if le lo hi then .ok (clampTo lo hi a) else .error (.scalarRange (toBits lo) (toBits hi))

end Scalar

/-- A fetch or store outside of a buffer is a fault of its own. -/
def fetch {β : Type} (buffer : Array β) (i : Nat) : Except Fault β :=
  if h : i < buffer.size then .ok buffer[i] else .error (.outsideBuffer buffer.size i)

def store {β : Type} (buffer : Array β) (i : Nat) (value : β) : Except Fault (Array β) :=
  if h : i < buffer.size then .ok (buffer.set i value) else .error (.outsideBuffer buffer.size i)

end IrradianceField
