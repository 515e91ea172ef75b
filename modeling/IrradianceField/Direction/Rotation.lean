import IrradianceField.Vector

/-!
Uniformly distributed rotations, out of three random words.
-/

namespace IrradianceField.Rotation

variable {α : Type} [Scalar α]

def unit (word : Nat) : α := Scalar.ofNat (word / 256) / 16777216.0

def ofUnits (share first second : α) : Quat α :=
  let a := Scalar.sqrt (1.0 - share)
  let b := Scalar.sqrt share
  ⟨a * Scalar.sin first, a * Scalar.cos first, b * Scalar.sin second, b * Scalar.cos second⟩

def ofWords (share first second : Nat) : Quat α :=
  ofUnits (unit share) (unit first * Scalar.tau) (unit second * Scalar.tau)

end IrradianceField.Rotation
