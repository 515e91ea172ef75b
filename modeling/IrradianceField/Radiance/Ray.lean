import IrradianceField.Vector

/-!
Rays, and the lattice of directions that a probe's rays follow.
-/

namespace IrradianceField

structure Ray (α : Type) where
  origin : Vec3 α
  direction : Vec3 α
  deriving Repr, Inhabited

namespace Ray

variable {α : Type} [Scalar α]

def point (r : Ray α) (time : α) : Vec3 α := r.origin + r.direction.scale time

/-- The `i`-th of `count` points spread over the unit sphere along a spiral. -/
def fibonacciPoint (i count : Nat) : Vec3 α :=
  let goldenRatio : α := (Scalar.sqrt 5.0 * 0.5 + 0.5) - 1.0
  let s := Scalar.ofNat i * goldenRatio
  let phi := 2.0 * Scalar.pi * (s - Scalar.floor s)
  let cosTheta := 1.0 - (2.0 * Scalar.ofNat i + 1.0) / Scalar.ofNat count
  let sinTheta := Scalar.sqrt (Scalar.saturate (1.0 - Scalar.sqr cosTheta))
  ⟨Scalar.cos phi * sinTheta, Scalar.sin phi * sinTheta, cosTheta⟩

/-- Direction of a probe's `i`-th ray: a fixed lattice, turned by the rotation of the frame. -/
def probeDirection (i count : Nat) (rotation : Quat α) : Vec3 α :=
  (rotation.rotate (fibonacciPoint i count)).normalize

end Ray

end IrradianceField
