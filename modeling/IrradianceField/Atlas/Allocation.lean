import IrradianceField.Word

/-!
Allocation of rectangles within a square atlas: what the registry of objects asks of an allocator.
-/

namespace IrradianceField

structure Rect where
  origin : Vec2 Nat
  size : Vec2 Nat
  deriving DecidableEq, Repr, Inhabited

namespace Rect

def isEmpty (r : Rect) : Bool := r.size.x = 0 || r.size.y = 0

def Contains (r : Rect) (p : Vec2 Nat) : Prop :=
  r.origin.x ≤ p.x ∧ p.x < r.origin.x + r.size.x ∧
    r.origin.y ≤ p.y ∧ p.y < r.origin.y + r.size.y

end Rect

/-- A rectangle that has been handed out, and the number under which it is given back. -/
structure Allocation where
  id : Nat
  rect : Rect
  deriving DecidableEq, Repr, Inhabited

/-- Allocators of rectangles of a given size in a square of a given side. The state after a failed
request may differ from the one before. -/
class RectAllocator (A : Type) where
  create : Nat → Except Fault A
  allocate : A → Vec2 Nat → Option Allocation × A
  release : A → Nat → A

end IrradianceField
