import IrradianceField.Datum.Basic
import IrradianceField.Decimal.Scientific
import IrradianceField.Scalar.Basic
import IrradianceField.Vector

/-!
Writing of plain values, vectors and tuples. Scalars are written as texts, with six significant
digits.
-/

namespace IrradianceField

class Writable (β : Type) where
  write : β → Datum

namespace Datum

def of {β : Type} [Writable β] (b : β) : Datum := Writable.write b

end Datum

namespace Writable

open Datum (of)

variable {α β : Type}

/-- What a value adds to a list: a tuple adds its parts one by one. -/
class Parts (β : Type) where
  parts : β → List Datum

instance (priority := low) [Writable β] : Parts β := ⟨fun b => [of b]⟩
instance [Writable α] [Parts β] : Parts (α × β) := ⟨fun (a, b) => of a :: Parts.parts b⟩
instance [Writable α] [Parts β] : Writable (α × β) := ⟨fun p => .list (Parts.parts p)⟩

instance : Writable Datum := ⟨id⟩
instance : Writable String := ⟨.text⟩
instance : Writable Bool := ⟨.flag⟩
instance : Writable Int := ⟨(.number · 0)⟩
instance : Writable Nat := ⟨fun n => of (n : Int)⟩
instance (priority := low) [Scalar α] : Writable α := ⟨fun a =>
  .text (Decimal.scientific (Scalar.toBits a))⟩

instance [Writable β] : Writable (List β) := ⟨fun l => .list (l.map of)⟩
instance [Writable β] : Writable (Array β) := ⟨fun a => of a.toList⟩
instance [Writable β] {n : Nat} : Writable (Vector β n) := ⟨fun v => of v.toList⟩
instance [Writable β] : Writable (Option β) := ⟨fun b => (b.map of).getD .null⟩

instance [Writable β] : Writable (Vec2 β) := ⟨fun v => of (v.x, v.y)⟩
instance [Writable β] : Writable (Vec3 β) := ⟨fun v => of (v.x, v.y, v.z)⟩
instance [Writable β] : Writable (Vec4 β) := ⟨fun v => of (v.x, v.y, v.z, v.w)⟩
instance [Writable β] : Writable (Quat β) := ⟨fun q => of (q.x, q.y, q.z, q.w)⟩

end Writable

end IrradianceField
