import IrradianceField.Datum.Basic
import IrradianceField.Scalar.Binary32
import IrradianceField.Vector

/-!
Reading of plain values and vectors. A vector is the list of its components, a map the list of those
of its columns.
-/

namespace IrradianceField

class Readable (β : Type) where
  read : Datum → Answer β

namespace Datum

variable {β : Type} [Readable β]

def as (d : Datum) : Answer β := Readable.read d

def get (d : Datum) (key : String) : Answer β :=
  match d.field? key with
  | some value => value.as
  | none => .malformed

def getD (d : Datum) (key : String) (default : β) : Answer β :=
  match d.field? key with
  | some value => value.as
  | none => .ok default

def nth (d : Datum) (i : Nat) : Answer β :=
  match d with
  | list items => match items[i]? with
    | some value => value.as
    | none => .malformed
  | _ => .malformed

end Datum

namespace Readable

variable {α β : Type}

instance : Readable Datum := ⟨.ok⟩

instance : Readable String := ⟨fun
  | .text s => .ok s
  | _ => .malformed⟩

instance : Readable Int := ⟨fun
  | .number mantissa 0 => .ok mantissa
  | .text "-0" => .ok 0
  | _ => .malformed⟩

instance : Readable Nat := ⟨fun d => do
  let i : Int ← d.as
  if 0 ≤ i then return i.toNat else .malformed⟩

/-- A flag may be written as a number. -/
instance : Readable Bool := ⟨fun
  | .flag b => .ok b
  | d => do
    let n : Nat ← d.as
    return n ≠ 0⟩

def hexDigit (c : Char) : Nat := if c.isDigit then c.toNat - 48 else c.toLower.toNat - 87

/-- Numbers are rounded to 64 bits first; values without a decimal form have names, and `0x` starts
the word that a value is stored as. -/
instance : Readable Float32 := ⟨fun
  | .number mantissa places =>
    let magnitude := (Float.ofScientific mantissa.natAbs true places).toFloat32
    .ok (if mantissa < 0 then -magnitude else magnitude)
  | .text "nan" => .ok (0.0 / 0.0)
  | .text "inf" => .ok (1.0 / 0.0)
  | .text "-inf" => .ok (-1.0 / 0.0)
  | .text "-0" => .ok (-0.0)
  | .text s => match s.toList with
    | '0' :: 'x' :: digits =>
      .ok (Scalar.ofBits (digits.foldl (fun word c => word * 16 + hexDigit c) 0))
    | _ => .malformed
  | _ => .malformed⟩

instance [Readable β] : Readable (List β) := ⟨fun d => do (← d.items).mapM Datum.as⟩

instance [Readable β] : Readable (Array β) := ⟨fun d => do
  let items : List β ← d.as
  return items.toArray⟩

instance [Readable α] [Readable β] : Readable (α × β) := ⟨fun d => do
  return (← d.nth 0, ← d.nth 1)⟩

def triple [Readable β] (d : Datum) (i : Nat) : Answer (Vec3 β) := do
  return ⟨← d.nth i, ← d.nth (i + 1), ← d.nth (i + 2)⟩

def quadruple [Readable β] (d : Datum) (i : Nat) : Answer (Vec4 β) := do
  return (← triple d i).extend (← d.nth (i + 3))

instance [Readable β] : Readable (Vec2 β) := ⟨fun d => do return ⟨← d.nth 0, ← d.nth 1⟩⟩

instance [Readable β] : Readable (Vec3 β) := ⟨fun d => triple d 0⟩

instance [Readable β] : Readable (Vec4 β) := ⟨fun d => quadruple d 0⟩

instance [Readable β] : Readable (Quat β) := ⟨fun d => do
  let ⟨x, y, z, w⟩ ← quadruple d 0
  return ⟨x, y, z, w⟩⟩

instance [Readable β] : Readable (Affine β) := ⟨fun d => do
  return ⟨← triple d 0, ← triple d 3, ← triple d 6, ← triple d 9⟩⟩

instance [Readable β] : Readable (Mat4 β) := ⟨fun d => do
  return ⟨← quadruple d 0, ← quadruple d 4, ← quadruple d 8, ← quadruple d 12⟩⟩

def vectorOf (n : Nat) (items : List β) (default : β) : Vector β n :=
  .ofFn fun i => items.getD i default

end Readable

end IrradianceField
