import IrradianceField.Word

/-!
Two-dimensional views of buffers, stored row by row, and their bilinear filter. The centre of a
texel lies half a unit inside of it.
-/

namespace IrradianceField

structure Texels (β : Type) where
  data : Array β
  size : Vec2 Nat
  deriving Repr, Inhabited

namespace Texels

variable {α β : Type}

def index (size pos : Vec2 Nat) : Except Fault Nat := do
  Word.add (← Word.mul pos.y size.x) pos.x

def position (size : Vec2 Nat) (i : Nat) : Except Fault (Vec2 Nat) := do
  return ⟨← Word.rem i size.x, ← Word.div i size.x⟩

def read (t : Texels β) (pos : Vec2 Nat) : Except Fault β := do
  fetch t.data (← index t.size pos)

def write (t : Texels β) (pos : Vec2 Nat) (value : β) : Except Fault (Texels β) := do
  let i ← index t.size pos
  return { t with data := ← store t.data i value }

/-- The texel at a signed position, moved to the nearest edge. -/
def readClamped (t : Texels β) (pos : Vec2 Int) : Except Fault β := do
  let last ← t.size.mapM fun n => SignedWord.sub (Word.toSigned n) 1
  let inside := (pos.zipWith (fun p hi => min (max p 0) hi) last).map SignedWord.toWord
  t.read inside

structure Footprint (β : Type) where
  topLeft : β
  topRight : β
  bottomLeft : β
  bottomRight : β
  deriving Repr

def neighbour (base offset : Vec2 Int) : Except Fault (Vec2 Int) :=
  base.zipWithM SignedWord.add offset

variable [Scalar α]

/-- The texels around `pos`, and how far it lies past the centre of the first one. -/
def gather (t : Texels β) (pos : Vec2 α) : Except Fault (Footprint β × Vec2 α) := do
  let pos := pos.shiftDown 0.5
  let corner := pos.map Scalar.floor
  let frac := pos - corner
  let base := corner.map Scalar.toInt
  let topLeft ← t.readClamped base
  let topRight ← t.readClamped (← neighbour base ⟨1, 0⟩)
  let bottomLeft ← t.readClamped (← neighbour base ⟨0, 1⟩)
  let bottomRight ← t.readClamped (← neighbour base ⟨1, 1⟩)
  return (⟨topLeft, topRight, bottomLeft, bottomRight⟩, frac)

def bilinearWeights (frac : Vec2 α) : Vec4 α :=
  ⟨(1.0 - frac.x) * (1.0 - frac.y), frac.x * (1.0 - frac.y),
    (1.0 - frac.x) * frac.y, frac.x * frac.y⟩

def sampleBilinear (t : Texels (Vec4 α)) (pos : Vec2 α) : Except Fault (Vec4 α) := do
  let (s, frac) ← t.gather pos
  let w := bilinearWeights frac
  return s.topLeft.scale w.x + s.topRight.scale w.y + s.bottomLeft.scale w.z +
    s.bottomRight.scale w.w

end Texels

end IrradianceField
