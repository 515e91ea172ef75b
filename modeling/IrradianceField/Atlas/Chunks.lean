import IrradianceField.Word

/-!
Chunks: the cube of cells around the view into which the objects of the surface atlas are sorted.
-/

namespace IrradianceField

structure AtlasConstants (α : Type) where
  viewPos : Vec3 α
  chunkSize : α
  resolution : Nat
  chunkResolution : Nat
  objectsCount : Nat
  culledCapacity : Nat
  isDebug : Bool
  sampleAllTiles : Bool
  deriving Repr, Inhabited

namespace AtlasConstants

variable {α : Type} [Scalar α]

def chunksCount (a : AtlasConstants α) : Except Fault Nat := do
  Word.mul (← Word.mul a.chunkResolution a.chunkResolution) a.chunkResolution

/-- The chunk that contains a point; points outside of the cube move to its edge. -/
def chunkCoords (a : AtlasConstants α) (pos : Vec3 α) : Except Fault (Vec3 Nat) := do
  let coords := ((pos - a.viewPos).divide a.chunkSize).shift
    (Scalar.ofNat a.chunkResolution * 0.5)
  let last := Scalar.ofNat (← Word.sub a.chunkResolution 1)
  return (coords.floor.confine .zero (.splat last)).toNat

def chunkAddress (a : AtlasConstants α) (coords : Vec3 Nat) : Except Fault Nat := do
  let res := a.chunkResolution
  let layers ← Word.mul (← Word.mul coords.z res) res
  Word.add (← Word.add layers (← Word.mul coords.y res)) coords.x

def chunksBounds (a : AtlasConstants α) (min : Vec3 Nat) (size : Nat) : Vec3 α × Vec3 α :=
  let offset := a.viewPos - .splat (Scalar.ofNat a.chunkResolution * 0.5 * a.chunkSize)
  let min := offset + (Vec3.ofNat min).scale a.chunkSize
  (min, min + .splat (Scalar.ofNat size * a.chunkSize))

end AtlasConstants

def sphereTouchesBox {α : Type} [Scalar α] (center : Vec3 α) (radius : α) (min max : Vec3 α) :
    Bool :=
  Scalar.le ((center.confine min max).distanceSquared center) (radius * radius)

end IrradianceField
