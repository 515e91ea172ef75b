import IrradianceField.Word

/-!
Octahedral mapping between directions and the square `-1 ..= 1`. The upper half of the sphere covers
the inner diamond of the square, the lower half is folded out into its corners.
-/

namespace IrradianceField.Octahedral

open Scalar

variable {α : Type} [Scalar α]

/-- Reflects a point of the square across the side of the diamond in its quadrant. -/
def fold (p : Vec2 α) : Vec2 α :=
  (p.swap.map fun a => 1.0 - Scalar.abs a) * p.map signNotZero

def encode (dir : Vec3 α) : Vec2 α :=
  let uv := dir.xy.divide (Scalar.abs dir.x + Scalar.abs dir.y + Scalar.abs dir.z)
  if lt dir.z 0.0 then fold uv else uv

def unfold (coords : Vec2 α) : Vec3 α :=
  let height := 1.0 - Scalar.abs coords.x - Scalar.abs coords.y
  if lt height 0.0 then (fold coords).extend height else coords.extend height

def decode (coords : Vec2 α) : Vec3 α := (unfold coords).normalize

def texelCoords (texel : Vec2 Nat) (resolution : Nat) : Vec2 α :=
  ((((Vec2.ofNat texel).shift 0.5).divide (ofNat resolution)).scale 2.0).shiftDown 1.0

def texelDirection (texel : Vec2 Nat) (resolution : Nat) : Vec3 α :=
  decode (texelCoords texel resolution)

def pack (dir : Vec3 α) : Nat :=
  let uv := (((encode dir).scale 0.5).shift 0.5).confine (.splat 0.0) (.splat 1.0)
  let codes := (uv.scale 65535.0).map fun a => toNat (Scalar.round a)
  Word.ofHalves codes.x codes.y

def unpack (word : Nat) : Vec3 α :=
  let (x, y) := Word.halves word
  let uv := (Vec2.ofNat ⟨x, y⟩).divide 65535.0
  decode ((uv.scale 2.0).shiftDown 1.0)

end IrradianceField.Octahedral
