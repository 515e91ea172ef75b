import IrradianceField.Scalar.Basic

/-!
Small vectors, quaternions and matrices. Sums are evaluated from left to right, so that the order
of roundings is part of each definition.
-/

namespace IrradianceField

structure Vec2 (α : Type) where
  x : α
  y : α
  deriving DecidableEq, Repr, Inhabited

structure Vec3 (α : Type) where
  x : α
  y : α
  z : α
  deriving DecidableEq, Repr, Inhabited

structure Vec4 (α : Type) where
  x : α
  y : α
  z : α
  w : α
  deriving DecidableEq, Repr, Inhabited

namespace Vec2

variable {α β γ : Type}

def splat (a : α) : Vec2 α := ⟨a, a⟩

def map (f : α → β) (v : Vec2 α) : Vec2 β := ⟨f v.x, f v.y⟩

def zipWith (f : α → β → γ) (a : Vec2 α) (b : Vec2 β) : Vec2 γ := ⟨f a.x b.x, f a.y b.y⟩

def mapM {m : Type → Type} [Monad m] (f : α → m β) (v : Vec2 α) : m (Vec2 β) := do
  return ⟨← f v.x, ← f v.y⟩

def zipWithM {m : Type → Type} [Monad m] (f : α → β → m γ) (a : Vec2 α) (b : Vec2 β) :
    m (Vec2 γ) := do
  return ⟨← f a.x b.x, ← f a.y b.y⟩

def swap (v : Vec2 α) : Vec2 α := ⟨v.y, v.x⟩

def extend (v : Vec2 α) (z : α) : Vec3 α := ⟨v.x, v.y, z⟩

instance [Add α] : Add (Vec2 α) := ⟨zipWith (· + ·)⟩
instance [Sub α] : Sub (Vec2 α) := ⟨zipWith (· - ·)⟩
instance [Mul α] : Mul (Vec2 α) := ⟨zipWith (· * ·)⟩
instance [Div α] : Div (Vec2 α) := ⟨zipWith (· / ·)⟩
instance [Neg α] : Neg (Vec2 α) := ⟨map (- ·)⟩

def scale [Mul α] (v : Vec2 α) (s : α) : Vec2 α := v.map (· * s)
def divide [Div α] (v : Vec2 α) (s : α) : Vec2 α := v.map (· / s)
def shift [Add α] (v : Vec2 α) (s : α) : Vec2 α := v.map (· + s)
def shiftDown [Sub α] (v : Vec2 α) (s : α) : Vec2 α := v.map (· - s)

variable [Scalar α]

def ofNat (v : Vec2 Nat) : Vec2 α := v.map Scalar.ofNat

def dot (a b : Vec2 α) : α := a.x * b.x + a.y * b.y

def length (v : Vec2 α) : α := Scalar.sqrt (v.dot v)

/-- Moves each component into the range between those of `lo` and `hi`; something undefined
becomes the lower end. -/
def confine (v lo hi : Vec2 α) : Vec2 α := (v.zipWith Scalar.maxNum lo).zipWith Scalar.minNum hi

end Vec2

namespace Vec3

variable {α β γ : Type}

def splat (a : α) : Vec3 α := ⟨a, a, a⟩

def map (f : α → β) (v : Vec3 α) : Vec3 β := ⟨f v.x, f v.y, f v.z⟩

def zipWith (f : α → β → γ) (a : Vec3 α) (b : Vec3 β) : Vec3 γ :=
  ⟨f a.x b.x, f a.y b.y, f a.z b.z⟩

def mapM {m : Type → Type} [Monad m] (f : α → m β) (v : Vec3 α) : m (Vec3 β) := do
  return ⟨← f v.x, ← f v.y, ← f v.z⟩

def zipWithM {m : Type → Type} [Monad m] (f : α → β → m γ) (a : Vec3 α) (b : Vec3 β) :
    m (Vec3 γ) := do
  return ⟨← f a.x b.x, ← f a.y b.y, ← f a.z b.z⟩

def any (p : α → Bool) (v : Vec3 α) : Bool := p v.x || p v.y || p v.z

def xy (v : Vec3 α) : Vec2 α := ⟨v.x, v.y⟩

def extend (v : Vec3 α) (w : α) : Vec4 α := ⟨v.x, v.y, v.z, w⟩

/-- The component along axis 0, 1 or 2; larger numbers mean the last one. -/
def axis (v : Vec3 α) : Nat → α
  | 0 => v.x
  | 1 => v.y
  | _ => v.z

instance [Add α] : Add (Vec3 α) := ⟨zipWith (· + ·)⟩
instance [Sub α] : Sub (Vec3 α) := ⟨zipWith (· - ·)⟩
instance [Mul α] : Mul (Vec3 α) := ⟨zipWith (· * ·)⟩
instance [Div α] : Div (Vec3 α) := ⟨zipWith (· / ·)⟩
instance [Neg α] : Neg (Vec3 α) := ⟨map (- ·)⟩

def scale [Mul α] (v : Vec3 α) (s : α) : Vec3 α := v.map (· * s)
def divide [Div α] (v : Vec3 α) (s : α) : Vec3 α := v.map (· / s)
def shift [Add α] (v : Vec3 α) (s : α) : Vec3 α := v.map (· + s)
def shiftDown [Sub α] (v : Vec3 α) (s : α) : Vec3 α := v.map (· - s)

variable [Scalar α]

def zero : Vec3 α := splat 0.0

def ofNat (v : Vec3 Nat) : Vec3 α := v.map Scalar.ofNat

def ofInt (v : Vec3 Int) : Vec3 α := v.map Scalar.ofInt

def dot (a b : Vec3 α) : α := a.x * b.x + a.y * b.y + a.z * b.z

def cross (a b : Vec3 α) : Vec3 α :=
  ⟨a.y * b.z - b.y * a.z, a.z * b.x - b.z * a.x, a.x * b.y - b.x * a.y⟩

def length (v : Vec3 α) : α := Scalar.sqrt (v.dot v)

def distance (a b : Vec3 α) : α := (a - b).length

def distanceSquared (a b : Vec3 α) : α := (a - b).dot (a - b)

def normalize (v : Vec3 α) : Vec3 α := v.scale (1.0 / v.length)

/-- The unit vector along `v`, or zero where the reciprocal of its length is no positive number. -/
def normalizeOrZero (v : Vec3 α) : Vec3 α :=
  let r := 1.0 / v.length
  if Scalar.isFinite r && Scalar.lt 0.0 r then v.scale r else zero

def limitLength (v : Vec3 α) (limit : α) : Vec3 α :=
  let squared := v.dot v
  if Scalar.lt (limit * limit) squared then (v.divide (Scalar.sqrt squared)).map (limit * ·) else v

def abs (v : Vec3 α) : Vec3 α := v.map Scalar.abs

def floor (v : Vec3 α) : Vec3 α := v.map Scalar.floor

def round (v : Vec3 α) : Vec3 α := v.map Scalar.round

def toNat (v : Vec3 α) : Vec3 Nat := v.map Scalar.toNat

def toInt (v : Vec3 α) : Vec3 Int := v.map Scalar.toInt

def maxElement (v : Vec3 α) : α := Scalar.maxNum v.x (Scalar.maxNum v.y v.z)

def minElement (v : Vec3 α) : α := Scalar.minNum v.x (Scalar.minNum v.y v.z)

/-- Moves each component into the range between those of `lo` and `hi`; something undefined
becomes the lower end. -/
def confine (v lo hi : Vec3 α) : Vec3 α := (v.zipWith Scalar.maxNum lo).zipWith Scalar.minNum hi

/-- Power of each component, negative ones counting as zero. -/
def powPositive (v : Vec3 α) (exponent : α) : Vec3 α :=
  v.map fun a => Scalar.pow (Scalar.maxNum a 0.0) exponent

def lerp (a b : Vec3 α) (t : α) : Vec3 α := a + (b - a).scale (Scalar.saturate t)

end Vec3

namespace Vec4

variable {α β γ : Type}

def map (f : α → β) (v : Vec4 α) : Vec4 β := ⟨f v.x, f v.y, f v.z, f v.w⟩

def zipWith (f : α → β → γ) (a : Vec4 α) (b : Vec4 β) : Vec4 γ :=
  ⟨f a.x b.x, f a.y b.y, f a.z b.z, f a.w b.w⟩

def xy (v : Vec4 α) : Vec2 α := ⟨v.x, v.y⟩

def zw (v : Vec4 α) : Vec2 α := ⟨v.z, v.w⟩

def xyz (v : Vec4 α) : Vec3 α := ⟨v.x, v.y, v.z⟩

instance [Add α] : Add (Vec4 α) := ⟨zipWith (· + ·)⟩
instance [Sub α] : Sub (Vec4 α) := ⟨zipWith (· - ·)⟩
instance [Mul α] : Mul (Vec4 α) := ⟨zipWith (· * ·)⟩

def scale [Mul α] (v : Vec4 α) (s : α) : Vec4 α := v.map (· * s)
def divide [Div α] (v : Vec4 α) (s : α) : Vec4 α := v.map (· / s)

variable [Scalar α]

def zero : Vec4 α := ⟨0.0, 0.0, 0.0, 0.0⟩

/-- Even and odd lanes are summed first. -/
def dot (a b : Vec4 α) : α := (a.x * b.x + a.z * b.z) + (a.y * b.y + a.w * b.w)

def sum (v : Vec4 α) : α := v.dot ⟨1.0, 1.0, 1.0, 1.0⟩

end Vec4

structure Quat (α : Type) where
  x : α
  y : α
  z : α
  w : α
  deriving DecidableEq, Repr, Inhabited

namespace Quat

variable {α : Type} [Scalar α]

def identity : Quat α := ⟨0.0, 0.0, 0.0, 1.0⟩

def rotate (q : Quat α) (v : Vec3 α) : Vec3 α :=
  let b : Vec3 α := ⟨q.x, q.y, q.z⟩
  (v.scale (q.w * q.w - b.dot b) + b.scale (v.dot b * 2.0)) + (b.cross v).scale (q.w * 2.0)

end Quat

structure Affine (α : Type) where
  xAxis : Vec3 α
  yAxis : Vec3 α
  zAxis : Vec3 α
  offset : Vec3 α
  deriving DecidableEq, Repr, Inhabited

namespace Affine

variable {α : Type} [Scalar α]

def identity : Affine α :=
  ⟨⟨1.0, 0.0, 0.0⟩, ⟨0.0, 1.0, 0.0⟩, ⟨0.0, 0.0, 1.0⟩, ⟨0.0, 0.0, 0.0⟩⟩

def vector (t : Affine α) (v : Vec3 α) : Vec3 α :=
  t.xAxis.scale v.x + t.yAxis.scale v.y + t.zAxis.scale v.z

def point (t : Affine α) (p : Vec3 α) : Vec3 α := t.vector p + t.offset

/-- Applies `b` first. -/
def comp (a b : Affine α) : Affine α :=
  ⟨a.vector b.xAxis, a.vector b.yAxis, a.vector b.zAxis,
    a.vector b.offset + a.offset⟩

/-- Inverse by the adjugate; undefined components where the map is singular. -/
def inverse (t : Affine α) : Affine α :=
  let c0 := t.yAxis.cross t.zAxis
  let c1 := t.zAxis.cross t.xAxis
  let c2 := t.xAxis.cross t.yAxis
  let r := 1.0 / t.zAxis.dot c2
  let c0 := c0.scale r
  let c1 := c1.scale r
  let c2 := c2.scale r
  let linear : Affine α :=
    ⟨⟨c0.x, c1.x, c2.x⟩, ⟨c0.y, c1.y, c2.y⟩, ⟨c0.z, c1.z, c2.z⟩, .zero⟩
  { linear with offset := -linear.vector t.offset }

def same (a b : Affine α) : Bool :=
  let sameVec (u v : Vec3 α) : Bool :=
    Scalar.same u.x v.x && Scalar.same u.y v.y && Scalar.same u.z v.z
  sameVec a.xAxis b.xAxis && sameVec a.yAxis b.yAxis && sameVec a.zAxis b.zAxis &&
    sameVec a.offset b.offset

end Affine

structure Mat4 (α : Type) where
  xAxis : Vec4 α
  yAxis : Vec4 α
  zAxis : Vec4 α
  wAxis : Vec4 α
  deriving DecidableEq, Repr, Inhabited

namespace Mat4

variable {α : Type} [Scalar α]

def zero : Mat4 α := ⟨.zero, .zero, .zero, .zero⟩

def identity : Mat4 α :=
  ⟨⟨1.0, 0.0, 0.0, 0.0⟩, ⟨0.0, 1.0, 0.0, 0.0⟩, ⟨0.0, 0.0, 1.0, 0.0⟩, ⟨0.0, 0.0, 0.0, 1.0⟩⟩

def apply (m : Mat4 α) (v : Vec4 α) : Vec4 α :=
  m.xAxis.scale v.x + m.yAxis.scale v.y + m.zAxis.scale v.z + m.wAxis.scale v.w

end Mat4

end IrradianceField
