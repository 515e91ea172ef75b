import IrradianceField.Direction.Octahedral
import IrradianceField.Proofs.Storing
import IrradianceField.Proofs.Validating

/-!
Magnitudes of 32-bit values: bounds that hold for all of them, the undefined and the infinite ones
included. Whatever a direction is, its octahedral coordinates are small or undefined.
-/

namespace IrradianceField

namespace Binary32

open Float.Model (Format UnpackedFloat)
open Unpacked

section Operations

theorem add_eq (a b : Float32) : (a + b).toModel.unpack =
    stored (UnpackedFloat.add Format.binary32 a.toModel.unpack b.toModel.unpack) := rfl

theorem sub_eq (a b : Float32) : (a - b).toModel.unpack =
    stored (UnpackedFloat.sub Format.binary32 a.toModel.unpack b.toModel.unpack) := rfl

theorem mul_eq (a b : Float32) : (a * b).toModel.unpack =
    stored (UnpackedFloat.mul Format.binary32 a.toModel.unpack b.toModel.unpack) := rfl

theorem div_eq (a b : Float32) : (a / b).toModel.unpack =
    stored (UnpackedFloat.div Format.binary32 a.toModel.unpack b.toModel.unpack) := rfl

theorem toFloat32_eq (n : UInt32) : n.toFloat32.toModel.unpack =
    stored (UnpackedFloat.ofNat Format.binary32 n.toNat) := rfl

theorem toUInt32_eq (a : Float32) : a.toUInt32 = a.toModel.unpack.toUInt32 := rfl

theorem one_eq : (1.0 : Float32).toModel.unpack =
    .finite .positive 8388608 (-23) (by decide) := rfl

theorem half_eq : (0.5 : Float32).toModel.unpack =
    .finite .positive 8388608 (-24) (by decide) := rfl

theorem limit_eq : (8388608.0 : Float32).toModel.unpack =
    .finite .positive 8388608 0 (by decide) := rfl

theorem isStored (a : Float32) : IsStored a.toModel.unpack := isStored_unpack _

theorem neg_eq (a : Float32) : (-a).toModel.unpack = a.toModel.unpack.neg :=
  stored_eq (isStored a).neg

theorem abs_eq (a : Float32) : a.abs.toModel.unpack = a.toModel.unpack.abs :=
  stored_eq (isStored a).abs

theorem eq_of_unpack {a b : Float32} (same : a.toModel.unpack = b.toModel.unpack) : a = b := by
  obtain ⟨⟨word, valid⟩⟩ := a
  obtain ⟨⟨word', valid'⟩⟩ := b
  have words : word.toBitVec = word'.toBitVec := by
    rw [← pack_unpack valid, ← pack_unpack valid']
    exact congrArg (UnpackedFloat.pack Format.binary32) same
  obtain rfl : word = word' := UInt32.toBitVec_inj.mp words
  rfl

theorem add_zero {a : Float32} (unsigned : a ≠ -0.0) : a + 0.0 = a := by
  have other : a.toModel.unpack ≠ .zero .negative := fun same => unsigned (eq_of_unpack same)
  have zero : (0.0 : Float32).toModel.unpack = .zero .positive := rfl
  have sum : UnpackedFloat.add Format.binary32 a.toModel.unpack (.zero .positive) =
      a.toModel.unpack := by
    generalize a.toModel.unpack = value at other ⊢
    rcases value with _ | _ | ⟨_ | _⟩ | _ <;> first | rfl | exact absurd rfl other
  refine eq_of_unpack ?_
  rw [add_eq, zero, sum, stored_eq (isStored a)]

end Operations

/-- No larger than two to the power of `k`, if it is defined at all. -/
def IsAtMost (k : Int) (a : Float32) : Prop := AtMost k a.toModel.unpack

section Bounds

variable {j k : Int} {a b : Float32}

theorem IsAtMost.mono (small : IsAtMost j a) (le : j ≤ k) : IsAtMost k a := AtMost.mono small le

theorem isAtMost_one : IsAtMost 0 1.0 := by
  rw [IsAtMost, one_eq]
  exact ⟨by decide, by decide⟩

theorem isAtMost_half : IsAtMost 0 0.5 := by
  rw [IsAtMost, half_eq]
  exact ⟨by decide, by decide⟩

theorem IsAtMost.neg (small : IsAtMost k a) : IsAtMost k (-a) := by
  rw [IsAtMost, neg_eq]
  exact AtMost.neg small

theorem IsAtMost.abs (small : IsAtMost k a) : IsAtMost k a.abs := by
  rw [IsAtMost, abs_eq]
  exact AtMost.abs small

theorem IsAtMost.add (low : -127 ≤ k) (high : k ≤ 103) (first : IsAtMost k a)
    (second : IsAtMost k b) : IsAtMost (k + 1) (a + b) := by
  rw [IsAtMost, add_eq]
  exact (AtMost.add (by omega) first second).stored (by omega) (by omega)

theorem IsAtMost.sub (low : -127 ≤ k) (high : k ≤ 103) (first : IsAtMost k a)
    (second : IsAtMost k b) : IsAtMost (k + 1) (a - b) := by
  rw [IsAtMost, sub_eq]
  exact (AtMost.sub (by omega) first second).stored (by omega) (by omega)

theorem IsAtMost.mul (low : -126 ≤ j + k) (high : j + k ≤ 104) (first : IsAtMost j a)
    (second : IsAtMost k b) : IsAtMost (j + k) (a * b) := by
  rw [IsAtMost, mul_eq]
  exact (AtMost.mul (by omega) first second).stored low high

theorem isAtMost_signNotZero (a : Float32) : IsAtMost 0 (Scalar.signNotZero a) := by
  rw [Scalar.signNotZero]
  split
  · exact isAtMost_one
  · exact isAtMost_one.neg

end Bounds

section Whole

variable {k n : Nat} {a : Float32}

theorem isAtMost_toFloat32 {n : UInt32} (le : n.toNat ≤ 2 ^ k) (high : k ≤ 104) :
    IsAtMost k n.toFloat32 := by
  rw [IsAtMost, toFloat32_eq]
  exact (atMost_ofNat le).stored (by omega) (by omega)

theorem ofNat_eq (word : n < 4294967296) : Scalar.ofNat n = n.toUInt32.toFloat32 :=
  if_pos word

theorem isAtMost_ofNat (le : n ≤ 2 ^ k) (high : k ≤ 31) : IsAtMost k (Scalar.ofNat n) := by
  have most : 2 ^ k ≤ 2 ^ 31 := Nat.pow_le_pow_right two_pos high
  have word : n < 4294967296 := by omega
  rw [ofNat_eq word]
  apply isAtMost_toFloat32 _ (by omega)
  rwa [UInt32.toNat_ofNat_of_lt' word]

theorem IsAtMost.toNat_le (small : IsAtMost k a) : a.toUInt32.toNat ≤ 2 ^ k :=
  AtMost.toUInt32 small

theorem IsAtMost.toInt_le (small : IsAtMost k a) : Scalar.toInt a ≤ (2 ^ k : Nat) := by
  have magnitude := small.abs.toNat_le
  change toInt a ≤ _
  rw [toInt]
  split
  · omega
  · omega

theorem le_toInt (a : Float32) : -2147483648 ≤ Scalar.toInt a := by
  change _ ≤ toInt a
  rw [toInt]
  split
  · omega
  · omega

theorem isAtMost_of_not_whole (part : ¬isWhole a = true) : IsAtMost 24 a := by
  have less : a.abs < 8388608.0 := by simpa [isWhole] using part
  have ordered : a.toModel.unpack.abs.compare (8388608.0 : Float32).toModel.unpack = some .lt := by
    rw [← abs_eq]
    have lt := (lt_eq_order a.abs 8388608.0).symm.trans (decide_eq_true less)
    exact eq_of_beq lt
  rw [limit_eq] at ordered
  have kept := isStored a
  rw [IsAtMost]
  cases same : a.toModel.unpack with
  | infinity s =>
      rw [same] at ordered
      cases ordered
  | notANumber => trivial
  | zero s => trivial
  | finite s m e some =>
      rw [same] at ordered kept
      have below : e ≤ 0 := by
        by_contra above
        change Option.some ((compare e 0).then (compare m 8388608)) = _ at ordered
        rw [Int.compare_eq_gt.mpr (not_le.mp above)] at ordered
        cases ordered
      refine ⟨by omega, kept.1.le.trans ?_⟩
      exact Nat.pow_le_pow_right two_pos (by omega)

theorem IsAtMost.wholePart (small : IsAtMost k a) (high : k ≤ 104) : IsAtMost k (wholePart a) :=
  isAtMost_toFloat32 small.abs.toNat_le high

theorem IsAtMost.wholePartUp (small : IsAtMost k a) (high : k ≤ 103) :
    IsAtMost (k + 1) (wholePartUp a) := by
  have part := small.wholePart (by omega)
  rw [Binary32.wholePartUp]
  split
  · exact part.add (by omega) (by omega) (isAtMost_one.mono (by omega))
  · exact part.mono (by omega)

/-- Rounding down does not leave a bound that is a whole number, since no value that is not whole
is as large as some of them. -/
theorem IsAtMost.floor (small : IsAtMost k a) (large : 25 ≤ k) : IsAtMost k (Scalar.floor a) := by
  change IsAtMost k (Binary32.floor a)
  rw [Binary32.floor]
  split
  · exact small
  · rename_i part
    have short : IsAtMost (24 : Nat) a := isAtMost_of_not_whole part
    split
    · exact (short.wholePartUp (by omega)).neg.mono (by omega)
    · exact (short.wholePart (by omega)).mono (by omega)

end Whole

section Directions

variable {a b c : Float32}

theorem isMagnitude_abs (a : Float32) : IsMagnitude a.abs.toModel.unpack := by
  refine ⟨isStored a.abs, ?_⟩
  rw [abs_eq]
  cases a.toModel.unpack with
  | finite s m e some => rfl
  | _ => trivial

theorem dominates_abs (a : Float32) : Dominates a.abs.toModel.unpack a.toModel.unpack := by
  rw [abs_eq]
  cases a.toModel.unpack with
  | zero s => exact ⟨s, rfl⟩
  | finite s m e some => exact le_refl (Float.Model.totalExponent m e)
  | _ => trivial

theorem isAtMost_div_sum (a b c x : Float32) (one : x = a ∨ x = b) :
    IsAtMost 1 (x / (a.abs + b.abs + c.abs)) := by
  have inner : Dominates (a.abs + b.abs).toModel.unpack x.toModel.unpack ∧
      IsMagnitude (a.abs + b.abs).toModel.unpack := by
    apply dominates_add (isMagnitude_abs a) (isMagnitude_abs b)
    rcases one with rfl | rfl
    · exact .inl (dominates_abs x)
    · exact .inr (dominates_abs x)
  have outer := dominates_add inner.2 (isMagnitude_abs c) (.inl inner.1)
  rw [IsAtMost, div_eq]
  exact (Dominates.div outer.1).stored (by decide) (by decide)

theorem isAtMost_encode (dir : Vec3 Float32) :
    IsAtMost 2 (Octahedral.encode dir).x ∧ IsAtMost 2 (Octahedral.encode dir).y := by
  have x : IsAtMost 1 (dir.x / (dir.x.abs + dir.y.abs + dir.z.abs)) :=
    isAtMost_div_sum _ _ _ _ (.inl rfl)
  have y : IsAtMost 1 (dir.y / (dir.x.abs + dir.y.abs + dir.z.abs)) :=
    isAtMost_div_sum _ _ _ _ (.inr rfl)
  have folded : ∀ {p q : Float32}, IsAtMost 1 p →
      IsAtMost 2 ((1.0 - p.abs) * Scalar.signNotZero q) := fun {p q} small =>
    ((isAtMost_one.mono (by decide)).sub (by decide) (by decide) small.abs).mul (by decide)
      (by decide) (isAtMost_signNotZero q)
  rw [Octahedral.encode]
  split
  · exact ⟨folded y, folded x⟩
  · exact ⟨x.mono (by decide), y.mono (by decide)⟩

end Directions

section Cutting

variable {a b : Float32}

theorem toNat_ofNat {n : Nat} (short : n < 2 ^ 24) :
    Scalar.toNat (Scalar.ofNat n : Float32) = n := by
  have word : n < 4294967296 := by omega
  rw [ofNat_eq word]
  change (n.toUInt32.toFloat32.toUInt32).toNat = n
  rw [toUInt32_eq, toFloat32_eq, UInt32.toNat_ofNat_of_lt' word]
  exact stored_ofNat short

theorem toNat_mono (le : Scalar.le a b = true) : Scalar.toNat a ≤ Scalar.toNat b := by
  rw [le_eq_order] at le
  exact toUInt32_mono (isStored a) (isStored b) le

theorem unpack_of_isUndefined (undefined : Scalar.isUndefined a = true) :
    a.toModel.unpack = .notANumber := by
  have unordered : a.toModel.unpack.compare a.toModel.unpack = none := isUndefined_iff.mp undefined
  generalize a.toModel.unpack = u at unordered ⊢
  rcases u with (_ | _) | _ | (_ | _) | ⟨_ | _, m, e, some⟩
  case notANumber => rfl
  all_goals cases unordered

theorem isUndefined_ofNat {n : Nat} (short : n < 2 ^ 24) :
    Scalar.isUndefined (Scalar.ofNat n : Float32) = false := by
  rcases n.eq_zero_or_pos with rfl | some
  · decide +kernel
  · apply Bool.eq_false_iff.mpr
    intro undefined
    have zero : Scalar.toNat (Scalar.ofNat n : Float32) = 0 := by
      change (Scalar.ofNat n : Float32).toUInt32.toNat = 0
      rw [toUInt32_eq, unpack_of_isUndefined undefined]
      rfl
    rw [toNat_ofNat short] at zero
    omega

theorem isUndefined_maxNum_zero (a : Float32) :
    Scalar.isUndefined (Scalar.maxNum a 0.0) = false := by
  have zero : Scalar.isUndefined (0.0 : Float32) = false := by decide +kernel
  rw [Scalar.maxNum]
  split
  · exact zero
  · split
    · exact zero
    · exact Bool.eq_false_iff.mpr ‹_›

/-- Whatever is confined to whole numbers, undefined or not, is cut to one of them. -/
theorem toNat_confined_le {n : Nat} (short : n < 2 ^ 24) (a : Float32) :
    Scalar.toNat (Scalar.minNum (Scalar.maxNum a 0.0) (Scalar.ofNat n)) ≤ n := by
  have defined := isUndefined_maxNum_zero a
  rw [Scalar.minNum, defined, if_neg Bool.false_ne_true]
  split
  · exact (toNat_ofNat short).le
  · rename_i within
    have least : Scalar.le (Scalar.maxNum a 0.0) (Scalar.ofNat n) = true := by
      rcases lt_eq_false.mp (Bool.eq_false_iff.mpr within) with le | undefined | undefined
      · exact le
      · rw [isUndefined_ofNat short] at undefined
        cases undefined
      · rw [defined] at undefined
        cases undefined
    exact (toNat_mono least).trans (toNat_ofNat short).le

end Cutting

end Binary32

end IrradianceField
