import IrradianceField.Proofs.Rounding

/-!
Storing: what becomes of a result in a word of 32 bits. The first digit of a sum of magnitudes is not
below that of any of them, and cutting to whole numbers respects the order of what is stored.
-/

namespace IrradianceField.Unpacked

open Float.Model (Format UnpackedFloat totalExponent)
open Float.Model.UnpackedFloat

section Words

/-- The mantissas and exponents of values that are stored: all mantissas have 24 bits, but for those
with the least exponent. -/
def IsStored : UnpackedFloat → Prop
  | .finite _ m e _ => m < 2 ^ 24 ∧ -149 ≤ e ∧ e ≤ 104 ∧ (2 ^ 23 ≤ m ∨ e = -149)
  | _ => True

theorem IsStored.neg {a : UnpackedFloat} (kept : IsStored a) : IsStored a.neg := by
  cases a with
  | finite s m e some => exact kept
  | _ => trivial

theorem IsStored.abs {a : UnpackedFloat} (kept : IsStored a) : IsStored a.abs := by
  cases a with
  | finite s m e some => exact kept
  | _ => trivial

/-- What becomes of a value when it is stored. -/
def stored (a : UnpackedFloat) : UnpackedFloat :=
  unpack Format.binary32 (pack Format.binary32 a)

theorem unpackSign_packComponents {spec : Format} (s : Sign) (exponent : BitVec spec.exponentBits)
    (mantissa : BitVec spec.mantissaBitsWithoutImplicit) :
    unpackSign (packComponents spec s exponent mantissa) = s.toBitVec := by
  ext i inside
  obtain rfl : i = 0 := Nat.lt_one_iff.mp inside
  simp [unpackSign, packComponents, BitVec.getLsbD_append, BitVec.getElem_append]

theorem ofBitVec_toBitVec (s : Sign) : Sign.ofBitVec s.toBitVec = s := by
  cases s <;> rfl

theorem append_implicit (mantissa : BitVec 23) :
    (1#1 ++ mantissa).toNat = 2 ^ 23 + mantissa.toNat := by
  rw [BitVec.toNat_append, ← Nat.shiftLeft_add_eq_or_of_lt mantissa.isLt]
  rfl

theorem unpack_normal (s : Sign) {exponent : BitVec 8} (mantissa : BitVec 23)
    (low : exponent.toNat ≠ 0) (high : exponent.toNat ≠ 255) :
    unpack Format.binary32 (packComponents Format.binary32 s exponent mantissa) =
      .finite s (2 ^ 23 + mantissa.toNat) (exponent.toNat - 150)
        (Nat.add_pos_left (Nat.two_pow_pos 23) _) := by
  have least : exponent ≠ 0#8 := fun same => low (congrArg BitVec.toNat same)
  have largest : exponent ≠ -1#8 := fun same => high (congrArg BitVec.toNat same)
  simp only [unpack, unpackMantissa_packComponents, unpackExponent_packComponents,
    unpackSign_packComponents, ofBitVec_toBitVec, append_implicit]
  rw [if_neg largest, if_neg least]
  rfl

theorem unpack_subnormal (s : Sign) (mantissa : BitVec 23) :
    unpack Format.binary32 (packComponents Format.binary32 s 0#8 mantissa) =
      if h : mantissa.toNat = 0 then .zero s
      else .finite s mantissa.toNat (-149) (Nat.pos_of_ne_zero h) := by
  simp only [unpack, unpackMantissa_packComponents, unpackExponent_packComponents,
    unpackSign_packComponents, ofBitVec_toBitVec]
  rw [if_neg (by decide), if_pos trivial]
  by_cases none : mantissa.toNat = 0
  · have zero : mantissa = 0#23 := BitVec.eq_of_toNat_eq none
    rw [dif_pos none, dif_pos zero]
  · have some : mantissa ≠ 0#23 := fun zero => none (congrArg BitVec.toNat zero)
    rw [dif_neg none, dif_neg some]
    rfl

theorem stored_infinity (s : Sign) : stored (.infinity s) = .infinity s := by
  cases s <;> rfl

theorem stored_zero (s : Sign) : stored (.zero s) = .zero s := by
  cases s <;> rfl

theorem exponent_fits {e : Int} (largest : e ≤ 104) : ¬2 ^ Format.binary32.exponentBits ≤
    (e + Format.binary32.exponentBias + Format.binary32.mantissaBitsWithoutImplicit).toNat + 1 := by
  change ¬256 ≤ (e + 127 + 23).toNat + 1
  omega

theorem stored_of_large (s : Sign) {m : Nat} {e : Int} (some : 0 < m) (large : 105 ≤ e) :
    stored (.finite s m e some) = .infinity s := by
  have biased : 2 ^ Format.binary32.exponentBits ≤ (e + Format.binary32.exponentBias +
      Format.binary32.mantissaBitsWithoutImplicit).toNat + 1 := by
    change 256 ≤ (e + 127 + 23).toNat + 1
    omega
  rw [stored, pack]
  dsimp only
  rw [if_pos biased]
  exact stored_infinity s

theorem stored_normal (s : Sign) {m : Nat} {e : Int} (some : 0 < m) (low : 2 ^ 23 ≤ m)
    (high : m < 2 ^ 24) (least : -149 ≤ e) (largest : e ≤ 104) :
    stored (.finite s m e some) = .finite s m e some := by
  have bits : m.log2 + 1 = Format.binary32.mantissaBits := by
    have log : m.log2 = 23 := (Nat.log2_eq_iff some.ne').mpr ⟨low, high⟩
    rw [log]
    rfl
  have exponent : (BitVec.ofNat 8 (e + 127 + 23).toNat).toNat = (e + 150).toNat := by
    rw [BitVec.toNat_ofNat, Nat.mod_eq_of_lt (by omega)]
    omega
  have mantissa : 2 ^ 23 + (BitVec.ofNat 23 m).toNat = m := by
    rw [BitVec.toNat_ofNat]
    omega
  rw [stored, pack]
  dsimp only
  rw [if_neg (exponent_fits largest), if_pos bits]
  have word := @unpack_normal s (BitVec.ofNat 8 (e + 127 + 23).toNat) (BitVec.ofNat 23 m)
    (by omega) (by omega)
  refine word.trans ?_
  simp only [mantissa, exponent, finite.injEq, true_and]
  omega

/-- Mantissas of fewer bits are stored with the least exponent, whatever they had, and so are those
with smaller exponents. -/
theorem stored_short (s : Sign) {m : Nat} {e : Int} (some : 0 < m)
    (short : m.log2 + 1 ≠ Format.binary32.mantissaBits ∨ e ≤ -150) (largest : e ≤ 104) :
    stored (.finite s m e some) =
      unpack Format.binary32 (packComponents Format.binary32 s 0#8 (BitVec.ofNat 23 m)) := by
  rw [stored, pack]
  dsimp only
  rw [if_neg (exponent_fits largest)]
  split
  · rename_i bits
    have exponent : (e + Format.binary32.exponentBias +
        Format.binary32.mantissaBitsWithoutImplicit).toNat = 0 := by
      have low := short.resolve_left (not_not.mpr bits)
      change (e + 127 + 23).toNat = 0
      omega
    rw [exponent]
  · rfl

theorem stored_eq {a : UnpackedFloat} (kept : IsStored a) : stored a = a := by
  rcases a with s | _ | s | ⟨s, m, e, some⟩
  · exact stored_infinity s
  · rfl
  · exact stored_zero s
  · rcases kept with ⟨high, least, largest, shape⟩
    by_cases low : 2 ^ 23 ≤ m
    · exact stored_normal s some low high least largest
    · obtain rfl := shape.resolve_left low
      have short : m.log2 + 1 ≠ 24 := by
        have bits := (Nat.log2_lt some.ne').mpr (not_le.mp low)
        omega
      have mantissa : (BitVec.ofNat 23 m).toNat = m := by
        rw [BitVec.toNat_ofNat, Nat.mod_eq_of_lt (not_le.mp low)]
      rw [stored_short s some (.inl short) largest, unpack_subnormal]
      simp only [mantissa, some.ne', dite_false]

theorem isStored_unpack (word : BitVec 32) : IsStored (unpack Format.binary32 word) := by
  have short : (@unpackMantissa Format.binary32 word).toNat < 2 ^ 23 := BitVec.isLt _
  have few : (@unpackExponent Format.binary32 word).toNat < 2 ^ 8 := BitVec.isLt _
  rw [unpack]
  dsimp only
  split
  · split <;> trivial
  · rename_i largest
    split
    · split
      · trivial
      · rename_i zero some
        refine ⟨short.trans (by decide), ?_, ?_, .inr ?_⟩
        all_goals
          rw [zero]
          decide
    · rename_i least
      have high : (@unpackExponent Format.binary32 word).toNat ≠ 255 :=
        fun same => largest (BitVec.eq_of_toNat_eq same)
      have low : (@unpackExponent Format.binary32 word).toNat ≠ 0 :=
        fun same => least (BitVec.eq_of_toNat_eq same)
      have bias : ((Format.binary32.exponentBias : Int) + (23 : Nat)) = 150 := rfl
      refine ⟨?_, ?_, ?_, .inl ?_⟩
      · rw [append_implicit]
        omega
      · rw [bias]
        omega
      · rw [bias]
        omega
      · rw [append_implicit]
        omega

theorem toBitVec_ofBitVec (sign : BitVec 1) : (Sign.ofBitVec sign).toBitVec = sign := by
  revert sign
  decide

theorem packComponents_unpack (word : BitVec 32) :
    packComponents Format.binary32 (Sign.ofBitVec (@unpackSign Format.binary32 word))
      (unpackExponent word) (unpackMantissa word) = word := by
  rw [packComponents, toBitVec_ofBitVec]
  refine BitVec.eq_of_getLsbD_eq fun i inside => ?_
  have inside : i < 32 := inside
  simp only [unpackSign, unpackExponent, unpackMantissa, BitVec.getLsbD_append, BitVec.getLsbD_cast,
    BitVec.getLsbD_extractLsb]
  by_cases low : i < 23
  · simp [low]
  · by_cases middle : i - 23 < 8
    · have place : 23 + (i - 23) = i := by omega
      simp [low, middle, place]
    · obtain rfl : i = 31 := by omega
      rfl

theorem pack_unpack {word : BitVec 32} (valid : Format.binary32.Valid word) :
    pack Format.binary32 (unpack Format.binary32 word) = word := by
  have parts := packComponents_unpack word
  have short : (@unpackMantissa Format.binary32 word).toNat < 2 ^ 23 := BitVec.isLt _
  have few : (@unpackExponent Format.binary32 word).toNat < 2 ^ 8 := BitVec.isLt _
  have bias : ((Format.binary32.exponentBias : Int) + (23 : Nat)) = 150 := rfl
  rw [unpack]
  dsimp only
  split
  · rename_i largest
    split
    · rename_i none
      rw [largest, none] at parts
      exact parts
    · rename_i some
      exact (valid.eq_packedNaN largest some).symm
  · rename_i high
    split
    · rename_i least
      split
      · rename_i none
        rw [least, none] at parts
        exact parts
      · rename_i some
        have bits : (@unpackMantissa Format.binary32 word).toNat.log2 + 1 ≠
            Format.binary32.mantissaBits := by
          have log := (Nat.log2_lt fun zero => some (BitVec.eq_of_toNat_eq zero)).mpr short
          change _ + 1 ≠ 24
          omega
        rw [pack]
        dsimp only
        rw [if_neg (by rw [least]; decide), if_neg bits, ← least, BitVec.ofNat_toNat,
          BitVec.setWidth_eq]
        exact parts
    · have bits : (1#1 ++ @unpackMantissa Format.binary32 word).toNat.log2 + 1 =
          Format.binary32.mantissaBits := by
        rw [append_implicit, (Nat.log2_eq_iff (by omega)).mpr ⟨Nat.le_add_right _ _, by omega⟩]
        rfl
      have below : (@unpackExponent Format.binary32 word).toNat ≠ 255 := fun same =>
        high (BitVec.eq_of_toNat_eq same)
      have exponent : ((@unpackExponent Format.binary32 word).toNat -
          ((Format.binary32.exponentBias : Int) + (23 : Nat)) + Format.binary32.exponentBias +
            (23 : Nat) : Int).toNat = (@unpackExponent Format.binary32 word).toNat := by
        omega
      have mantissa : BitVec.ofNat 23 (1#1 ++ @unpackMantissa Format.binary32 word).toNat =
          @unpackMantissa Format.binary32 word := by
        refine BitVec.eq_of_toNat_eq ?_
        rw [BitVec.toNat_ofNat, append_implicit, Nat.add_mod_left, Nat.mod_eq_of_lt short]
      rw [pack]
      dsimp only
      rw [if_neg (exponent_fits (by rw [bias]; omega)), if_pos bits]
      refine Eq.trans ?_ parts
      exact congrArg₂ _ (by rw [exponent, BitVec.ofNat_toNat, BitVec.setWidth_eq]) mantissa

theorem AtMost.stored {k : Int} {a : UnpackedFloat} (low : -126 ≤ k) (high : k ≤ 104)
    (small : AtMost k a) : AtMost k (stored a) := by
  have tiny : ∀ s (mantissa : BitVec 23),
      AtMost k (unpack Format.binary32 (packComponents Format.binary32 s 0#8 mantissa)) := by
    intro s mantissa
    have short : mantissa.toNat < 2 ^ 23 := mantissa.isLt
    rw [unpack_subnormal]
    split
    · trivial
    · refine ⟨by omega, short.le.trans (Nat.pow_le_pow_right two_pos (by omega))⟩
  rcases a with s | _ | s | ⟨s, m, e, some⟩
  · exact small.elim
  · trivial
  · rw [stored_zero]
    trivial
  · have largest : e ≤ 104 := small.1.trans high
    by_cases bits : m.log2 + 1 = 24
    · have shape := (Nat.log2_eq_iff some.ne').mp (by omega : m.log2 = 23)
      by_cases least : -149 ≤ e
      · rw [stored_normal s some shape.1 shape.2 least largest]
        exact small
      · rw [stored_short s some (.inr (by omega)) largest]
        exact tiny s _
    · rw [stored_short s some (.inl bits) largest]
      exact tiny s _

end Words

section Levels

theorem shift_pos {m : Nat} (some : 0 < m) (a : Nat) : 0 < m <<< a := by
  rw [Nat.shiftLeft_eq]
  exact Nat.mul_pos some (Nat.two_pow_pos a)

theorem log2_shift {m : Nat} (some : 0 < m) (a : Nat) : (m * 2 ^ a).log2 = m.log2 + a := by
  have low := Nat.log2_self_le some.ne'
  have high := @Nat.lt_log2_self m
  apply (Nat.log2_eq_iff (Nat.mul_pos some (Nat.two_pow_pos a)).ne').mpr
  constructor
  · rw [pow_add]
    exact Nat.mul_le_mul_right _ low
  · rw [Nat.add_right_comm, pow_add]
    exact Nat.mul_lt_mul_of_pos_right high (Nat.two_pow_pos a)

/-- What rounding leaves: a mantissa that is stored as it is, and the place of the first digit or
the one above it. -/
def RoundsTo (s : Sign) (t : Int) (a : UnpackedFloat) : Prop :=
  ∃ m e some, a = .finite s m e some ∧ t ≤ totalExponent m e ∧ m < 2 ^ 24 ∧ -149 ≤ e ∧
    (2 ^ 23 ≤ m ∨ e = -149)

theorem roundsTo_normal (s : Sign) {m n : Nat} {e : Int} (long : m.log2 = 23 + n) (some : 0 < m)
    (least : -149 ≤ e + n) :
    RoundsTo s (totalExponent m e) (roundWithAccuracy Format.binary32 s m e .exact) := by
  rcases roundWithAccuracy_eq s m e .exact with ⟨k, r, n', shift, rounded, shift', same⟩
  rw [targetExponent_eq, totalExponent, long] at shift
  obtain rfl : k = n := by omega
  have bounds := roundedMantissa_bounds (ExtendedMantissa.ofMantissaAndAccuracy m .exact >>> k)
  rw [mantissa_shift, mantissa_of, ← rounded] at bounds
  have first : 2 ^ 23 ≤ m / 2 ^ k ∧ m / 2 ^ k < 2 ^ 24 := by
    rcases (Nat.log2_eq_iff some.ne').mp long with ⟨low, high⟩
    rw [Nat.le_div_iff_mul_le (Nat.two_pow_pos k), Nat.div_lt_iff_lt_mul (Nat.two_pow_pos k),
      ← pow_add, ← pow_add]
    exact ⟨low, by rwa [Nat.add_right_comm] at high⟩
  rw [targetExponent_eq, totalExponent] at shift'
  rcases (by omega : r < 2 ^ 24 ∨ r = 2 ^ 24) with short | carried
  · have bits : r.log2 = 23 := (Nat.log2_eq_iff (by omega)).mpr ⟨bounds.1.trans' first.1, short⟩
    obtain rfl : n' = 0 := by omega
    rw [pow_zero, Nat.div_one, dif_neg (by omega)] at same
    refine ⟨_, _, _, same, ?_, short, by omega, .inl (by omega)⟩
    rw [totalExponent, totalExponent, long, bits]
    omega
  · have bits : r.log2 = 24 := by
      rw [carried]
      exact Nat.log2_two_pow
    obtain rfl : n' = 1 := by omega
    have half : r / 2 ^ 1 = 2 ^ 23 := by omega
    rw [dif_neg (by omega)] at same
    refine ⟨_, _, _, same, ?_, by omega, by omega, .inl half.ge⟩
    rw [totalExponent, totalExponent, long, half, Nat.log2_two_pow]
    omega

theorem roundsTo_round (s : Sign) {m : Nat} {e : Int} (some : 0 < m) (least : -149 ≤ e) :
    RoundsTo s (totalExponent m e) (UnpackedFloat.round Format.binary32 s m e) := by
  rw [UnpackedFloat.round, targetExponent_eq]
  dsimp only [decreaseExponent]
  generalize shift : (e - max (totalExponent m e - 24) (-149)).toNat = a
  rw [totalExponent] at shift
  have positive : 0 < m * 2 ^ a := Nat.mul_pos some (Nat.two_pow_pos a)
  have bits := log2_shift some a
  have level : totalExponent m e = totalExponent (m * 2 ^ a) (e - a) := by
    rw [totalExponent, totalExponent, bits]
    push_cast
    ring
  rw [Nat.shiftLeft_eq, level]
  by_cases normal : 23 ≤ (m * 2 ^ a).log2
  · rcases Nat.exists_eq_add_of_le normal with ⟨n, long⟩
    exact roundsTo_normal s long positive (by omega)
  · have least' : e - a = -149 := by omega
    have short : m * 2 ^ a < 2 ^ 23 := (Nat.log2_lt positive.ne').mp (not_le.mp normal)
    exact ⟨_, _, positive, roundWithAccuracy_kept s positive (by omega) (by omega) (.inr least'),
      le_rfl, by omega, by omega, .inr least'⟩

/-- Values whose first digit is at a place or below it. -/
def IsBelow (t : Int) : UnpackedFloat → Prop
  | .zero _ => True
  | .finite _ m e _ => totalExponent m e ≤ t
  | _ => False

theorem IsBelow.mono {t t' : Int} {a : UnpackedFloat} (below : IsBelow t a) (le : t ≤ t') :
    IsBelow t' a := by
  rcases a with _ | _ | _ | _
  · exact below
  · exact below
  · trivial
  · exact below.trans le

/-- The first digit of a value is at that of another one or above it. Values that are not finite are
above all others. -/
def Dominates (a c : UnpackedFloat) : Prop :=
  match a with
  | .notANumber => True
  | .infinity _ => True
  | .zero _ => ∃ s, c = .zero s
  | .finite _ m e _ => IsBelow (totalExponent m e) c

def IsMagnitude (a : UnpackedFloat) : Prop :=
  IsStored a ∧ match a with
    | .finite s _ _ _ => s = .positive
    | _ => True

variable {a b c : UnpackedFloat}

theorem RoundsTo.dominates {t : Int} (rounds : RoundsTo .positive t a) (below : IsBelow t c) :
    Dominates (stored a) c ∧ IsMagnitude (stored a) := by
  rcases rounds with ⟨m, e, some, rfl, level, short, least, shape⟩
  by_cases large : 105 ≤ e
  · rw [stored_of_large _ some large]
    exact ⟨trivial, trivial, trivial⟩
  · have kept : IsStored (.finite .positive m e some) := ⟨short, least, by omega, shape⟩
    rw [stored_eq kept]
    exact ⟨below.mono level, kept, rfl⟩

theorem totalExponent_mono {m n : Nat} (some : 0 < m) (le : m ≤ n) (e : Int) :
    totalExponent m e ≤ totalExponent n e := by
  have bits : m.log2 ≤ n.log2 :=
    (Nat.le_log2 (some.trans_le le).ne').mpr ((Nat.log2_self_le some.ne').trans le)
  rw [totalExponent, totalExponent]
  omega

theorem totalExponent_aligned {m : Nat} (some : 0 < m) {e f : Int} (le : f ≤ e) :
    totalExponent (m <<< (e - f).toNat) f = totalExponent m e := by
  rw [totalExponent, totalExponent, Nat.shiftLeft_eq, log2_shift some]
  push_cast
  omega

theorem add_positive {m n : Nat} {e f : Int} (some : 0 < m) (some' : 0 < n) :
    UnpackedFloat.add Format.binary32 (.finite .positive m e some) (.finite .positive n f some') =
      UnpackedFloat.round Format.binary32 .positive
        (m <<< (e - min e f).toNat + n <<< (f - min e f).toNat) (min e f) := by
  have greater : compare (((m <<< (e - min e f).toNat : Nat) : Int) +
      ((n <<< (f - min e f).toNat : Nat) : Int)) 0 = .gt := by
    rw [Int.compare_eq_gt]
    exact Int.add_pos_of_pos_of_nonneg (Int.natCast_pos.mpr (shift_pos some _))
      (Int.natCast_nonneg _)
  simp only [UnpackedFloat.add, decreaseExponent, Sign.apply, UnpackedFloat.normalize]
  rw [greater]
  rfl

theorem dominates_add (first : IsMagnitude a) (second : IsMagnitude b)
    (above : Dominates a c ∨ Dominates b c) :
    Dominates (stored (UnpackedFloat.add Format.binary32 a b)) c ∧
      IsMagnitude (stored (UnpackedFloat.add Format.binary32 a b)) := by
  have nan : Dominates (stored .notANumber) c ∧ IsMagnitude (stored .notANumber) :=
    ⟨trivial, trivial, trivial⟩
  have infinite : ∀ s, Dominates (stored (.infinity s)) c ∧ IsMagnitude (stored (.infinity s)) := by
    intro s
    rw [stored_infinity]
    exact ⟨trivial, trivial, trivial⟩
  rcases a with s | _ | s | ⟨s, m, e, some⟩
  · rcases b with s' | _ | s' | ⟨s', m', e', some'⟩
    · cases s <;> cases s'
      · exact infinite _
      · exact nan
      · exact nan
      · exact infinite _
    · exact nan
    · exact infinite s
    · exact infinite s
  · exact nan
  · rcases b with s' | _ | s' | ⟨s', m', e', some'⟩
    · exact infinite s'
    · exact nan
    · obtain ⟨_, rfl⟩ := above.elim id id
      cases s <;> cases s' <;> exact ⟨⟨_, rfl⟩, trivial, trivial⟩
    · change Dominates (stored (.finite s' m' e' some')) c ∧
        IsMagnitude (stored (.finite s' m' e' some'))
      rw [stored_eq second.1]
      refine ⟨?_, second⟩
      rcases above with ⟨_, rfl⟩ | above
      · trivial
      · exact above
  · rcases b with s' | _ | s' | ⟨s', m', e', some'⟩
    · exact infinite s'
    · exact nan
    · change Dominates (stored (.finite s m e some)) c ∧ IsMagnitude (stored (.finite s m e some))
      rw [stored_eq first.1]
      refine ⟨?_, first⟩
      rcases above with above | ⟨_, rfl⟩
      · exact above
      · trivial
    · obtain rfl := first.2
      obtain rfl := second.2
      have lower := min_le_left e e'
      have lower' := min_le_right e e'
      have level := totalExponent_aligned some lower
      have level' := totalExponent_aligned some' lower'
      have least : -149 ≤ min e e' := le_min first.1.2.1 second.1.2.1
      have positive := shift_pos some (e - min e e').toNat
      have positive' := shift_pos some' (e' - min e e').toNat
      rw [add_positive]
      apply (roundsTo_round .positive (by omega) least).dominates
      rcases above with above | above
      · exact above.mono (level ▸ totalExponent_mono positive (Nat.le_add_right _ _) _)
      · exact above.mono (level' ▸ totalExponent_mono positive' (Nat.le_add_left _ _) _)

theorem Dominates.div {d x : UnpackedFloat} (above : Dominates d x) :
    AtMost 1 (UnpackedFloat.div Format.binary32 x d) := by
  rcases d with _ | _ | _ | ⟨s', m', e', some'⟩
  · cases x <;> trivial
  · cases x <;> trivial
  · obtain ⟨_, rfl⟩ := above
    trivial
  · rcases x with _ | _ | _ | ⟨s, m, e, some⟩
    · exact above.elim
    · exact above.elim
    · trivial
    · change totalExponent m e ≤ totalExponent m' e' at above
      rw [UnpackedFloat.div]
      dsimp only [divCore]
      rw [targetExponent_eq]
      generalize target :
        min (e - e') (max (totalExponent m e - totalExponent m' e' - 24) (-149)) = t
      rw [totalExponent, totalExponent] at above target
      apply atMost_round (by omega) _ (by omega)
      left
      rw [Nat.div_lt_iff_lt_mul some', Nat.shiftLeft_eq]
      calc
        m * 2 ^ (e - e' - t).toNat < 2 ^ (m.log2 + 1) * 2 ^ (e - e' - t).toNat :=
          Nat.mul_lt_mul_of_pos_right Nat.lt_log2_self (Nat.two_pow_pos _)
        _ = 2 ^ (m.log2 + 1 + (e - e' - t).toNat) := (pow_add _ _ _).symm
        _ ≤ 2 ^ ((1 - t).toNat + m'.log2) := Nat.pow_le_pow_right two_pos (by omega)
        _ = 2 ^ (1 - t).toNat * 2 ^ m'.log2 := pow_add _ _ _
        _ ≤ 2 ^ (1 - t).toNat * m' := Nat.mul_le_mul_left _ (Nat.log2_self_le some'.ne')

end Levels

section Truncation

def whole (m : Nat) (e : Int) : Nat := m * 2 ^ e.toNat / 2 ^ (-e).toNat

theorem roundToInt_eq (s : Sign) (m : Nat) (e : Int) : roundToInt s m e = s.apply (whole m e) := by
  have right : (0 - (e - (e.toNat : Int))).toNat = (-e).toNat := by omega
  simp only [roundToInt, decreaseExponent, shiftToExponent, mantissa_shift, mantissa_of,
    Nat.shiftLeft_eq, sub_zero, right, whole]

theorem toNat_ofNatClamp (n : Nat) : (UInt32.ofNatClamp n).toNat = min n 4294967295 := by
  rw [UInt32.ofNatClamp]
  split
  · rename_i small
    have short : n < 4294967296 := small
    rw [UInt32.toNat_ofNatLT]
    omega
  · rename_i large
    have long : ¬n < 4294967296 := large
    rw [UInt32.toNat_ofNatLT, UInt32.size]
    omega

theorem whole_mono {m n : Nat} (le : m ≤ n) (e : Int) : whole m e ≤ whole n e :=
  Nat.div_le_div_right (Nat.mul_le_mul_right _ le)

theorem whole_shift (m a : Nat) (e : Int) : whole (m * 2 ^ a) e = whole m (e + a) := by
  obtain ⟨c, up, down⟩ : ∃ c, a + e.toNat = (e + a).toNat + c ∧ (-e).toNat = (-(e + a)).toNat + c :=
    ⟨(-e).toNat - (-(e + a)).toNat, by omega, by omega⟩
  rw [whole, whole, Nat.mul_assoc, ← pow_add, up, down, pow_add, pow_add, ← Nat.mul_assoc,
    Nat.mul_div_mul_right _ _ (Nat.two_pow_pos c)]

theorem toUInt32_finite (m : Nat) (e : Int) (some : 0 < m) :
    (finite .positive m e some).toUInt32.toNat = min (whole m e) 4294967295 := by
  rw [UnpackedFloat.toUInt32, toNat_ofNatClamp, UnpackedFloat.toInt, roundToInt_eq]
  rfl

theorem whole_le_of_compare {m n : Nat} {e f : Int} {some : 0 < m} {some' : 0 < n}
    (kept : IsStored (finite .positive m e some)) (kept' : IsStored (finite .positive n f some'))
    (le : ((compare e f).then (compare m n)).isLE) : whole m e ≤ whole n f := by
  rcases lt_trichotomy e f with less | rfl | more
  · obtain ⟨a, rfl⟩ : ∃ a : Nat, f = e + (a + 1 : Nat) := ⟨(f - e - 1).toNat, by omega⟩
    rw [← whole_shift]
    apply whole_mono
    have long : 2 ^ 23 ≤ n := by
      have least := kept.2.1
      have shape := kept'.2.2.2
      omega
    calc
      m ≤ 2 ^ 23 * 2 := kept.1.le
      _ ≤ n * 2 ^ (a + 1) := Nat.mul_le_mul long (Nat.le_self_pow a.succ_ne_zero 2)
  · apply whole_mono
    rw [Int.compare_eq_eq.mpr rfl] at le
    exact Nat.isLE_compare.mp le
  · rw [Int.compare_eq_gt.mpr more] at le
    cases le

theorem toUInt32_mono {a b : UnpackedFloat} (kept : IsStored a) (kept' : IsStored b)
    (le : (a.compare b).any Ordering.isLE) : a.toUInt32.toNat ≤ b.toUInt32.toNat := by
  have negative : ∀ m e some, (finite .negative m e some).toUInt32.toNat = 0 := by
    intro m e some
    rw [UnpackedFloat.toUInt32, toNat_ofNatClamp, UnpackedFloat.toInt, roundToInt_eq]
    simp [Sign.apply]
  have top : (infinity .positive).toUInt32.toNat = 4294967295 := by decide
  rcases a with (_ | _) | _ | _ | ⟨_ | _, m, e, some⟩
  · exact Nat.zero_le _
  · rcases b with (_ | _) | _ | _ | ⟨_ | _, n, f, some'⟩
    all_goals first
      | exact le_rfl
      | cases le
  · exact Nat.zero_le _
  · exact Nat.zero_le _
  · rw [negative]
    exact Nat.zero_le _
  · rcases b with (_ | _) | _ | _ | ⟨_ | _, n, f, some'⟩
    · cases le
    · rw [top, toUInt32_finite]
      exact min_le_right _ _
    · cases le
    · cases le
    · cases le
    · rw [toUInt32_finite, toUInt32_finite]
      apply min_le_min_right
      exact whole_le_of_compare kept kept' le

theorem AtMost.whole_le {k : Nat} {m : Nat} {e : Int} (below : e ≤ k)
    (fits : m ≤ 2 ^ (k - e).toNat) : whole m e ≤ 2 ^ k := by
  rw [whole, Nat.div_le_iff_le_mul_add_pred (Nat.two_pow_pos _), ← pow_add]
  have same : (k - e).toNat + e.toNat = (-e).toNat + k := by omega
  have := Nat.mul_le_mul_right (2 ^ e.toNat) fits
  rw [← pow_add, same] at this
  omega

theorem AtMost.toUInt32 {k : Nat} {a : UnpackedFloat} (small : AtMost k a) :
    a.toUInt32.toNat ≤ 2 ^ k := by
  rw [UnpackedFloat.toUInt32, toNat_ofNatClamp]
  refine (min_le_left _ _).trans ?_
  rcases a with _ | _ | _ | ⟨s, m, e, some⟩
  · exact small.elim
  · exact Nat.zero_le _
  · exact Nat.zero_le _
  · rw [UnpackedFloat.toInt, roundToInt_eq]
    have := AtMost.whole_le small.1 small.2
    cases s
    · simp [Sign.apply]
    · exact this

theorem stored_ofNat {n : Nat} (short : n < 2 ^ 24) :
    (stored (UnpackedFloat.ofNat Format.binary32 n)).toUInt32.toNat = n := by
  rcases n.eq_zero_or_pos with rfl | some
  · decide
  · have bits : n.log2 ≤ 23 := Nat.le_of_lt_succ ((Nat.log2_lt some.ne').mpr short)
    have full := log2_shift some (23 - n.log2)
    rw [Nat.add_sub_cancel' bits] at full
    have positive : 0 < n * 2 ^ (23 - n.log2) := Nat.mul_pos some (Nat.two_pow_pos _)
    obtain ⟨low, high⟩ := (Nat.log2_eq_iff positive.ne').mp full
    have same : UnpackedFloat.ofNat Format.binary32 n =
        finite .positive (n * 2 ^ (23 - n.log2)) (-(23 - n.log2 : Nat)) positive := by
      rw [UnpackedFloat.ofNat, UnpackedFloat.ofInt, UnpackedFloat.normalize,
        Int.compare_eq_gt.mpr (Int.natCast_pos.mpr some)]
      dsimp only
      rw [UnpackedFloat.round, targetExponent_eq, totalExponent, Int.toNat_natCast]
      have target : max ((n.log2 : Int) + 1 + 0 - 24) (-149) = -(23 - n.log2 : Nat) := by omega
      rw [target]
      simp only [decreaseExponent, zero_sub, neg_neg, Int.toNat_natCast, Nat.shiftLeft_eq]
      exact roundWithAccuracy_kept .positive positive high (by omega) (.inl low)
    rw [same, stored_normal .positive positive low high (by omega) (by omega), toUInt32_finite,
      whole_shift, neg_add_cancel, whole]
    simp only [Int.toNat_zero, neg_zero, pow_zero, Nat.mul_one, Nat.div_one]
    omega

theorem atMost_ofNat {k n : Nat} (le : n ≤ 2 ^ k) :
    AtMost k (UnpackedFloat.ofNat Format.binary32 n) := by
  apply atMost_normalize (by omega) _ (by omega)
  simpa using le

end Truncation

end IrradianceField.Unpacked
