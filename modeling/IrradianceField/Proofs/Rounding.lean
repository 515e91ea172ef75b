import Mathlib
import IrradianceField.Scalar.Binary32

/-!
Rounding: how large the results of arithmetic in 32 bits are. Powers of two are values themselves,
so that whatever is at most one of them stays so when it is rounded.
-/

namespace IrradianceField.Unpacked

open Float.Model (Format UnpackedFloat totalExponent)
open Float.Model.UnpackedFloat

section Shifts

theorem targetExponent_eq (t : Int) : Format.binary32.targetExponent t = max (t - 24) (-149) := by
  simp [Format.targetExponent, Format.mantissaBits, Format.minExponent]

theorem log2_le {m k : Nat} (small : m ≤ 2 ^ k) : m.log2 ≤ k := by
  rcases Nat.eq_zero_or_pos m with rfl | some
  · exact Nat.zero_le k
  · apply Nat.le_of_lt_succ
    rw [Nat.log2_lt some.ne']
    exact small.trans_lt (Nat.pow_lt_pow_succ one_lt_two)

theorem mantissa_shift (em : ExtendedMantissa) (n : Nat) :
    (em >>> n).mantissa = em.mantissa / 2 ^ n := by
  change (n.repeat ExtendedMantissa.shiftRightOne em).mantissa = _
  induction n with
  | zero => simp [Nat.repeat]
  | succ n ih =>
      rw [Nat.repeat, ExtendedMantissa.shiftRightOne]
      dsimp only
      rw [ih, Nat.div_div_eq_div_mul, pow_succ]

theorem mantissa_of (m : Nat) (accuracy : Accuracy) :
    (ExtendedMantissa.ofMantissaAndAccuracy m accuracy).mantissa = m := by
  rcases accuracy with _ | (_ | _ | _) <;> rfl

theorem shift_exact (m n : Nat) :
    ExtendedMantissa.ofMantissaAndAccuracy (m * 2 ^ n) .exact >>> n = ⟨m, false, false⟩ := by
  change n.repeat ExtendedMantissa.shiftRightOne _ = _
  induction n generalizing m with
  | zero => simp [Nat.repeat, ExtendedMantissa.ofMantissaAndAccuracy]
  | succ n ih =>
      have twice : m * 2 ^ (n + 1) = m * 2 * 2 ^ n := by ring
      rw [Nat.repeat, twice, ih]
      simp [ExtendedMantissa.shiftRightOne]

theorem roundedMantissa_bounds (em : ExtendedMantissa) :
    em.mantissa ≤ em.roundedMantissa ∧ em.roundedMantissa ≤ em.mantissa + 1 := by
  have even := Nat.mod_lt em.mantissa two_pos
  rcases em with ⟨m, _ | _, _ | _⟩
  all_goals
    simp only [ExtendedMantissa.roundedMantissa, ExtendedMantissa.accuracy,
      Accuracy.roundToNearestEven]
    omega

theorem roundedMantissa_le {m n j : Nat} {accuracy : Accuracy}
    (fits : m < 2 ^ (n + j) ∨ accuracy = .exact ∧ m = 2 ^ (n + j)) :
    (ExtendedMantissa.ofMantissaAndAccuracy m accuracy >>> n).roundedMantissa ≤ 2 ^ j := by
  rcases fits with less | ⟨rfl, same⟩
  · have below : m / 2 ^ n < 2 ^ j := by
      rw [Nat.div_lt_iff_lt_mul (Nat.two_pow_pos n), ← pow_add, Nat.add_comm]
      exact less
    have near := (roundedMantissa_bounds
      (ExtendedMantissa.ofMantissaAndAccuracy m accuracy >>> n)).2
    rw [mantissa_shift, mantissa_of] at near
    omega
  · rw [same, Nat.add_comm, pow_add, shift_exact]
    exact le_rfl

theorem roundWithAccuracy_eq (s : Sign) (m : Nat) (e : Int) (accuracy : Accuracy) : ∃ n r n' : Nat,
    n = (Format.binary32.targetExponent (totalExponent m e) - e).toNat ∧
    r = (ExtendedMantissa.ofMantissaAndAccuracy m accuracy >>> n).roundedMantissa ∧
    n' = (Format.binary32.targetExponent (totalExponent r (e + n)) - (e + n)).toNat ∧
    roundWithAccuracy Format.binary32 s m e accuracy =
      if h : r / 2 ^ n' = 0 then .zero s
      else .finite s (r / 2 ^ n') (e + n + n') (Nat.pos_of_ne_zero h) := by
  refine ⟨_, _, _, rfl, rfl, rfl, ?_⟩
  simp only [roundWithAccuracy, shiftToTargetExponent, shiftToExponent, mantissa_shift, mantissa_of]

theorem roundWithAccuracy_kept (s : Sign) {m : Nat} {e : Int} (some : 0 < m) (short : m < 2 ^ 24)
    (least : -149 ≤ e) (shape : 2 ^ 23 ≤ m ∨ e = -149) :
    roundWithAccuracy Format.binary32 s m e .exact = .finite s m e some := by
  have bits : m.log2 ≤ 23 := Nat.le_of_lt_succ ((Nat.log2_lt some.ne').mpr short)
  have same : Format.binary32.targetExponent (totalExponent m e) = e := by
    rw [targetExponent_eq, totalExponent]
    rcases shape with long | rfl
    · have := (Nat.le_log2 some.ne').mpr long
      omega
    · omega
  rcases roundWithAccuracy_eq s m e .exact with ⟨n, r, n', shift, rounded, shift', result⟩
  rw [same, sub_self, Int.toNat_zero] at shift
  subst shift
  obtain rfl : r = m := rounded
  rw [Int.natCast_zero, add_zero, same, sub_self, Int.toNat_zero] at shift'
  subst shift'
  rw [result]
  simp [some.ne']

end Shifts

section Bounds

/-- Not infinite, and no larger than two to the power of `k`. -/
def AtMost (k : Int) : UnpackedFloat → Prop
  | .infinity _ => False
  | .notANumber => True
  | .zero _ => True
  | .finite _ m e _ => e ≤ k ∧ m ≤ 2 ^ (k - e).toNat

theorem AtMost.mono {j k : Int} {a : UnpackedFloat} (small : AtMost j a) (le : j ≤ k) :
    AtMost k a := by
  rcases a with _ | _ | _ | ⟨_, m, e, _⟩
  · exact small
  · trivial
  · trivial
  · exact ⟨small.1.trans le, small.2.trans (Nat.pow_le_pow_right two_pos (by omega))⟩

/-- Powers of two are values themselves, unless they are too small, so that rounding stays below
them. -/
theorem atMost_round {k : Int} (low : -149 ≤ k) (s : Sign) {m : Nat} {e : Int} {accuracy : Accuracy}
    (below : e ≤ k) (fits : m < 2 ^ (k - e).toNat ∨ accuracy = .exact ∧ m = 2 ^ (k - e).toNat) :
    AtMost k (roundWithAccuracy Format.binary32 s m e accuracy) := by
  rcases roundWithAccuracy_eq s m e accuracy with ⟨n, r, n', shift, rounded, shift', same⟩
  rw [targetExponent_eq, totalExponent] at shift shift'
  have size : m.log2 ≤ (k - e).toNat := log2_le (fits.elim Nat.le_of_lt fun both => both.2.le)
  obtain ⟨j, split⟩ : ∃ j, (k - e).toNat = n + j := ⟨(k - e).toNat - n, by omega⟩
  have first : r ≤ 2 ^ j := by
    rw [rounded]
    exact roundedMantissa_le (split ▸ fits)
  have size' : r.log2 ≤ j := log2_le first
  have second : r / 2 ^ n' ≤ 2 ^ (j - n') := by
    rw [Nat.div_le_iff_le_mul_add_pred (Nat.two_pow_pos n'), ← pow_add]
    have whole : n' + (j - n') = j := by omega
    rw [whole]
    omega
  rw [same]
  split
  · trivial
  · refine ⟨by omega, second.trans (Nat.pow_le_pow_right two_pos (by omega))⟩

theorem atMost_exact {k : Int} (low : -149 ≤ k) (s : Sign) {m : Nat} {e : Int} (below : e ≤ k)
    (fits : m ≤ 2 ^ (k - e).toNat) :
    AtMost k (roundWithAccuracy Format.binary32 s m e .exact) :=
  atMost_round low s below (fits.lt_or_eq.imp id fun same => ⟨rfl, same⟩)

theorem atMost_normalize {k : Int} (low : -149 ≤ k) {m e : Int} (sign : Sign) (below : e ≤ k)
    (fits : m.natAbs ≤ 2 ^ (k - e).toNat) :
    AtMost k (UnpackedFloat.normalize Format.binary32 m e sign) := by
  have each : ∀ s, AtMost k (UnpackedFloat.round Format.binary32 s m.natAbs e) := by
    intro s
    rw [UnpackedFloat.round]
    dsimp only [decreaseExponent]
    generalize (e - Format.binary32.targetExponent (totalExponent m.natAbs e)).toNat = a
    apply atMost_exact low s (by omega)
    have more : (k - (e - a)).toNat = (k - e).toNat + a := by omega
    rw [Nat.shiftLeft_eq, more, pow_add]
    exact Nat.mul_le_mul_right _ fits
  rw [UnpackedFloat.normalize]
  split
  · rename_i negative
    have size : (-m).toNat = m.natAbs := by
      have := Int.compare_eq_lt.mp negative
      omega
    rw [size]
    exact each _
  · trivial
  · rename_i positive
    have size : m.toNat = m.natAbs := by
      have := Int.compare_eq_gt.mp positive
      omega
    rw [size]
    exact each _

theorem natAbs_apply (s : Sign) (n : Int) : (s.apply n).natAbs = n.natAbs := by
  cases s with
  | negative => exact Int.natAbs_neg n
  | positive => rfl

theorem aligned_le {j e f : Int} {m : Nat} (below : e ≤ j) (fits : m ≤ 2 ^ (j - e).toNat)
    (s : Sign) :
    (s.apply ((m <<< (e - min e f).toNat : Nat) : Int)).natAbs ≤ 2 ^ (j - min e f).toNat := by
  have more : (j - min e f).toNat = (j - e).toNat + (e - min e f).toNat := by omega
  rw [natAbs_apply, Int.natAbs_natCast, Nat.shiftLeft_eq, more, pow_add]
  exact Nat.mul_le_mul_right _ fits

theorem AtMost.add {k : Int} {a b : UnpackedFloat} (low : -150 ≤ k) (first : AtMost k a)
    (second : AtMost k b) : AtMost (k + 1) (UnpackedFloat.add Format.binary32 a b) := by
  rcases a with _ | _ | s | ⟨s, m, e, some⟩
  · exact first.elim
  · trivial
  · rcases b with _ | _ | s' | ⟨s', m', e', some'⟩
    · exact second.elim
    · trivial
    · cases s <;> cases s' <;> trivial
    · exact second.mono (by omega)
  · rcases b with _ | _ | s' | ⟨s', m', e', some'⟩
    · exact second.elim
    · trivial
    · exact first.mono (by omega)
    · have x := aligned_le (f := e') first.1 first.2 s
      have y := aligned_le (f := e) second.1 second.2 s'
      rw [min_comm] at y
      have lower := (min_le_left e e').trans first.1
      have twice : (k + 1 - min e e').toNat = (k - min e e').toNat + 1 := by omega
      apply atMost_normalize (by omega) _ (by omega)
      rw [twice, pow_succ]
      exact (Int.natAbs_add_le _ _).trans (by omega)

theorem AtMost.neg {k : Int} {a : UnpackedFloat} (small : AtMost k a) : AtMost k a.neg := by
  rcases a with _ | _ | _ | _
  · exact small
  · trivial
  · trivial
  · exact small

theorem AtMost.abs {k : Int} {a : UnpackedFloat} (small : AtMost k a) : AtMost k a.abs := by
  rcases a with _ | _ | _ | _
  · exact small
  · trivial
  · trivial
  · exact small

theorem apply_neg (s : Sign) (n : Int) : (-s).apply n = -s.apply n := by
  cases s with
  | negative => exact (Int.neg_neg n).symm
  | positive => rfl

theorem sub_eq_add_neg (a b : UnpackedFloat) :
    UnpackedFloat.sub Format.binary32 a b = UnpackedFloat.add Format.binary32 a b.neg := by
  rcases a with _ | _ | s | ⟨s, m, e, some⟩
  case finite =>
    rcases b with _ | _ | _ | ⟨s', m', e', some'⟩
    case finite =>
      simp only [UnpackedFloat.sub, UnpackedFloat.add, UnpackedFloat.neg, apply_neg,
        Int.sub_eq_add_neg]
    all_goals rfl
  all_goals cases b <;> rfl

theorem AtMost.sub {k : Int} {a b : UnpackedFloat} (low : -150 ≤ k) (first : AtMost k a)
    (second : AtMost k b) : AtMost (k + 1) (UnpackedFloat.sub Format.binary32 a b) := by
  rw [sub_eq_add_neg]
  exact first.add low second.neg

theorem AtMost.mul {j k : Int} {a b : UnpackedFloat} (low : -149 ≤ j + k) (first : AtMost j a)
    (second : AtMost k b) : AtMost (j + k) (UnpackedFloat.mul Format.binary32 a b) := by
  rcases a with _ | _ | s | ⟨s, m, e, some⟩
  · exact first.elim
  · trivial
  · rcases b with _ | _ | s' | ⟨s', m', e', some'⟩
    · exact second.elim
    · trivial
    · trivial
    · trivial
  · rcases b with _ | _ | s' | ⟨s', m', e', some'⟩
    · exact second.elim
    · trivial
    · trivial
    · have x := first.1
      have y := second.1
      have both : (j + k - (e + e')).toNat = (j - e).toNat + (k - e').toNat := by omega
      apply atMost_exact low _ (by omega)
      rw [both, pow_add]
      exact Nat.mul_le_mul first.2 second.2

end Bounds

end IrradianceField.Unpacked
