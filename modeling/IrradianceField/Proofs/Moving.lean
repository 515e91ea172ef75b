import IrradianceField.Proofs.Checked
import IrradianceField.Volume.Cascades

/-!
Moving: all that a cascade does about a new view. It starts anew at it or follows it by whole probes,
unless the number of these is past the signed words.
-/

namespace IrradianceField

namespace Cascade

variable {α : Type} [Scalar α] {c d : Cascade α} {viewPos : Vec3 α} {counts : Vec3 Nat}
  {m : Vec3 Int}

/-- The signed words, along each axis. -/
def IsSigned (v : Vec3 Int) : Prop :=
  (-2147483648 ≤ v.x ∧ v.x < 2147483648) ∧ (-2147483648 ≤ v.y ∧ v.y < 2147483648) ∧
    -2147483648 ≤ v.z ∧ v.z < 2147483648

def IsCountable (m : Vec3 Int) : Prop :=
  m.x.natAbs < 2147483648 ∧ m.y.natAbs < 2147483648 ∧ m.z.natAbs < 2147483648

/-- A move by the whole grid along some axis. -/
def IsLeap (counts : Vec3 Nat) (m : Vec3 Int) : Prop :=
  counts.x ≤ m.x.natAbs ∨ counts.y ≤ m.y.natAbs ∨ counts.z ≤ m.z.natAbs

instance : Decidable (IsCountable m) := inferInstanceAs (Decidable (_ ∧ _ ∧ _))

/-- The point of the lattice that is nearest to the view, in probes from the origin of the grid. -/
def target (c : Cascade α) (viewPos : Vec3 α) : Vec3 Int :=
  ((viewPos - c.placement.origin).divide c.placement.spacing).round.toInt

def move (c : Cascade α) (viewPos : Vec3 α) : Vec3 Int := c.target viewPos - c.placement.scroll

def scrolled (c : Cascade α) (viewPos : Vec3 α) : Cascade α :=
  { c with
    placement := { c.placement with scroll := c.target viewPos }
    scrollClear := (c.move viewPos).map Int.natAbs
    scrollDirections := (c.move viewPos).map Int.sign
    reset := false }

theorem delta_eq_ok : c.delta viewPos = .ok m ↔ m = c.move viewPos ∧ IsSigned m := by
  obtain ⟨x, y, z⟩ := m
  simp only [delta, Vec3.zipWithM_eq_ok, SignedWord.sub_eq_ok, IsSigned]
  constructor
  · rintro ⟨⟨rfl, sx⟩, ⟨rfl, sy⟩, rfl, sz⟩
    exact ⟨rfl, sx, sy, sz⟩
  · rintro ⟨same, sx, sy, sz⟩
    obtain ⟨rfl, rfl, rfl⟩ := Vec3.mk.inj same
    exact ⟨⟨rfl, sx⟩, ⟨rfl, sy⟩, rfl, sz⟩

theorem IsCountable.isSigned (countable : IsCountable m) : IsSigned m := by
  obtain ⟨x, y, z⟩ := countable
  exact ⟨⟨by omega, by omega⟩, ⟨by omega, by omega⟩, by omega, by omega⟩

theorem sizes_eq_ok {sizes : Vec3 Int} : m.mapM SignedWord.abs = .ok sizes ↔
    sizes = (m.map Int.natAbs).map Int.ofNat ∧ IsCountable m := by
  obtain ⟨x, y, z⟩ := sizes
  simp only [Vec3.mapM_eq_ok, SignedWord.abs_eq_ok, IsCountable, Vec3.map, Vec3.mk.injEq,
    Int.ofNat_eq_natCast]
  tauto

theorem scroll_eq_ok {scroll : Vec3 Int} :
    c.placement.scroll.zipWithM SignedWord.add (c.move viewPos) = .ok scroll ↔
      scroll = c.target viewPos ∧ IsSigned (c.target viewPos) := by
  have x : c.placement.scroll.x + (c.move viewPos).x = (c.target viewPos).x :=
    add_sub_cancel _ _
  have y : c.placement.scroll.y + (c.move viewPos).y = (c.target viewPos).y :=
    add_sub_cancel _ _
  have z : c.placement.scroll.z + (c.move viewPos).z = (c.target viewPos).z :=
    add_sub_cancel _ _
  simp only [Vec3.zipWithM_eq_ok, SignedWord.add_eq_ok, x, y, z, IsSigned]
  constructor
  · rintro ⟨⟨sx, x⟩, ⟨sy, y⟩, sz, z⟩
    exact ⟨by cases scroll; simp_all, x, y, z⟩
  · rintro ⟨rfl, x, y, z⟩
    exact ⟨⟨rfl, x⟩, ⟨rfl, y⟩, rfl, z⟩

/-- A move ends unless it cannot be counted, and is one of two kinds. -/
theorem update_eq_ok : c.update viewPos counts = .ok d ↔ IsCountable (c.move viewPos) ∧
    ((c.initialized = false ∨ IsLeap counts (c.move viewPos)) ∧ d = c.restart viewPos ∨
      (c.initialized = true ∧ ¬IsLeap counts (c.move viewPos)) ∧ IsSigned (c.target viewPos) ∧
        d = c.scrolled viewPos) := by
  have anew : (!c.initialized || (((c.move viewPos).map Int.natAbs).zipWith
      (fun moved count => decide (count ≤ moved)) counts).any id) = true ↔
        c.initialized = false ∨ IsLeap counts (c.move viewPos) := by
    rw [Bool.or_eq_true, Bool.not_eq_true', Vec3.any, Bool.or_eq_true, Bool.or_eq_true, or_assoc]
    exact or_congr Iff.rfl
      (or_congr decide_eq_true_iff (or_congr decide_eq_true_iff decide_eq_true_iff))
  simp only [update, bind_eq_ok, delta_eq_ok, sizes_eq_ok]
  constructor
  · rintro ⟨m, ⟨rfl, -⟩, planes, ⟨rfl, countable⟩, ran⟩
    refine ⟨countable, ?_⟩
    split at ran
    · rename_i restarted
      exact .inl ⟨anew.mp restarted, (Except.ok.inj ran).symm⟩
    · rename_i kept
      obtain ⟨initialized, short⟩ := not_or.mp (mt anew.mpr kept)
      obtain ⟨scroll, moved, ran⟩ := bind_eq_ok.mp ran
      obtain ⟨rfl, signed⟩ := scroll_eq_ok.mp moved
      exact .inr ⟨⟨by simpa using initialized, short⟩, signed, (Except.ok.inj ran).symm⟩
  · rintro ⟨countable, kind⟩
    refine ⟨_, ⟨rfl, countable.isSigned⟩, _, ⟨rfl, countable⟩, ?_⟩
    rcases kind with ⟨restarted, rfl⟩ | ⟨⟨initialized, short⟩, signed, rfl⟩
    · exact if_pos (anew.mpr restarted)
    · have kept : ¬(c.initialized = false ∨ IsLeap counts (c.move viewPos)) :=
        not_or.mpr ⟨by simp [initialized], short⟩
      refine (if_neg (mt anew.mp kept)).trans ?_
      exact bind_eq_ok.mpr ⟨_, scroll_eq_ok.mpr ⟨rfl, signed⟩, rfl⟩

end Cascade

end IrradianceField
