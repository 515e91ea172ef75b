import IrradianceField.Proofs.Scrolling
import IrradianceField.Scalar.Rational

/-!
Skipping: cascades that move several times before they are classified. Each move forgets what the
one before it told about the planes of probes that wrapped around.
-/

namespace IrradianceField

variable {α : Type} [Scalar α]

namespace Cascade

variable {c d : Cascade α} {viewPos : Vec3 α} {counts : Vec3 Nat}

theorem reset_of_first (ran : c.update viewPos counts = .ok d) (fresh : c.initialized = false) :
    d.reset = true := by
  obtain ⟨-, ⟨-, rfl⟩ | ⟨⟨started, -⟩, -, -⟩⟩ := update_eq_ok.mp ran
  · rfl
  · cases fresh.symm.trans started

end Cascade

namespace Cascades

variable {config : Config α} {before between now : Cascades α} {cascade index : Nat}

def follow (c : Cascades α) (views : List (Vec3 α)) : Except Fault (Cascades α) :=
  views.foldlM update c

/-- A probe that is classified by what its slot holds. -/
def IsTrusted (c : Cascades α) (config : Config α) (cascade index : Nat) : Prop :=
  ∃ pass, c.classificationPass config cascade = .ok pass ∧ pass.reset = false ∧
    pass.isScrolledIn (config.grid.coordsAt index) config.probesCounts = .ok false

/-- The slot of a probe belonged, before, to the probe at the same cell of the lattice. -/
def HasKept (g : Grid) (before now : Cascades α) (cascade index : Nat) : Prop :=
  ∃ c d, before.get cascade = .ok c ∧ now.get cascade = .ok d ∧ ∃ other < g.size,
    d.placement.SameCell c.placement (g.coordsAt index) (g.coordsAt other) ∧
      g.slotAt d.placement.scroll index = g.slotAt c.placement.scroll other

/-- However often the cascades move before each of their classifications, the slot of a probe that
is classified by it belonged to the probe at the same cell when it was last classified. -/
def KeepsCells (config : Config α) : Prop :=
  ∀ (frames : List (List (Vec3 α))) (views : List (Vec3 α)) (before now : Cascades α),
    (∀ frame ∈ frames, frame ≠ []) → views ≠ [] →
    (create config).follow frames.flatten = .ok before → before.follow views = .ok now →
    ∀ cascade, ∀ index < config.grid.size, now.IsTrusted config cascade index →
      frames ≠ [] ∧ HasKept config.grid before now cascade index

def octetConfig : Config ℚ :=
  { Config.standard with
    cascades := 1
    probesCounts := ⟨2, 2, 2⟩
    probesSpacing := 2 }

/-- The cascade of `octetConfig`, started at the origin, after a move that let no plane wrap around. -/
def octetCascades (scroll : Vec3 Int) (reset : Bool) : Cascades ℚ :=
  ⟨⟨2, 2, 2⟩, #[⟨⟨⟨0, 0, 0⟩, 2, scroll⟩, ⟨0, 0, 0⟩, ⟨0, 0, 0⟩, reset, true⟩]⟩

deriving instance DecidableEq for Placement, Cascade, Cascades

/-- A probe that has wrapped around goes unnoticed, if its cascade stands still in between. -/
theorem not_keepsCells_octet : octetConfig.validate = .ok [] ∧ ¬KeepsCells octetConfig := by
  refine ⟨by decide +kernel, ?_⟩
  intro keeps
  have started : (create octetConfig).follow [⟨0, 0, 0⟩] =
      .ok (octetCascades ⟨0, 0, 0⟩ true) := by decide +kernel
  have moved : (octetCascades ⟨0, 0, 0⟩ true).follow [⟨2, 0, 0⟩, ⟨2, 0, 0⟩] =
      .ok (octetCascades ⟨1, 0, 0⟩ false) := by decide +kernel
  have trusted : (octetCascades ⟨1, 0, 0⟩ false).IsTrusted octetConfig 0 1 :=
    ⟨_, rfl, rfl, by decide +kernel⟩
  obtain ⟨-, c, d, first, second, other, inside, cell, -⟩ :=
    keeps [[⟨0, 0, 0⟩]] [⟨2, 0, 0⟩, ⟨2, 0, 0⟩] _ _ (by simp) (by simp) started moved 0 1 (by decide)
      trusted
  obtain rfl := Except.ok.inj first
  obtain rfl := Except.ok.inj second
  -- The last move was by no probe, but the plane with `x = 1` has wrapped around in the first one.
  have apart : (1 : Int) + 1 = 0 + (other % 2 : Nat) := cell.x
  omega

theorem fresh_of_create {item : Cascade α} (found : (create config).get cascade = .ok item) :
    item.initialized = false := by
  simp only [get_eq_ok, create, List.getElem?_toArray, List.getElem?_map, Option.map_eq_some_iff]
    at found
  obtain ⟨i, -, rfl⟩ := found
  rfl

theorem hasKept_of_update {viewPos : Vec3 α} (moved : before.update viewPos = .ok now)
    (inside : index < config.grid.size) (trusted : now.IsTrusted config cascade index) :
    HasKept config.grid before now cascade index := by
  obtain ⟨pass, told, kept, stays⟩ := trusted
  obtain ⟨d, found, told⟩ := bind_eq_ok.mp told
  obtain rfl := Except.ok.inj told
  obtain ⟨c, found', ran⟩ := (update_eq_ok moved).2.2 cascade d found
  obtain ⟨delta, followed⟩ := Cascade.followed_of_update ran kept
  obtain ⟨other, below, cell⟩ :=
    ClassificationPass.stood_of_followed (g := config.grid) followed rfl rfl inside stays
  exact ⟨c, d, found', found, other, below, cell, cell.slotAt_eq⟩

omit [Scalar α] in
theorem HasKept.of_placement {g : Grid} (kept : HasKept g between now cascade index)
    (same : ∀ c, between.get cascade = .ok c →
      ∃ b, before.get cascade = .ok b ∧ b.placement = c.placement) :
    HasKept g before now cascade index := by
  obtain ⟨c, d, found, found', other, below, cell, slots⟩ := kept
  obtain ⟨b, found, stood⟩ := same c found
  refine ⟨b, d, found, found', other, below, ?_, ?_⟩
  · rwa [stood]
  · rwa [stood]

theorem not_isTrusted_first {viewPos : Vec3 α} (moved : (create config).update viewPos = .ok now) :
    ¬now.IsTrusted config cascade index := by
  intro trusted
  obtain ⟨pass, told, kept, -⟩ := trusted
  obtain ⟨d, found, told⟩ := bind_eq_ok.mp told
  obtain rfl := Except.ok.inj told
  obtain ⟨c, found', ran⟩ := (update_eq_ok moved).2.2 cascade d found
  have reset : d.reset = true := Cascade.reset_of_first ran (fresh_of_create found')
  exact absurd (reset.symm.trans kept) (by decide)

/-- Each move tells what it has done itself. The slot of a probe that is classified by it belonged
to the probe at the same cell just before the latest move; it did so at the last classification, if
the moves in between left the cascade where it was. The first classification trusts no probe if the
cascades have moved once. -/
theorem cells_kept (config : Config α) (frames : List (List (Vec3 α))) (skipped : List (Vec3 α))
    (viewPos : Vec3 α) (before between now : Cascades α)
    (classified : (create config).follow frames.flatten = .ok before)
    (moved : before.follow skipped = .ok between) (last : between.update viewPos = .ok now)
    (cascade index : Nat) (inside : index < config.grid.size)
    (trusted : now.IsTrusted config cascade index) :
    HasKept config.grid between now cascade index ∧
    ((∀ c, between.get cascade = .ok c →
      ∃ b, before.get cascade = .ok b ∧ b.placement = c.placement) →
      HasKept config.grid before now cascade index) ∧
    (skipped = [] → frames ≠ [] ∧ HasKept config.grid before now cascade index) := by
  have kept := hasKept_of_update last inside trusted
  refine ⟨kept, kept.of_placement, ?_⟩
  rintro rfl
  obtain rfl : before = between := Except.ok.inj moved
  refine ⟨?_, kept⟩
  rintro rfl
  obtain rfl : create config = before := Except.ok.inj classified
  exact not_isTrusted_first last trusted

/-- Moved by a plane and classified, the octet has kept the slots of the plane that stayed. -/
theorem cells_kept_octet : HasKept octetConfig.grid (octetCascades ⟨0, 0, 0⟩ true)
    ⟨⟨2, 2, 2⟩, #[⟨⟨⟨0, 0, 0⟩, 2, ⟨1, 0, 0⟩⟩, ⟨1, 0, 0⟩, ⟨1, 0, 0⟩, false, true⟩]⟩ 0 0 := by
  have started : (create octetConfig).follow [[(⟨0, 0, 0⟩ : Vec3 ℚ)]].flatten =
      .ok (octetCascades ⟨0, 0, 0⟩ true) := by decide +kernel
  have moved : (octetCascades ⟨0, 0, 0⟩ true).update ⟨2, 0, 0⟩ =
      .ok ⟨⟨2, 2, 2⟩, #[⟨⟨⟨0, 0, 0⟩, 2, ⟨1, 0, 0⟩⟩, ⟨1, 0, 0⟩, ⟨1, 0, 0⟩, false, true⟩]⟩ := by
    decide +kernel
  exact (cells_kept octetConfig [[⟨0, 0, 0⟩]] [] ⟨2, 0, 0⟩ _ _ _ started rfl moved 0 0 (by decide)
    ⟨_, rfl, rfl, by decide +kernel⟩).2.2 rfl |>.2

end Cascades

end IrradianceField
