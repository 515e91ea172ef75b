import IrradianceField.Proofs.History
import IrradianceField.Proofs.Numbering
import IrradianceField.Proofs.Skipping

/-!
Replacing: a grid that scrolls gives the slots of the probes that leave it to those that enter it, and
tells just these to start anew.
-/

namespace IrradianceField

namespace Grid

def Encloses (g : Grid) (p : Vec3 Int) : Prop :=
  (0 ≤ p.x ∧ p.x < g.counts.x) ∧ (0 ≤ p.y ∧ p.y < g.counts.y) ∧ 0 ≤ p.z ∧ p.z < g.counts.z

/-- Coordinates that a probe had before the grid moved by `m`, or has once it moves by `-m`. -/
def moved (m : Vec3 Int) (c : Vec3 Nat) : Vec3 Int := ⟨c.x + m.x, c.y + m.y, c.z + m.z⟩

/-- A grid that has scrolled from `scroll` to `scroll'` has moved by the difference. -/
structure MovesBy (scroll scroll' m : Vec3 Int) : Prop where
  x : scroll'.x = scroll.x + m.x
  y : scroll'.y = scroll.y + m.y
  z : scroll'.z = scroll.z + m.z

variable {g : Grid} {c d : Vec3 Nat} {scroll scroll' m : Vec3 Int}

instance {p : Vec3 Int} : Decidable (g.Encloses p) :=
  inferInstanceAs (Decidable ((_ ∧ _) ∧ (_ ∧ _) ∧ _ ∧ _))

theorem Encloses.contains {p : Vec3 Int} (inside : g.Encloses p) :
    g.Contains (p.map Int.toNat) := by
  obtain ⟨x, y, z⟩ := inside
  simp only [Contains, Vec3.map]
  omega

theorem MovesBy.reverse (moves : MovesBy scroll scroll' m) : MovesBy scroll' scroll (-m) := by
  obtain ⟨x, y, z⟩ := moves
  exact ⟨by rw [x]; exact (add_neg_cancel_right _ _).symm,
    by rw [y]; exact (add_neg_cancel_right _ _).symm,
    by rw [z]; exact (add_neg_cancel_right _ _).symm⟩

theorem moved_back (inside : g.Encloses (moved (-m) c)) :
    moved m ((moved (-m) c).map Int.toNat) = ⟨c.x, c.y, c.z⟩ := by
  obtain ⟨⟨x, -⟩, ⟨y, -⟩, z, -⟩ := inside
  have axis : ∀ (n : Nat) (a : Int), 0 ≤ (n : Int) + -a → (((n : Int) + -a).toNat : Int) + a = n :=
    fun n a low => by omega
  exact (Vec3.mk.injEq ..).mpr ⟨axis c.x m.x x, axis c.y m.y y, axis c.z m.z z⟩

theorem MovesBy.wrapAt_moved (moves : MovesBy scroll scroll' m) (inside : g.Encloses (moved m c)) :
    g.wrapAt scroll' c = g.wrapAt scroll ((moved m c).map Int.toNat) := by
  obtain ⟨⟨x, -⟩, ⟨y, -⟩, z, -⟩ := inside
  obtain ⟨mx, my, mz⟩ := moves
  simp only [moved] at x y z
  simp only [wrapAt, moved, Vec3.map, Vec3.mk.injEq]
  exact ⟨wrapAxis_congr (by omega), wrapAxis_congr (by omega), wrapAxis_congr (by omega)⟩

theorem MovesBy.exists_left (moves : MovesBy scroll scroll' m) (inside : g.Contains c)
    (entered : ¬g.Encloses (moved m c)) :
    ∃ d, g.Contains d ∧ ¬g.Encloses (moved (-m) d) ∧ g.wrapAt scroll d = g.wrapAt scroll' c := by
  let d := g.unwrapAt scroll (g.wrapAt scroll' c)
  have contained : g.Contains d := unwrapAt_contained (wrapAt_contained inside)
  have slot : g.wrapAt scroll d = g.wrapAt scroll' c := wrapAt_unwrapAt (wrapAt_contained inside)
  refine ⟨d, contained, fun stays => entered ?_, slot⟩
  have back := moved_back stays
  have within : g.Encloses (moved m ((moved (-m) d).map Int.toNat)) := by
    obtain ⟨x, y, z⟩ := contained
    rw [back]
    simp only [Encloses]
    omega
  -- where the probe went to has the slot of `c`, so it would be `c` itself
  have same : (moved (-m) d).map Int.toNat = c := by
    have slots : g.wrapAt scroll' ((moved (-m) d).map Int.toNat) = g.wrapAt scroll' c := by
      rw [moves.wrapAt_moved within, back]
      exact slot
    exact wrapAt_inj stays.contains inside slots
  rwa [same] at within

theorem wrappedIndex_eq_of_fits (fits : g.Fits scroll) (inside : g.Contains c) :
    g.wrappedIndex scroll c = g.probeIndex (g.wrapAt scroll c) := by
  rw [wrappedIndex, wrappedCoords_of_fits fits inside, ok_bind]

end Grid

namespace ClassificationPass

variable {pass : ClassificationPass} {g : Grid} {c : Vec3 Nat} {m scroll scroll' : Vec3 Int}

theorem entered_eq {coord count : Nat} {delta : Int} (inside : coord < count)
    (short : delta.natAbs < count) (small : count < 2147483648) :
    entered coord count delta.natAbs delta.sign =
      .ok (!decide (0 ≤ coord + delta ∧ coord + delta < count)) := by
  rw [entered]
  rcases Int.lt_trichotomy delta 0 with backward | rfl | forward
  · rw [if_neg (by omega), if_neg (by rw [Int.sign_pos_iff]; omega), pure_eq_ok]
    congr 1
    rw [← decide_not, decide_eq_decide]
    omega
  · rw [if_pos Int.natAbs_zero, pure_eq_ok]
    congr 1
    rw [eq_comm, Bool.not_eq_false', decide_eq_true_eq]
    omega
  · have sum : Word.add coord delta.natAbs = .ok (coord + delta.natAbs) :=
      Word.add_eq_ok.mpr ⟨rfl, by omega⟩
    rw [if_neg (by omega), if_pos (Int.sign_pos_iff.mpr forward), sum, ok_bind, pure_eq_ok]
    congr 1
    rw [← decide_not, decide_eq_decide]
    omega

theorem isScrolledIn_eq (clear : pass.scrollClear = m.map Int.natAbs)
    (directions : pass.scrollDirections = m.map Int.sign) (inside : g.Contains c)
    (short : ¬Cascade.IsLeap g.counts m) (small : g.IsSmall) :
    pass.isScrolledIn c g.counts = .ok (!decide (g.Encloses (Grid.moved m c))) := by
  obtain ⟨ix, iy, iz⟩ := inside
  obtain ⟨sx, sy, sz⟩ := small
  simp only [Cascade.IsLeap, not_or, Nat.not_le] at short
  have x := entered_eq ix short.1 sx
  have y := entered_eq iy short.2.1 sy
  have z := entered_eq iz short.2.2 sz
  have whole : decide (g.Encloses (Grid.moved m c)) =
      (decide (0 ≤ c.x + m.x ∧ c.x + m.x < g.counts.x) &&
        (decide (0 ≤ c.y + m.y ∧ c.y + m.y < g.counts.y) &&
          decide (0 ≤ c.z + m.z ∧ c.z + m.z < g.counts.z))) := by
    rw [← Bool.decide_and, ← Bool.decide_and]
    rfl
  rw [isScrolledIn, clear, directions, whole]
  simp only [Vec3.map, x, y, z, ok_bind]
  generalize decide (0 ≤ c.x + m.x ∧ c.x + m.x < g.counts.x) = bx
  generalize decide (0 ≤ c.y + m.y ∧ c.y + m.y < g.counts.y) = by'
  cases bx with
  | false => rfl
  | true =>
      cases by' with
      | false => rfl
      | true => rfl

/-- The pass takes for new just the probes that a move by `m` has brought into the grid. All others
are looked up where they were before, and the new ones where the probes were that have left. -/
structure Replaces (pass : ClassificationPass) (g : Grid) (m : Vec3 Int)
    (before now : Vec3 Nat → Except Fault Nat) : Prop where
  told : ∀ c, g.Contains c →
    pass.isScrolledIn c g.counts = .ok (!decide (g.Encloses (Grid.moved m c)))
  kept : ∀ c, g.Contains c → pass.isScrolledIn c g.counts = .ok false →
    now c = before ((Grid.moved m c).map Int.toNat)
  reused : {slot | ∃ c, g.Contains c ∧ pass.isScrolledIn c g.counts = .ok true ∧ now c = .ok slot} =
    {slot | ∃ d, g.Contains d ∧ ¬g.Encloses (Grid.moved (-m) d) ∧ before d = .ok slot}
  found : g.size < 4294967296 → ∀ c, g.Contains c →
    (∃ slot < g.size, before c = .ok slot) ∧ ∃ slot < g.size, now c = .ok slot

theorem replaces_of_movesBy (moves : Grid.MovesBy scroll scroll' m)
    (clear : pass.scrollClear = m.map Int.natAbs) (directions : pass.scrollDirections = m.map Int.sign)
    (short : ¬Cascade.IsLeap g.counts m) (fits : g.Fits scroll) (fits' : g.Fits scroll') :
    pass.Replaces g m (g.wrappedIndex scroll) (g.wrappedIndex scroll') := by
  have told : ∀ c, g.Contains c →
      pass.isScrolledIn c g.counts = .ok (!decide (g.Encloses (Grid.moved m c))) :=
    fun c inside => isScrolledIn_eq clear directions inside short fits.isSmall
  refine ⟨told, ?_, ?_, ?_⟩
  · intro c inside kept
    have stood : g.Encloses (Grid.moved m c) := by simpa [told c inside] using kept
    rw [Grid.wrappedIndex_eq_of_fits fits' inside, moves.wrapAt_moved stood,
      Grid.wrappedIndex_eq_of_fits fits stood.contains]
  · ext slot
    constructor
    · rintro ⟨c, inside, entered, looked⟩
      have outside : ¬g.Encloses (Grid.moved m c) := by simpa [told c inside] using entered
      obtain ⟨d, inside', left, same⟩ := moves.exists_left inside outside
      refine ⟨d, inside', left, ?_⟩
      rw [Grid.wrappedIndex_eq_of_fits fits inside', same,
        ← Grid.wrappedIndex_eq_of_fits fits' inside]
      exact looked
    · rintro ⟨d, inside, left, looked⟩
      obtain ⟨c, inside', entered, same⟩ := moves.reverse.exists_left inside left
      have twice : - -m = m := (Vec3.mk.injEq ..).mpr ⟨neg_neg _, neg_neg _, neg_neg _⟩
      rw [twice] at entered
      refine ⟨c, inside', by simp [told c inside', entered], ?_⟩
      rw [Grid.wrappedIndex_eq_of_fits fits' inside', same,
        ← Grid.wrappedIndex_eq_of_fits fits inside]
      exact looked
  · intro words c inside
    have lookup : ∀ {s : Vec3 Int}, g.Fits s → ∃ slot < g.size, g.wrappedIndex s c = .ok slot := by
      intro s fits
      have wrapped : g.Contains (g.wrapAt s c) := Grid.wrapAt_contained inside
      refine ⟨_, Grid.indexAt_lt wrapped, ?_⟩
      rw [Grid.wrappedIndex_eq_of_fits fits inside]
      exact Grid.probeIndex_of_contained words wrapped
    exact ⟨lookup fits, lookup fits'⟩

end ClassificationPass

namespace Cascade

variable {α : Type} [Scalar α] {c d : Cascade α} {viewPos : Vec3 α} {counts : Vec3 Nat}

theorem initialized_of_update (ran : c.update viewPos counts = .ok d) : d.initialized = true := by
  obtain ⟨-, ⟨-, rfl⟩ | ⟨⟨initialized, -⟩, -, rfl⟩⟩ := update_eq_ok.mp ran
  · rfl
  · exact initialized

end Cascade

namespace Cascades

variable {α : Type} [Scalar α] {config : Config α} {before now : Cascades α} {cascade : Nat}
  {c d : Cascade α}

theorem counts_of_follow {views : List (Vec3 α)}
    (reached : (create config).follow views = .ok before) : before.counts = config.probesCounts :=
  foldlM_keeps (fun c : Cascades α => c.counts = config.probesCounts)
    (fun _ _ _ _ kept ran => (update_eq_ok ran).1.trans kept) rfl reached

theorem initialized_iff_of_follow {views : List (Vec3 α)}
    (reached : (create config).follow views = .ok before) (stands : before.get cascade = .ok c) :
    c.initialized = false ↔ views = [] := by
  rcases List.eq_nil_or_concat views with rfl | ⟨earlier, last, rfl⟩
  · obtain rfl : create config = before := Except.ok.inj reached
    exact iff_of_true (fresh_of_create stands) rfl
  · rw [List.concat_eq_append] at reached ⊢
    obtain ⟨between, -, reached⟩ := foldlM_append_eq_ok.mp reached
    obtain ⟨_, moved, ended⟩ := foldlM_cons_eq_ok.mp reached
    obtain rfl := Except.ok.inj ended
    obtain ⟨b, -, ran⟩ := (update_eq_ok moved).2.2 cascade c stands
    rw [Cascade.initialized_of_update ran]
    simp

theorem wrappedIndex_of_volume {viewPos : Vec3 α} {rotation : Quat α} {v : Volume α}
    (made : before.volume config viewPos rotation = .ok v) (stands : before.get cascade = .ok c) :
    v.wrappedIndex cascade = config.grid.wrappedIndex c.placement.scroll := by
  obtain ⟨grid, -, -, -, placed⟩ := volume_eq_ok made
  funext coords
  rw [Volume.wrappedIndex, placed cascade c stands, ok_bind, grid]
  rfl

omit [Scalar α] in
theorem scrolls_of_classificationPass {pass : ClassificationPass}
    (told : before.classificationPass config cascade = .ok pass)
    (stands : before.get cascade = .ok c) :
    pass.scrollClear = c.scrollClear ∧ pass.scrollDirections = c.scrollDirections := by
  rw [classificationPass, stands, ok_bind] at told
  obtain rfl := Except.ok.inj told
  exact ⟨rfl, rfl⟩

/-- A cascade starts anew with the first view and with leaps, and only with these. Otherwise it
follows by fewer probes than it has along each axis, and the pass that is told so takes for new just
the probes that were not in the grid before, in the slots of those that are no longer in it. -/
theorem replaces_entered (config : Config α) (views : List (Vec3 α)) (viewPos : Vec3 α)
    (before now : Cascades α) (cascade : Nat) (c d : Cascade α)
    (reached : (create config).follow views = .ok before) (moved : before.update viewPos = .ok now)
    (stood : before.get cascade = .ok c) (stands : now.get cascade = .ok d) :
    (d.reset = true ↔ views = [] ∨ Cascade.IsLeap config.probesCounts (c.move viewPos)) ∧
    (d.reset = true → d.placement.scroll = ⟨0, 0, 0⟩ ∧ d.scrollClear = ⟨0, 0, 0⟩ ∧
      d.scrollDirections = ⟨0, 0, 0⟩) ∧
    (d.reset = false → Cascade.Followed c d (c.move viewPos) ∧
      ((c.move viewPos).x.natAbs < config.probesCounts.x ∧
        (c.move viewPos).y.natAbs < config.probesCounts.y ∧
        (c.move viewPos).z.natAbs < config.probesCounts.z) ∧
      ∀ (seen seen' : Vec3 α) (turned turned' : Quat α) (old new : Volume α)
        (pass : ClassificationPass), before.volume config seen turned = .ok old →
        now.volume config seen' turned' = .ok new →
        now.classificationPass config cascade = .ok pass → config.grid.Fits c.placement.scroll →
        config.grid.Fits d.placement.scroll →
        pass.Replaces config.grid (c.move viewPos) (old.wrappedIndex cascade)
          (new.wrappedIndex cascade)) := by
  obtain ⟨b, held, ran⟩ := (update_eq_ok moved).2.2 cascade d stands
  obtain rfl : b = c := Except.ok.inj (held.symm.trans stood)
  rw [counts_of_follow reached] at ran
  obtain ⟨-, ⟨anew, rfl⟩ | ⟨⟨initialized, short⟩, -, rfl⟩⟩ := Cascade.update_eq_ok.mp ran
  · rw [initialized_iff_of_follow reached stood] at anew
    exact ⟨iff_of_true rfl anew, fun _ => ⟨rfl, rfl, rfl⟩,
      fun kept => absurd kept.symm Bool.false_ne_true⟩
  · have seen : views ≠ [] := fun none =>
      absurd ((initialized_iff_of_follow reached stood).mpr none) (by simp [initialized])
    refine ⟨iff_of_false Bool.false_ne_true (not_or.mpr ⟨seen, short⟩),
      fun anew => absurd anew Bool.false_ne_true, fun _ => ?_⟩
    have followed := Cascade.followed_scrolled b viewPos
    refine ⟨followed, by simpa only [Cascade.IsLeap, not_or, Nat.not_le] using short, ?_⟩
    intro seen seen' turned turned' old new pass made made' told fits fits'
    obtain ⟨clear, directions⟩ := scrolls_of_classificationPass told stands
    rw [wrappedIndex_of_volume made stood, wrappedIndex_of_volume made' stands]
    exact ClassificationPass.replaces_of_movesBy ⟨followed.x, followed.y, followed.z⟩ clear directions
      short fits fits'

def obliqueConfig : Config Float32 :=
  { Config.standard with
    cascades := 2
    probesCounts := ⟨3, 2, 4⟩ }

/-- The cascades after a view at the origin and one that the outer cascade follows by a step. -/
def obliqueBefore : Cascades Float32 :=
  ⟨⟨3, 2, 4⟩, #[⟨⟨⟨0, 0, 0⟩, 2, ⟨2, 0, 0⟩⟩, ⟨2, 0, 0⟩, ⟨1, 0, 0⟩, false, true⟩,
    ⟨⟨⟨0, 0, 0⟩, 4, ⟨1, 0, 0⟩⟩, ⟨1, 0, 0⟩, ⟨1, 0, 0⟩, false, true⟩]⟩

/-- The next view is a leap for the inner cascade and some steps along all axes for the outer. -/
def obliqueNow : Cascades Float32 :=
  ⟨⟨3, 2, 4⟩, #[⟨⟨⟨12, -4, 8⟩, 2, ⟨0, 0, 0⟩⟩, ⟨0, 0, 0⟩, ⟨0, 0, 0⟩, true, true⟩,
    ⟨⟨⟨0, 0, 0⟩, 4, ⟨3, -1, 2⟩⟩, ⟨2, 1, 2⟩, ⟨1, -1, 1⟩, false, true⟩]⟩

theorem replaces_entered_oblique :
    ∃ old new pass, obliqueBefore.volume obliqueConfig ⟨4, 0, 0⟩ .identity = .ok old ∧
      obliqueNow.volume obliqueConfig ⟨12, -4, 8⟩ .identity = .ok new ∧
      obliqueNow.classificationPass obliqueConfig 1 = .ok pass ∧
      pass.Replaces obliqueConfig.grid ⟨2, -1, 2⟩ (old.wrappedIndex 1) (new.wrappedIndex 1) := by
  have reached : (create obliqueConfig).follow [⟨0, 0, 0⟩, ⟨4, 0, 0⟩] = .ok obliqueBefore := by
    decide +kernel
  have moved : obliqueBefore.update ⟨12, -4, 8⟩ = .ok obliqueNow := by decide +kernel
  have step : obliqueBefore.items[1].move ⟨12, -4, 8⟩ = ⟨2, -1, 2⟩ := by decide +kernel
  obtain ⟨-, -, scrolls⟩ := replaces_entered obliqueConfig _ _ _ _ 1 _ _ reached moved rfl rfl
  have replaces := (scrolls rfl).2.2 ⟨4, 0, 0⟩ ⟨12, -4, 8⟩ .identity .identity _ _ _ rfl rfl rfl
    (by decide) (by decide)
  rw [step] at replaces
  exact ⟨_, _, _, rfl, rfl, rfl, replaces⟩

end Cascades

end IrradianceField
