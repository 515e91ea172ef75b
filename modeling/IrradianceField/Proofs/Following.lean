import IrradianceField.Proofs.Compositing

/-!
Following: after every update the centre of a grid is at the view, as long as the lattice of the grid
has words for that, and while it scrolls its probes stand where others have stood before.
-/

namespace IrradianceField

open Scalar

theorem Scalar.toInt_round_near_iff {a : ℝ} : |a - toInt (Scalar.round a)| ≤ 1 / 2 ↔
    -2147483648.5 ≤ a ∧ a ≤ 2147483647.5 := by
  obtain ⟨n, whole, near⟩ := round_near_real a
  have cut : toInt (Scalar.round a) = max (-2147483648) (min n 2147483647) := by
    rw [whole, toInt_real, Int.floor_intCast, Int.ceil_intCast, ite_self]
  have halves : (-2147483648.5 : ℝ) = -2147483648 - 1 / 2 ∧
      (2147483647.5 : ℝ) = 2147483647 + 1 / 2 := by norm_num
  obtain ⟨low, high⟩ := abs_le.mp near
  rw [cut, abs_le, halves.1, halves.2]
  rcases lt_or_ge n (-2147483648) with below | least
  · have first : max (-2147483648) (min n 2147483647) = -2147483648 := by omega
    have before : (n : ℝ) ≤ -2147483649 := by exact_mod_cast Int.le_sub_one_of_lt below
    rw [first]
    push_cast
    exact ⟨fun near => ⟨by linarith, by linarith⟩, fun near => ⟨by linarith, by linarith⟩⟩
  · rcases lt_or_ge 2147483647 n with above | most
    · have last : max (-2147483648) (min n 2147483647) = 2147483647 := by omega
      have beyond : (2147483648 : ℝ) ≤ n := by exact_mod_cast above
      rw [last]
      push_cast
      exact ⟨fun near => ⟨by linarith, by linarith⟩, fun near => ⟨by linarith, by linarith⟩⟩
    · have inside : max (-2147483648) (min n 2147483647) = n := by omega
      have least : (-2147483648 : ℝ) ≤ n := by exact_mod_cast least
      have most : (n : ℝ) ≤ 2147483647 := by exact_mod_cast most
      rw [inside]
      exact iff_of_true ⟨by linarith, by linarith⟩ ⟨by linarith, by linarith⟩

namespace Cascade

variable {c d : Cascade ℝ} {viewPos : Vec3 ℝ} {counts : Vec3 Nat}

/-- Along every axis, one of the points of the lattice that words can count from the origin of the
grid is at the view. -/
def Reaches (c : Cascade ℝ) (viewPos : Vec3 ℝ) : Prop :=
  ∀ axis, -2147483648.5 ≤
      (viewPos.axis axis - c.placement.origin.axis axis) / c.placement.spacing ∧
    (viewPos.axis axis - c.placement.origin.axis axis) / c.placement.spacing ≤ 2147483647.5

theorem near_center_iff (positive : 0 < c.placement.spacing) (axis : Nat) :
    |viewPos.axis axis - c.center.axis axis| ≤ c.placement.spacing / 2 ↔
      |(viewPos.axis axis - c.placement.origin.axis axis) / c.placement.spacing -
        c.placement.scroll.axis axis| ≤ 1 / 2 := by
  have units : viewPos.axis axis - c.center.axis axis =
      ((viewPos.axis axis - c.placement.origin.axis axis) / c.placement.spacing -
        c.placement.scroll.axis axis) * c.placement.spacing := by
    rw [center_axis, sub_mul, div_mul_cancel₀ _ positive.ne', sub_sub]
  have half : c.placement.spacing / 2 = 1 / 2 * c.placement.spacing := by ring
  rw [units, abs_mul, abs_of_pos positive, half, mul_le_mul_iff_left₀ positive]

theorem reaches_restart (c : Cascade ℝ) (viewPos : Vec3 ℝ) (positive : 0 < c.placement.spacing) :
    (c.restart viewPos).Reaches viewPos := by
  intro axis
  have near := (near_center_iff (c := c.restart viewPos) positive axis).mp
    (isCentred_restart c viewPos positive axis)
  have still : (c.restart viewPos).placement.scroll.axis axis = 0 := Vec3.axis_splat 0 axis
  rw [still, Int.cast_zero, sub_zero] at near
  obtain ⟨low, high⟩ := abs_le.mp near
  norm_num at low high ⊢
  exact ⟨by linarith, by linarith⟩

theorem isCentred_iff_of_update (ran : c.update viewPos counts = .ok d)
    (positive : 0 < c.placement.spacing) : d.IsCentred viewPos ↔ d.Reaches viewPos := by
  obtain ⟨-, ⟨-, rfl⟩ | ⟨-, -, rfl⟩⟩ := update_eq_ok.mp ran
  · exact iff_of_true (isCentred_restart c viewPos positive) (reaches_restart c viewPos positive)
  · have positive' : 0 < (c.scrolled viewPos).placement.spacing := positive
    have each : ∀ axis,
        |viewPos.axis axis - (c.scrolled viewPos).center.axis axis| ≤ c.placement.spacing / 2 ↔
          -2147483648.5 ≤
              (viewPos.axis axis - c.placement.origin.axis axis) / c.placement.spacing ∧
            (viewPos.axis axis - c.placement.origin.axis axis) / c.placement.spacing ≤
              2147483647.5 := by
      intro axis
      rw [← toInt_round_near_iff, ← target_axis]
      exact near_center_iff positive' axis
    exact forall_congr' each

theorem scroll_of_update (ran : c.update viewPos counts = .ok d) (axis : Nat) :
    (d.placement.scroll.axis axis).natAbs ≤
      (c.placement.scroll.axis axis).natAbs + counts.axis axis := by
  obtain ⟨-, ⟨-, rfl⟩ | ⟨⟨-, short⟩, -, rfl⟩⟩ := update_eq_ok.mp ran
  · have still : (c.restart viewPos).placement.scroll.axis axis = 0 := Vec3.axis_splat 0 axis
    rw [still]
    exact Nat.zero_le _
  · have step : ∀ target scroll : Int, ∀ count : Nat, ¬count ≤ (target - scroll).natAbs →
        target.natAbs ≤ scroll.natAbs + count := fun _ _ _ _ => by omega
    obtain ⟨x, yz⟩ := not_or.mp short
    obtain ⟨y, z⟩ := not_or.mp yz
    rcases axis with _ | _ | _
    · exact step _ _ _ x
    · exact step _ _ _ y
    · exact step _ _ _ z

end Cascade

namespace Cascades

variable {config : Config ℝ} {views : List (Vec3 ℝ)} {viewPos : Vec3 ℝ} {before now : Cascades ℝ}
  {cascade : Nat} {c d : Cascade ℝ}

theorem follow_snoc (reached : (create config).follow views = .ok before)
    (moved : before.update viewPos = .ok now) :
    (create config).follow (views ++ [viewPos]) = .ok now :=
  foldlM_append_eq_ok.mpr ⟨before, reached, foldlM_cons_eq_ok.mpr ⟨now, moved, rfl⟩⟩

theorem scroll_of_follow (reached : (create config).follow views = .ok before)
    (stood : before.get cascade = .ok c) (axis : Nat) :
    (c.placement.scroll.axis axis).natAbs ≤ views.length * config.probesCounts.axis axis := by
  induction views using List.reverseRecOn generalizing before c with
  | nil =>
      obtain rfl := Except.ok.inj reached
      have fresh : c.placement.scroll = ⟨0, 0, 0⟩ := by
        rw [get_eq_ok, create, List.getElem?_toArray, List.getElem?_map,
          Option.map_eq_some_iff] at stood
        obtain ⟨i, -, rfl⟩ := stood
        rfl
      have still : (⟨0, 0, 0⟩ : Vec3 Int).axis axis = 0 := Vec3.axis_splat 0 axis
      rw [fresh, still]
      exact Nat.zero_le _
  | append_singleton earlier last ih =>
      obtain ⟨between, started, reached⟩ := foldlM_append_eq_ok.mp reached
      obtain ⟨_, moved, ended⟩ := foldlM_cons_eq_ok.mp reached
      obtain rfl := Except.ok.inj ended
      obtain ⟨b, held, ran⟩ := (update_eq_ok moved).2.2 cascade c stood
      rw [counts_of_follow started] at ran
      calc
        (c.placement.scroll.axis axis).natAbs ≤
            (b.placement.scroll.axis axis).natAbs + config.probesCounts.axis axis :=
          Cascade.scroll_of_update ran axis
        _ ≤ earlier.length * config.probesCounts.axis axis + config.probesCounts.axis axis :=
          Nat.add_le_add_right (ih started held) _
        _ = (earlier ++ [last]).length * config.probesCounts.axis axis := by
          rw [List.length_append, List.length_singleton, Nat.succ_mul]

theorem volume_ends (few : before.items.size ≤ maxCascades) (viewPos : Vec3 ℝ) (rotation : Quat ℝ) :
    ∃ v, before.volume config viewPos rotation = .ok v := by
  have placed : ∃ placements, before.placements = .ok placements := by
    rw [placements, if_neg few.not_gt]
    exact ⟨_, rfl⟩
  exact bind_ends placed fun placements => ⟨_, rfl⟩

theorem center_of_volume {viewPos : Vec3 ℝ} {rotation : Quat ℝ} {v : Volume ℝ}
    (made : now.volume config viewPos rotation = .ok v) (stands : now.get cascade = .ok d) :
    v.center cascade = .ok d.center := by
  obtain ⟨-, -, -, -, placed⟩ := volume_eq_ok made
  exact Volume.center_of_placement (placed cascade d stands)

theorem position_of_moved {scroll scroll' n : Int} {i : Nat} (origin spacing extent : ℝ)
    (moved : scroll' = scroll + n) (low : 0 ≤ (i : Int) + n) :
    origin + scroll * spacing + (((i : Int) + n).toNat : ℝ) * spacing - extent =
      origin + scroll' * spacing + i * spacing - extent := by
  have whole : ((((i : Int) + n).toNat : Int) : ℝ) = ((i : Int) + n : Int) := by
    rw [Int.toNat_of_nonneg low]
  rw [moved]
  push_cast at whole ⊢
  rw [whole]
  ring

theorem basePosition_of_movesBy {seen seen' : Vec3 ℝ} {turned turned' : Quat ℝ} {old new : Volume ℝ}
    {m : Vec3 Int} {coords : Vec3 Nat} (made : before.volume config seen turned = .ok old)
    (made' : now.volume config seen' turned' = .ok new) (stood : before.get cascade = .ok c)
    (stands : now.get cascade = .ok d) (origin : d.placement.origin = c.placement.origin)
    (spacing : d.placement.spacing = c.placement.spacing)
    (moves : Grid.MovesBy c.placement.scroll d.placement.scroll m)
    (inside : config.grid.Contains coords) (stays : config.grid.Encloses (Grid.moved m coords)) :
    ∃ pos, new.basePosition cascade coords = .ok pos ∧
      old.basePosition cascade ((Grid.moved m coords).map Int.toNat) = .ok pos := by
  obtain ⟨grid, -, -, -, placed⟩ := volume_eq_ok made
  obtain ⟨grid', -, -, -, placed'⟩ := volume_eq_ok made'
  have counts : old.grid.counts = config.probesCounts := by rw [grid]
  have counts' : new.grid.counts = config.probesCounts := by rw [grid']
  have some : 0 < config.probesCounts.x ∧ 0 < config.probesCounts.y ∧ 0 < config.probesCounts.z :=
    ⟨Nat.zero_lt_of_lt inside.1, Nat.zero_lt_of_lt inside.2.1, Nat.zero_lt_of_lt inside.2.2⟩
  have was := Volume.basePosition_of_placement (placed cascade c stood) (counts.symm ▸ some)
    ((Grid.moved m coords).map Int.toNat)
  have is := Volume.basePosition_of_placement (placed' cascade d stands) (counts'.symm ▸ some) coords
  refine ⟨_, is, was.trans (congrArg Except.ok ?_)⟩
  rw [counts, counts', origin, spacing]
  obtain ⟨⟨x, -⟩, ⟨y, -⟩, z, -⟩ := stays
  simp only [Vec3.add_eq, Vec3.sub_eq, Vec3.scale_eq, Vec3.ofInt, Vec3.ofNat, Vec3.map, Grid.moved,
    ofNat_real, ofInt_real, Vec3.mk.injEq]
  exact ⟨position_of_moved _ _ _ moves.x x, position_of_moved _ _ _ moves.y y,
    position_of_moved _ _ _ moves.z z⟩

/-- After every update, along each axis, the centre of a grid is at most half a spacing away from
the view if and only if the points of its lattice that words can count reach there. They do when the
grid has just started anew, and in every run that is too short to scroll it to the end of the words.
The centre is the one that a volume tells, and while the grid scrolls, a probe stands where the
probe that is as many steps further on stood before. -/
theorem follows_view (config : Config ℝ) (views : List (Vec3 ℝ)) (viewPos : Vec3 ℝ)
    (before now : Cascades ℝ) (cascade : Nat) (c d : Cascade ℝ)
    (spaced : 0 < config.cascadeSpacing cascade)
    (reached : (create config).follow views = .ok before) (moved : before.update viewPos = .ok now)
    (stood : before.get cascade = .ok c) (stands : now.get cascade = .ok d) :
    (d.IsCentred viewPos ↔ d.Reaches viewPos) ∧
    (d.reset = true → d.IsCentred viewPos) ∧
    ((∀ axis, (views.length + 1) * config.probesCounts.axis axis < 2147483647) →
      d.IsCentred viewPos) ∧
    (config.cascades ≤ maxCascades →
      ∀ seen turned, ∃ v, now.volume config seen turned = .ok v) ∧
    (∀ seen turned v, now.volume config seen turned = .ok v → v.center cascade = .ok d.center) ∧
    (d.reset = false → ∀ (m : Vec3 Int) (seen seen' : Vec3 ℝ) (turned turned' : Quat ℝ)
      (old new : Volume ℝ), Grid.MovesBy c.placement.scroll d.placement.scroll m →
      before.volume config seen turned = .ok old → now.volume config seen' turned' = .ok new →
      ∀ coords, config.grid.Contains coords → config.grid.Encloses (Grid.moved m coords) →
        ∃ pos, new.basePosition cascade coords = .ok pos ∧
          old.basePosition cascade ((Grid.moved m coords).map Int.toNat) = .ok pos) := by
  obtain ⟨-, sizes, each⟩ := update_eq_ok moved
  obtain ⟨b, held, ran⟩ := each cascade d stands
  obtain rfl := Except.ok.inj (held.symm.trans stood)
  have positive : 0 < b.placement.spacing := by
    rwa [(isOfConfig_of_follow reached).spacing cascade b stood]
  refine ⟨Cascade.isCentred_iff_of_update ran positive, ?_, ?_, ?_, ?_, ?_⟩
  · intro anew
    obtain ⟨-, ⟨-, rfl⟩ | ⟨-, -, rfl⟩⟩ := Cascade.update_eq_ok.mp ran
    · exact Cascade.isCentred_restart b viewPos positive
    · exact absurd anew Bool.false_ne_true
  · intro short
    refine Cascade.isCentred_of_update ran positive fun axis => ?_
    have scrolled := scroll_of_follow (follow_snoc reached moved) stands axis
    rw [List.length_append, List.length_singleton] at scrolled
    have few := short axis
    omega
  · intro few seen turned
    exact volume_ends (sizes.trans (isOfConfig_of_follow reached).size ▸ few) seen turned
  · exact fun _ _ _ made => center_of_volume made stands
  · intro kept m seen seen' turned turned' old new moves made made' coords inside stays
    obtain ⟨delta, followed⟩ := Cascade.followed_of_update ran kept
    exact basePosition_of_movesBy made made' stood stands followed.origin followed.spacing moves inside
      stays

end Cascades

section East

/-- A grid that has scrolled so many probes to the right of the origin. -/
structure Cascade.IsEast (spacing : ℝ) (n : Nat) (c : Cascade ℝ) : Prop where
  started : c.initialized = true
  placed : c.placement = ⟨.zero, spacing, ⟨n, 0, 0⟩⟩

variable {c d : Cascade ℝ} {spacing x : ℝ} {n m : Nat} {counts : Vec3 Nat}

theorem Scalar.toInt_round_natCast (n : Nat) :
    toInt (Scalar.round (n : ℝ)) = (min n 2147483647 : Nat) := by
  have cut : (if (0 : ℝ) ≤ n then ⌊(n : ℝ)⌋ else ⌈(n : ℝ)⌉) = n := by
    rw [if_pos n.cast_nonneg, Int.floor_natCast]
  rw [round_natCast_real, toInt_real, cut]
  omega

namespace Cascade.IsEast

theorem restart (spacing : ℝ) : ((ofSpacing spacing).restart .zero).IsEast spacing 0 :=
  ⟨rfl, Simulation.restart_ofSpacing spacing⟩

theorem update (east : c.IsEast spacing n) (units : x / spacing = m) (ahead : n ≤ m)
    (least : n ≤ 2147483647) (short : min m 2147483647 - n < counts.x) (y : 0 < counts.y)
    (z : 0 < counts.z) :
    ∃ d, c.update ⟨x, 0, 0⟩ counts = .ok d ∧ d.IsEast spacing (min m 2147483647) ∧
      d.reset = false := by
  have still : toInt (Scalar.round ((0 - 0.0 : ℝ) / spacing)) = 0 := by
    have zero := toInt_round_natCast 0
    simpa using zero
  have right : toInt (Scalar.round ((x - 0.0) / spacing)) = (min m 2147483647 : Nat) := by
    rw [real_zero, sub_zero, units, toInt_round_natCast]
  have target : c.target ⟨x, 0, 0⟩ = ⟨(min m 2147483647 : Nat), 0, 0⟩ := by
    rw [Cascade.target, east.placed, Vec3.mk.injEq]
    exact ⟨right, still, still⟩
  have move : c.move ⟨x, 0, 0⟩ = ⟨(min m 2147483647 : Nat) - (n : Int), 0, 0⟩ := by
    rw [Cascade.move, target, east.placed]
    rfl
  have countable : IsCountable (c.move ⟨x, 0, 0⟩) := by
    rw [move]
    simp only [IsCountable]
    omega
  have near : ¬IsLeap counts (c.move ⟨x, 0, 0⟩) := by
    rw [move]
    simp only [IsLeap, Int.natAbs_zero]
    omega
  have signed : IsSigned (c.target ⟨x, 0, 0⟩) := by
    rw [target]
    simp only [IsSigned]
    omega
  refine ⟨c.scrolled ⟨x, 0, 0⟩,
    update_eq_ok.mpr ⟨countable, .inr ⟨⟨east.started, near⟩, signed, rfl⟩⟩, ⟨east.started, ?_⟩, rfl⟩
  rw [scrolled, target, east.placed]

theorem near (east : d.IsEast spacing m) (centred : d.IsCentred ⟨x, 0, 0⟩) :
    |x - m * spacing| ≤ spacing / 2 := by
  have along : |x - d.center.axis 0| ≤ d.placement.spacing / 2 := centred 0
  rw [center_axis, east.placed] at along
  simpa [Vec3.axis, Vec3.zero, Vec3.splat] using along

end Cascade.IsEast

namespace Cascades

theorem update_single {viewPos : Vec3 ℝ} (ran : c.update viewPos counts = .ok d) :
    (⟨counts, #[c]⟩ : Cascades ℝ).update viewPos = .ok ⟨counts, #[d]⟩ := by
  rw [update]
  simp only [Array.mapM_eq_mapM_toList, List.mapM_cons, List.mapM_nil, ran, ok_bind, pure_eq_ok]
  rfl

theorem follow_origin_single (config : Config ℝ) (one : config.cascades = 1) :
    (create config).follow [.zero] = .ok ⟨config.probesCounts,
      #[(Cascade.ofSpacing (config.cascadeSpacing 0)).restart .zero]⟩ := by
  rw [Sampler.follow_origin, Sampler.atOrigin, one]
  rfl

/-- A grid that follows the view by one probe to the right. -/
theorem follows_view_air : ∃ before now c d old new,
    (create Simulation.airConfig).follow [.zero] = .ok before ∧
    before.update ⟨1, 0, 0⟩ = .ok now ∧ before.get 0 = .ok c ∧ now.get 0 = .ok d ∧
    d.reset = false ∧ d.IsCentred ⟨1, 0, 0⟩ ∧ d.Reaches ⟨1, 0, 0⟩ ∧
    before.volume Simulation.airConfig .zero .identity = .ok old ∧
    now.volume Simulation.airConfig ⟨1, 0, 0⟩ .identity = .ok new ∧
    new.center 0 = .ok d.center ∧
    ∃ pos, new.basePosition 0 ⟨0, 1, 1⟩ = .ok pos ∧ old.basePosition 0 ⟨1, 1, 1⟩ = .ok pos := by
  have start := Cascade.IsEast.restart (Simulation.airConfig.cascadeSpacing 0)
  have reached := follow_origin_single Simulation.airConfig rfl
  have units : (1 : ℝ) / Simulation.airConfig.cascadeSpacing 0 = (1 : Nat) := by
    rw [Simulation.airConfig_spacing]
    norm_num
  obtain ⟨d, ran, east, kept⟩ := start.update units (Nat.zero_le _) (Nat.zero_le _)
    (by decide : _ < Simulation.airConfig.probesCounts.x) (by decide) (by decide)
  have spaced : 0 < Simulation.airConfig.cascadeSpacing 0 := by
    rw [Simulation.airConfig_spacing]
    exact one_pos
  obtain ⟨reaches, -, centred, ends, center, stands⟩ := follows_view Simulation.airConfig [.zero]
    ⟨1, 0, 0⟩ _ _ 0 _ d spaced reached (update_single ran) rfl rfl
  have short : ∀ axis, ([(.zero : Vec3 ℝ)].length + 1) *
      Simulation.airConfig.probesCounts.axis axis < 2147483647 := by
    intro axis
    have two : Simulation.airConfig.probesCounts.axis axis = 2 := Vec3.axis_splat 2 axis
    rw [two]
    decide
  obtain ⟨old, made⟩ : ∃ old, Cascades.volume ⟨Simulation.airConfig.probesCounts,
      #[(Cascade.ofSpacing (Simulation.airConfig.cascadeSpacing 0)).restart .zero]⟩
        Simulation.airConfig .zero .identity = .ok old := volume_ends (by decide) _ _
  obtain ⟨new, made'⟩ := ends (by decide) ⟨1, 0, 0⟩ .identity
  have moves : Grid.MovesBy
      ((Cascade.ofSpacing (Simulation.airConfig.cascadeSpacing 0)).restart .zero).placement.scroll
        d.placement.scroll ⟨1, 0, 0⟩ := by
    rw [east.placed]
    exact ⟨rfl, rfl, rfl⟩
  have inside : Simulation.airConfig.grid.Contains ⟨0, 1, 1⟩ := ⟨by decide, by decide, by decide⟩
  exact ⟨_, _, _, d, old, new, reached, update_single ran, rfl, rfl, kept, centred short,
    reaches.mp (centred short), made, made', center _ _ new made',
    stands kept ⟨1, 0, 0⟩ _ _ _ _ old new moves made made' ⟨0, 1, 1⟩ inside (by decide)⟩

def StaysCentred (config : Config ℝ) : Prop :=
  ∀ (views : List (Vec3 ℝ)) (viewPos : Vec3 ℝ) (before now : Cascades ℝ) (cascade : Nat)
    (d : Cascade ℝ), (create config).follow views = .ok before → before.update viewPos = .ok now →
      now.get cascade = .ok d → d.IsCentred viewPos

noncomputable def wideConfig : Config ℝ :=
  { Config.standard with
    cascades := 1
    probesCounts := ⟨4294967295, 2, 2⟩
    probesSpacing := 2 }

theorem wideConfig_spacing : wideConfig.cascadeSpacing 0 = 2 := by
  rw [Config.cascadeSpacing_real _ (by decide), pow_zero, mul_one]
  rfl

/-- The distance to a view past the end of the words is cut to it, which is not taken for a leap. -/
theorem not_staysCentred_wide : 0 < wideConfig.cascadeSpacing 0 ∧ ¬StaysCentred wideConfig := by
  refine ⟨wideConfig_spacing ▸ two_pos, fun centred => ?_⟩
  have start := Cascade.IsEast.restart (wideConfig.cascadeSpacing 0)
  have units : (100000000000 : ℝ) / wideConfig.cascadeSpacing 0 = (50000000000 : Nat) := by
    rw [wideConfig_spacing]
    norm_num
  obtain ⟨d, ran, east, -⟩ := start.update units (Nat.zero_le _) (Nat.zero_le _)
    (by decide : _ < wideConfig.probesCounts.x) (by decide) (by decide)
  have near := east.near (centred [.zero] ⟨100000000000, 0, 0⟩ _ _ 0 d
    (follow_origin_single wideConfig rfl) (update_single ran) rfl)
  rw [wideConfig_spacing] at near
  norm_num at near

theorem follow_air (n : Nat) (few : n ≤ 2147483647) : ∃ views c,
    (create Simulation.airConfig).follow views = .ok ⟨⟨2, 2, 2⟩, #[c]⟩ ∧ c.IsEast 1 n := by
  induction n with
  | zero =>
      have start := Cascade.IsEast.restart (Simulation.airConfig.cascadeSpacing 0)
      rw [Simulation.airConfig_spacing] at start
      refine ⟨[.zero], _, follow_origin_single Simulation.airConfig rfl, ?_⟩
      rw [Simulation.airConfig_spacing]
      exact start
  | succ n ih =>
      obtain ⟨views, c, reached, east⟩ := ih (Nat.le_of_succ_le few)
      have units : ((n + 1 : Nat) : ℝ) / 1 = (n + 1 : Nat) := div_one _
      have short : min (n + 1) 2147483647 - n < (⟨2, 2, 2⟩ : Vec3 Nat).x := by
        rw [Nat.min_eq_left few, Nat.add_sub_cancel_left]
        decide
      obtain ⟨d, ran, east, -⟩ :=
        east.update units (Nat.le_succ n) (Nat.le_of_succ_le few) short (by decide) (by decide)
      rw [Nat.min_eq_left few] at east
      exact ⟨_, d, follow_snoc reached (update_single ran), east⟩

/-- There a grid stays behind, even if its configuration has nothing wrong with it. -/
theorem not_staysCentred_air :
    Simulation.airConfig.validate = .ok [] ∧ ¬StaysCentred Simulation.airConfig := by
  refine ⟨Simulation.airConfig_valid, fun centred => ?_⟩
  obtain ⟨views, c, reached, east⟩ := follow_air 2147483647 le_rfl
  have units : (2147483649 : ℝ) / 1 = (2147483649 : Nat) := by norm_num
  have short : min 2147483649 2147483647 - 2147483647 < (⟨2, 2, 2⟩ : Vec3 Nat).x := by decide
  obtain ⟨d, ran, east, -⟩ :=
    east.update units (by norm_num) le_rfl short (by decide) (by decide)
  have near := east.near (centred views _ _ _ 0 d reached (update_single ran) rfl)
  norm_num at near

end Cascades

end East

end IrradianceField
