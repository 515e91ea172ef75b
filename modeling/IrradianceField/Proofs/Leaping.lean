import IrradianceField.Scalar.Real
import IrradianceField.Proofs.Magnitudes
import IrradianceField.Proofs.Replacing

/-!
Leaping: how far a view can jump. Positions in the lattice are cut to signed words, but neither their
distance from the grid nor the size of it has to be one, and a move by such a distance is a fault.
Nor has a leap to be one after the cut, if the grid has scrolled close to an end of the words.
-/

namespace IrradianceField

namespace Binary32

open Float.Model (UnpackedFloat)
open Float.Model.UnpackedFloat
open Unpacked (whole)

theorem toInt_range (x : Float32) : -2147483648 ≤ toInt x ∧ toInt x < 2147483648 := by
  unfold toInt
  dsimp only
  split <;> omega

/-- The whole part of a value of any size. Infinite values are past all numbers, and undefined ones
count for zero. -/
def extent (x : Float32) : WithBot (WithTop Int) :=
  match x.toModel.unpack with
  | .infinity .negative => ⊥
  | .infinity .positive => ⊤
  | u => ((u.toInt 0 0 : Int) : WithTop Int)

theorem toInt_eq_of_unpack {x : Float32} {u : UnpackedFloat} (same : x.toModel.unpack = u) :
    toInt x = if u.compare (.zero .positive) = some .lt then
        -((min u.abs.toUInt32.toNat 2147483648 : Nat) : Int)
      else (min u.abs.toUInt32.toNat 2147483647 : Nat) := by
  have ordered : x < 0.0 ↔ u.compare (.zero .positive) = some .lt := by
    rw [← same]
    exact decide_eq_true_iff.symm.trans ((lt_eq_order x 0.0).congr_left.trans beq_iff_eq)
  rw [toInt, toUInt32_eq, abs_eq, same]
  simp only [ordered]

/-- The cut leaves the whole part of a value, or the end of the signed words that it is past. -/
theorem extent_cases (x : Float32) : extent x = ((toInt x : Int) : WithTop Int) ∨
    ((2147483647 : Int) : WithTop Int) < extent x ∧ toInt x = 2147483647 ∨
      extent x < ((-2147483648 : Int) : WithTop Int) ∧ toInt x = -2147483648 := by
  rw [extent]
  generalize same : x.toModel.unpack = u
  rw [toInt_eq_of_unpack same]
  rcases u with (_ | _) | _ | s | ⟨s, m, e, positive⟩
  · exact .inr (.inr ⟨WithBot.bot_lt_coe _, by decide⟩)
  · exact .inr (.inl ⟨WithBot.coe_lt_coe.mpr (WithTop.coe_lt_top _), by decide⟩)
  · exact .inl rfl
  · cases s <;> exact .inl rfl
  · have size : (finite s m e positive).abs.toUInt32.toNat = min (whole m e) 4294967295 :=
      Unpacked.toUInt32_finite m e positive
    have signed : (finite s m e positive).toInt 0 0 = s.apply (whole m e) :=
      Unpacked.roundToInt_eq s m e
    simp only [signed, size, WithBot.coe_lt_coe, WithTop.coe_lt_coe, WithBot.coe_inj, WithTop.coe_inj]
    cases s with
    | negative =>
        have below : (finite .negative m e positive).compare (.zero .positive) = some .lt := rfl
        rw [if_pos below]
        dsimp only [Sign.apply]
        omega
    | positive =>
        have above : ¬(finite .positive m e positive).compare (.zero .positive) = some .lt := nofun
        rw [if_neg above]
        dsimp only [Sign.apply]
        omega

end Binary32

namespace Scalar

theorem round_near_real (a : ℝ) : ∃ n : Int, Scalar.round a = n ∧ |a - n| ≤ 1 / 2 := by
  by_cases positive : 0 ≤ a
  · refine ⟨⌊a + 1 / 2⌋, if_pos positive, ?_⟩
    have low := Int.floor_le (a + 1 / 2)
    have high := Int.lt_floor_add_one (a + 1 / 2)
    exact abs_le.mpr ⟨by linarith, by linarith⟩
  · refine ⟨⌈a - 1 / 2⌉, if_neg positive, ?_⟩
    have low := Int.le_ceil (a - 1 / 2)
    have high := Int.ceil_lt_add_one (a - 1 / 2)
    exact abs_le.mpr ⟨by linarith, by linarith⟩

theorem toInt_round_near_real {a : ℝ} (low : -2147483648 < toInt (Scalar.round a))
    (high : toInt (Scalar.round a) < 2147483647) : |a - toInt (Scalar.round a)| ≤ 1 / 2 := by
  obtain ⟨n, whole, near⟩ := round_near_real a
  have cut : (if (0 : ℝ) ≤ n then ⌊(n : ℝ)⌋ else ⌈(n : ℝ)⌉) = n := by
    rw [Int.floor_intCast, Int.ceil_intCast, ite_self]
  rw [whole, toInt_real, cut] at low high
  have same : toInt (Scalar.round a) = n := by
    rw [whole, toInt_real, cut]
    omega
  rwa [same]

end Scalar

namespace Cascade

/-- Within half of the signed words, so that all differences are within the whole of them. -/
def IsNear (v : Vec3 Int) : Prop :=
  v.x.natAbs < 1073741824 ∧ v.y.natAbs < 1073741824 ∧ v.z.natAbs < 1073741824

instance {v : Vec3 Int} : Decidable (IsNear v) := inferInstanceAs (Decidable (_ ∧ _ ∧ _))

section Words

variable {count : Nat} {scroll : Int} {far : WithBot (WithTop Int)}

/-- `count` probes or more between a number of the lattice and what the grid has scrolled by. -/
def IsAway (count : Nat) (scroll : Int) (far : WithBot (WithTop Int)) : Prop :=
  ((scroll + count : Int) : WithTop Int) ≤ far ∨ far ≤ ((scroll - count : Int) : WithTop Int)

/-- Past an end of the signed words that the grid is closer to than `count` probes. -/
def IsHidden (count : Nat) (scroll : Int) (far : WithBot (WithTop Int)) : Prop :=
  ((2147483647 : Int) : WithTop Int) < far ∧ 2147483647 < scroll + count ∨
    far < ((-2147483648 : Int) : WithTop Int) ∧ scroll - count < -2147483648

theorem isHidden_iff_above (above : ((2147483647 : Int) : WithTop Int) < far) :
    IsHidden count scroll far ↔ 2147483647 < scroll + count := by
  refine ⟨?_, fun close => .inl ⟨above, close⟩⟩
  rintro (⟨-, close⟩ | ⟨below, -⟩)
  · exact close
  · exact absurd (WithTop.coe_lt_coe.mp (WithBot.coe_lt_coe.mp (above.trans below))) (by decide)

theorem isHidden_iff_below (below : far < ((-2147483648 : Int) : WithTop Int)) :
    IsHidden count scroll far ↔ scroll - count < -2147483648 := by
  refine ⟨?_, fun close => .inr ⟨below, close⟩⟩
  rintro (⟨above, -⟩ | ⟨-, close⟩)
  · exact absurd (WithTop.coe_lt_coe.mp (WithBot.coe_lt_coe.mp (above.trans below))) (by decide)
  · exact close

theorem le_cut_iff (signed : -2147483648 ≤ scroll ∧ scroll < 2147483648) (x : Float32) :
    count ≤ (Binary32.toInt x - scroll).natAbs ↔
      IsAway count scroll (Binary32.extent x) ∧ ¬IsHidden count scroll (Binary32.extent x) := by
  have range := Binary32.toInt_range x
  rcases Binary32.extent_cases x with whole | ⟨above, cut⟩ | ⟨below, cut⟩
  · simp only [whole, IsAway, IsHidden, WithBot.coe_le_coe, WithTop.coe_le_coe, WithBot.coe_lt_coe,
      WithTop.coe_lt_coe]
    omega
  · rw [isHidden_iff_above above, cut]
    constructor
    · intro leap
      have room : scroll + count ≤ 2147483647 := by omega
      have last : ((scroll + count : Int) : WithTop Int) ≤ ((2147483647 : Int) : WithTop Int) :=
        WithTop.coe_le_coe.mpr room
      exact ⟨.inl ((WithBot.coe_le_coe.mpr last).trans above.le), by omega⟩
    · rintro ⟨-, room⟩
      omega
  · rw [isHidden_iff_below below, cut]
    constructor
    · intro leap
      have room : -2147483648 ≤ scroll - count := by omega
      have first : ((-2147483648 : Int) : WithTop Int) ≤ ((scroll - count : Int) : WithTop Int) :=
        WithTop.coe_le_coe.mpr room
      exact ⟨.inr (below.le.trans (WithBot.coe_le_coe.mpr first)), by omega⟩
    · rintro ⟨-, room⟩
      omega

theorem not_isHidden (near : scroll.natAbs < 1073741824) (few : count ≤ maxProbes) :
    ¬IsHidden count scroll far := by
  have few : count ≤ 65535 := few
  rintro (⟨-, close⟩ | ⟨-, close⟩)
  · omega
  · omega

end Words

section Moves

variable {c d : Cascade Float32} {viewPos : Vec3 Float32} {counts : Vec3 Nat}

theorem isSigned_target (c : Cascade Float32) (viewPos : Vec3 Float32) :
    IsSigned (c.target viewPos) :=
  ⟨Binary32.toInt_range _, Binary32.toInt_range _, Binary32.toInt_range _⟩

/-- The lattice point nearest to the view as `target` has it, before the cut to words. -/
def reach (c : Cascade Float32) (viewPos : Vec3 Float32) : Vec3 (WithBot (WithTop Int)) :=
  ((viewPos - c.placement.origin).divide c.placement.spacing).round.map Binary32.extent

/-- Along some axis, the view is from the centre of the grid as many probes away as there are. -/
def IsBehind (c : Cascade Float32) (counts : Vec3 Nat) (viewPos : Vec3 Float32) : Prop :=
  IsAway counts.x c.placement.scroll.x (c.reach viewPos).x ∨
    IsAway counts.y c.placement.scroll.y (c.reach viewPos).y ∨
    IsAway counts.z c.placement.scroll.z (c.reach viewPos).z

/-- The same along some axis for which the cut to words does not hide it. -/
def IsSeenBehind (c : Cascade Float32) (counts : Vec3 Nat) (viewPos : Vec3 Float32) : Prop :=
  (IsAway counts.x c.placement.scroll.x (c.reach viewPos).x ∧
      ¬IsHidden counts.x c.placement.scroll.x (c.reach viewPos).x) ∨
    (IsAway counts.y c.placement.scroll.y (c.reach viewPos).y ∧
      ¬IsHidden counts.y c.placement.scroll.y (c.reach viewPos).y) ∨
    (IsAway counts.z c.placement.scroll.z (c.reach viewPos).z ∧
      ¬IsHidden counts.z c.placement.scroll.z (c.reach viewPos).z)

theorem isLeap_iff (scrolled : IsSigned c.placement.scroll) :
    IsLeap counts (c.move viewPos) ↔ c.IsSeenBehind counts viewPos :=
  or_congr (le_cut_iff scrolled.1 _) (or_congr (le_cut_iff scrolled.2.1 _)
    (le_cut_iff scrolled.2.2 _))

theorem IsBehind.isSeen (behind : c.IsBehind counts viewPos) (near : IsNear c.placement.scroll)
    (few : counts.x ≤ maxProbes ∧ counts.y ≤ maxProbes ∧ counts.z ≤ maxProbes) :
    c.IsSeenBehind counts viewPos :=
  behind.imp (fun away => ⟨away, not_isHidden near.1 few.1⟩)
    (.imp (fun away => ⟨away, not_isHidden near.2.1 few.2.1⟩)
      fun away => ⟨away, not_isHidden near.2.2 few.2.2⟩)

theorem update_ends : (∃ d, c.update viewPos counts = .ok d) ↔ IsCountable (c.move viewPos) := by
  constructor
  · rintro ⟨d, ran⟩
    exact (update_eq_ok.mp ran).1
  · intro countable
    by_cases anew : c.initialized = false ∨ IsLeap counts (c.move viewPos)
    · exact ⟨_, update_eq_ok.mpr ⟨countable, .inl ⟨anew, rfl⟩⟩⟩
    · obtain ⟨started, short⟩ := not_or.mp anew
      exact ⟨_, update_eq_ok.mpr
        ⟨countable, .inr ⟨⟨by simpa using started, short⟩, isSigned_target c viewPos, rfl⟩⟩⟩

theorem isCountable_of_near (scrolled : IsNear c.placement.scroll)
    (near : IsNear (c.target viewPos)) : IsCountable (c.move viewPos) := by
  obtain ⟨sx, sy, sz⟩ := scrolled
  obtain ⟨tx, ty, tz⟩ := near
  have axis : ∀ a b : Int, a.natAbs < 1073741824 → b.natAbs < 1073741824 →
      (a - b).natAbs < 2147483648 := fun a b ha hb => by omega
  exact ⟨axis _ _ tx sx, axis _ _ ty sy, axis _ _ tz sz⟩

theorem scroll_eq_of_update (ran : c.update viewPos counts = .ok d) :
    d.placement.scroll = ⟨0, 0, 0⟩ ∨ d.placement.scroll = c.target viewPos := by
  obtain ⟨-, ⟨-, rfl⟩ | ⟨-, -, rfl⟩⟩ := update_eq_ok.mp ran
  · exact .inl rfl
  · exact .inr rfl

end Moves

end Cascade

namespace Cascades

variable {c d : Cascades Float32} {viewPos : Vec3 Float32} {views : List (Vec3 Float32)}

theorem update_ends :
    (∃ d, c.update viewPos = .ok d) ↔ ∀ item ∈ c.items, Cascade.IsCountable (item.move viewPos) := by
  have each : (∃ items, c.items.toList.mapM (·.update viewPos c.counts) = .ok items) ↔
      ∀ item ∈ c.items, Cascade.IsCountable (item.move viewPos) := by
    simp only [mapM_ends, Cascade.update_ends, Array.mem_toList_iff]
  rw [← each]
  simp only [update, bind_eq_ok, pure_eq_ok, Except.ok.injEq, Array.mapM_eq_mapM_toList,
    map_eq_pure_bind]
  constructor
  · rintro ⟨_, _, ⟨items, ran, -⟩, -⟩
    exact ⟨items, ran⟩
  · rintro ⟨items, ran⟩
    exact ⟨_, _, ⟨items, ran, rfl⟩, rfl⟩

theorem scrolls_of_update {P : Vec3 Int → Prop} (zero : P ⟨0, 0, 0⟩)
    (targets : ∀ item ∈ c.items, P (item.target viewPos)) (ran : c.update viewPos = .ok d) :
    ∀ item ∈ d.items, P item.placement.scroll := by
  intro item listed
  obtain ⟨i, inside, rfl⟩ := Array.mem_iff_getElem.mp listed
  obtain ⟨before, stood, moved⟩ := (update_eq_ok ran).2.2 i _ (by rw [get, dif_pos inside])
  rcases Cascade.scroll_eq_of_update moved with still | target
  · exact still ▸ zero
  · exact target ▸ targets before (Array.mem_of_getElem? (get_eq_ok.mp stood))

theorem scroll_of_create {config : Config Float32} {item : Cascade Float32}
    (listed : item ∈ (create config).items) : item.placement.scroll = ⟨0, 0, 0⟩ := by
  obtain ⟨i, -, rfl⟩ : ∃ i < config.cascades, Cascade.ofSpacing (config.cascadeSpacing i) = item := by
    simpa [create] using listed
  rfl

theorem isSigned_scroll_of_follow {config : Config Float32}
    (reached : (create config).follow views = .ok c) :
    ∀ item ∈ c.items, Cascade.IsSigned item.placement.scroll := by
  have zero : Cascade.IsSigned ⟨0, 0, 0⟩ := Cascade.IsCountable.isSigned (by decide)
  exact foldlM_keeps (fun c : Cascades Float32 => ∀ item ∈ c.items,
      Cascade.IsSigned item.placement.scroll)
    (fun _ _ _ _ _ ran => scrolls_of_update zero
      (fun item _ => Cascade.isSigned_target item _) ran)
    (fun _ listed => scroll_of_create listed ▸ zero) reached

def IsNear (c : Cascades Float32) : Prop := ∀ item ∈ c.items, Cascade.IsNear item.placement.scroll

/-- Each view of a run is met by grids that have it near to the origins of theirs. -/
def StaysNear (c : Cascades Float32) : List (Vec3 Float32) → Prop
  | [] => True
  | viewPos :: rest => (∀ item ∈ c.items, Cascade.IsNear (item.target viewPos)) ∧
      ∀ d, c.update viewPos = .ok d → d.StaysNear rest

theorem isNear_create (config : Config Float32) : (create config).IsNear := by
  intro item listed
  rw [scroll_of_create listed]
  decide

theorem IsNear.update (near : c.IsNear)
    (targets : ∀ item ∈ c.items, Cascade.IsNear (item.target viewPos)) :
    ∃ d, c.update viewPos = .ok d ∧ d.IsNear := by
  obtain ⟨d, ran⟩ := update_ends.mpr fun item listed =>
    Cascade.isCountable_of_near (near item listed) (targets item listed)
  exact ⟨d, ran, scrolls_of_update (by decide) targets ran⟩

theorem IsNear.follow (near : c.IsNear) (targets : c.StaysNear views) :
    ∃ d, c.follow views = .ok d ∧ d.IsNear := by
  induction views generalizing c with
  | nil => exact ⟨c, rfl, near⟩
  | cons viewPos rest ih =>
      obtain ⟨first, later⟩ := targets
      obtain ⟨d, ran, near⟩ := near.update first
      obtain ⟨e, followed, near⟩ := ih near (later d ran)
      exact ⟨e, foldlM_cons_eq_ok.mpr ⟨d, ran, followed⟩, near⟩

def Restarts (now : Cascades Float32) (cascade : Nat) : Prop :=
  ∃ d, now.get cascade = .ok d ∧ d.reset = true ∧ d.placement.scroll = ⟨0, 0, 0⟩

/-- Wherever the view has been, it can leap to anywhere, and the cascades that it leaves behind start
anew. -/
def LeapsFreely (config : Config Float32) : Prop :=
  ∀ (views : List (Vec3 Float32)) (viewPos : Vec3 Float32) (before : Cascades Float32),
    (∀ view ∈ viewPos :: views, Scalar.isFinite view.x ∧ Scalar.isFinite view.y ∧
      Scalar.isFinite view.z) →
    (create config).follow views = .ok before →
    ∃ now, before.update viewPos = .ok now ∧ ∀ cascade c, before.get cascade = .ok c →
      c.IsBehind config.probesCounts viewPos → now.Restarts cascade

def octetConfig32 : Config Float32 :=
  { Config.standard with
    cascades := 1
    probesCounts := ⟨2, 2, 2⟩ }

def octetCascades32 (origin : Vec3 Float32) (reset : Bool) : Cascades Float32 :=
  ⟨⟨2, 2, 2⟩, #[⟨⟨origin, 2, ⟨0, 0, 0⟩⟩, ⟨0, 0, 0⟩, ⟨0, 0, 0⟩, reset, true⟩]⟩

/-- Far to the left, the distance is the one signed word without a size. -/
theorem not_leapsFreely_octet : octetConfig32.validate = .ok [] ∧ ¬LeapsFreely octetConfig32 := by
  refine ⟨by decide +kernel, fun leaps => ?_⟩
  have started : (create octetConfig32).follow [⟨0, 0, 0⟩] = .ok (octetCascades32 ⟨0, 0, 0⟩ true) := by
    decide +kernel
  have fault : (octetCascades32 ⟨0, 0, 0⟩ true).update ⟨-1e11, 0, 0⟩ = .error .negOverflow := by
    decide +kernel
  obtain ⟨now, ran, -⟩ := leaps [⟨0, 0, 0⟩] ⟨-1e11, 0, 0⟩ _ (by decide +kernel) started
  cases fault.symm.trans ran

theorem restarts_iff {config : Config Float32} {before now : Cascades Float32} {cascade : Nat}
    {c : Cascade Float32} (reached : (create config).follow views = .ok before)
    (ran : before.update viewPos = .ok now) (stood : before.get cascade = .ok c) :
    now.Restarts cascade ↔ views = [] ∨ c.IsSeenBehind config.probesCounts viewPos := by
  obtain ⟨-, sizes, each⟩ := update_eq_ok ran
  have listed := get_eq_ok.mp stood
  have inside : cascade < now.items.size := sizes ▸ (Array.getElem?_eq_some_iff.mp listed).1
  have stands : now.get cascade = .ok now.items[cascade] := dif_pos inside
  obtain ⟨b, held, moved⟩ := each cascade _ stands
  obtain rfl : b = c := Except.ok.inj (held.symm.trans stood)
  have scrolled := isSigned_scroll_of_follow reached b (Array.mem_of_getElem? listed)
  rw [counts_of_follow reached] at moved
  rw [← Cascade.isLeap_iff scrolled, ← initialized_iff_of_follow reached stood]
  obtain ⟨-, ⟨anew, same⟩ | ⟨⟨started, short⟩, -, same⟩⟩ := Cascade.update_eq_ok.mp moved
  · exact iff_of_true ⟨_, stands, by rw [same]; exact ⟨rfl, rfl⟩⟩ anew
  · refine iff_of_false ?_ (not_or.mpr ⟨by simp [started], short⟩)
    rintro ⟨d, found, reset, -⟩
    obtain rfl := Except.ok.inj (stands.symm.trans found)
    rw [same] at reset
    cases reset

/-- Cascades follow a view if and only if the distance to it can be counted from each of them, with
positions in the lattice cut to words. One that the view leaves behind then starts anew, unless it has
scrolled so close to an end of the words that the cut hides this. Runs whose views are all near to the
origins of the grids that meet them are followed, and leave all cascades able to see any leap. -/
theorem leaps_if_countable (config : Config Float32) (views : List (Vec3 Float32))
    (viewPos : Vec3 Float32) :
    (∀ before, (create config).follow views = .ok before →
      ((∃ now, before.update viewPos = .ok now) ↔
        ∀ item ∈ before.items, Cascade.IsCountable (item.move viewPos)) ∧
      ∀ now, before.update viewPos = .ok now → ∀ cascade c, before.get cascade = .ok c →
        (now.Restarts cascade ↔ views = [] ∨ c.IsSeenBehind config.probesCounts viewPos)) ∧
    ((create config).StaysNear views → ∃ before, (create config).follow views = .ok before ∧
      (config.validate = .ok [] → ∀ now, before.update viewPos = .ok now → ∀ cascade c,
        before.get cascade = .ok c → c.IsBehind config.probesCounts viewPos →
          now.Restarts cascade)) := by
  refine ⟨fun before reached => ⟨update_ends, fun now ran cascade c => restarts_iff reached ran⟩, ?_⟩
  intro targets
  obtain ⟨before, reached, near⟩ := (isNear_create config).follow targets
  refine ⟨before, reached, fun valid now ran cascade c stood behind => ?_⟩
  have listed : c ∈ before.items := Array.mem_of_getElem? (get_eq_ok.mp stood)
  have few := Config.counts_le_of_valid valid
  exact (restarts_iff reached ran stood).mpr (.inr (behind.isSeen (near c listed) few))

/-- A leap of two hundred million probes to the right. -/
theorem leaps_if_countable_octet :
    ∃ now, (octetCascades32 ⟨0, 0, 0⟩ true).update ⟨4e8, 0, 0⟩ = .ok now ∧ now.Restarts 0 := by
  have near : (create octetConfig32).StaysNear [⟨0, 0, 0⟩] :=
    ⟨by decide +kernel, fun _ _ => trivial⟩
  obtain ⟨before, reached, restarts⟩ :=
    (leaps_if_countable octetConfig32 [⟨0, 0, 0⟩] ⟨4e8, 0, 0⟩).2 near
  have started : (create octetConfig32).follow [⟨0, 0, 0⟩] = .ok (octetCascades32 ⟨0, 0, 0⟩ true) := by
    decide +kernel
  obtain rfl := Except.ok.inj (reached.symm.trans started)
  obtain ⟨ends, -⟩ := (leaps_if_countable octetConfig32 [⟨0, 0, 0⟩] ⟨4e8, 0, 0⟩).1 _ reached
  obtain ⟨now, ran⟩ := ends.mpr (by decide +kernel)
  refine ⟨now, ran, restarts (by decide +kernel) now ran 0 _ rfl (.inl (.inl ?_))⟩
  have far : ((octetCascades32 ⟨0, 0, 0⟩ true).items[0].reach ⟨4e8, 0, 0⟩).x =
      ((200000000 : Int) : WithTop Int) := by decide +kernel
  rw [far]
  exact WithBot.coe_le_coe.mpr (WithTop.coe_le_coe.mpr (by decide))

/-- Close to the last of the words, a leap of `5e11` probes is taken for one of 1023. -/
example : (⟨⟨16383, 2, 2⟩, #[⟨⟨⟨0, 0, 0⟩, 2, ⟨2147482624, 0, 0⟩⟩, ⟨16256, 0, 0⟩, ⟨1, 0, 0⟩, false,
      true⟩]⟩ : Cascades Float32).update ⟨1e12, 0, 0⟩ =
    .ok ⟨⟨16383, 2, 2⟩, #[⟨⟨⟨0, 0, 0⟩, 2, ⟨2147483647, 0, 0⟩⟩, ⟨1023, 0, 0⟩, ⟨1, 0, 0⟩, false,
      true⟩]⟩ := by decide +kernel

end Cascades

end IrradianceField
