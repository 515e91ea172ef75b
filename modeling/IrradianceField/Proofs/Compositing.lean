import IrradianceField.Proofs.Nesting

/-!
Compositing: what sampling shows against all cascades composited from front to back. Sampling looks
one cascade ahead and takes that for all that is behind.
-/

namespace IrradianceField

open Scalar

namespace Sampler

section Definitions

variable {α : Type} [Scalar α] (s : Sampler α) (pos normal : Vec3 α) (bias : α)

/-- The first of `remaining` cascades in front of the others, which are seen as far as it does not
cover the point. -/
def composite : Nat → Nat → Except Fault (Vec3 α)
  | 0, _ => return .zero
  | remaining + 1, cascade => do
    let behind ← composite remaining (cascade + 1)
    let light ← s.sampleCascade cascade pos normal bias
    let fade ← s.cascadeFade cascade pos
    return behind + (light - behind).scale fade

/-- What the next cascade shows too much behind the first one that covers the point, as it is taken to
cover the point in full. -/
def excess : Nat → Nat → Except Fault (Vec3 α)
  | 0, _ => return .zero
  | remaining + 1, cascade => do
    let fade ← s.cascadeFade cascade pos
    if lt 0.0 fade then
      if remaining = 0 then return .zero
      let behind ← s.composite pos normal bias (remaining - 1) (cascade + 2)
      let next ← s.sampleCascade (cascade + 1) pos normal bias
      let nextFade ← s.cascadeFade (cascade + 1) pos
      return (next - behind).scale ((1.0 - fade) * (1.0 - nextFade))
    else excess remaining (cascade + 1)

end Definitions

variable {s : Sampler ℝ} {cascade first remaining : Nat} {pos normal : Vec3 ℝ} {bias : ℝ}

section Blends

variable {u v w : Vec3 ℝ}

theorem blend_zero (u v : Vec3 ℝ) : u + (v - u).scale 0 = u := by
  apply Vec3.eq_of_axes
  intro axis
  rw [Vec3.axis_add, Vec3.axis_scale, mul_zero, add_zero]

theorem blend_one (u v : Vec3 ℝ) : u + (v - u).scale 1 = v := by
  apply Vec3.eq_of_axes
  intro axis
  rw [Vec3.axis_add, Vec3.axis_scale, Vec3.axis_sub, mul_one, add_sub_cancel]

theorem scale_zero (v : Vec3 ℝ) : v.scale 0 = .zero := by
  apply Vec3.eq_of_axes
  intro axis
  rw [Vec3.axis_scale, mul_zero, Vec3.axis_zero]

theorem add_zero_eq (v : Vec3 ℝ) : v + .zero = v := by
  apply Vec3.eq_of_axes
  intro axis
  rw [Vec3.axis_add, Vec3.axis_zero, add_zero]

/-- Three layers: what is seen too much if the one in the middle is taken for all behind the first. -/
theorem blend_excess (here next behind : Vec3 ℝ) (fade nextFade : ℝ) :
    next + (here - next).scale fade =
      behind + (next - behind).scale nextFade +
        (here - (behind + (next - behind).scale nextFade)).scale fade +
          (next - behind).scale ((1 - fade) * (1 - nextFade)) := by
  apply Vec3.eq_of_axes
  intro axis
  simp only [Vec3.axis_add, Vec3.axis_scale, Vec3.axis_sub]
  ring

end Blends

def ShowsExcess (s : Sampler ℝ) (pos normal : Vec3 ℝ) (bias : ℝ) (remaining first : Nat) : Prop :=
  ∃ light whole extra, s.sampleFrom pos normal bias remaining first = .ok light ∧
    s.composite pos normal bias remaining first = .ok whole ∧
    s.excess pos normal bias remaining first = .ok extra ∧ light = whole + extra

section Steps

variable {fade : ℝ} {here : Vec3 ℝ} (faded : s.cascadeFade cascade pos = .ok fade)
  (shown : s.sampleCascade cascade pos normal bias = .ok here)

include faded shown

theorem ShowsExcess.uncovered (later : s.ShowsExcess pos normal bias remaining (cascade + 1))
    (none : fade = 0) : s.ShowsExcess pos normal bias (remaining + 1) cascade := by
  rcases later with ⟨light, whole, extra, ran, composed, exceeded, same⟩
  refine ⟨light, whole, extra, ?_, ?_, ?_, same⟩
  · rw [sampleFrom, faded, ok_bind, if_neg (by simp [none])]
    exact ran
  · rw [composite, composed, shown, faded, none]
    simp only [ok_bind, blend_zero, pure_eq_ok]
  · rw [excess, faded, ok_bind, if_neg (by simp [none])]
    exact exceeded

theorem showsExcess_last (some : 0 < fade) : s.ShowsExcess pos normal bias 1 cascade := by
  have covered : lt 0.0 fade = true := by simp [some]
  have composed : s.composite pos normal bias 1 cascade = .ok (.zero + (here - .zero).scale fade) := by
    rw [composite, composite, shown, faded]
    rfl
  have exceeded : s.excess pos normal bias 1 cascade = .ok .zero := by
    rw [excess, faded, ok_bind, if_pos covered]
    rfl
  rw [ShowsExcess, composed, exceeded, sampleFrom, faded, ok_bind, if_pos covered, shown, ok_bind]
  rcases (cascadeFade_bounds faded).2.eq_or_lt with rfl | part
  · refine ⟨here, _, .zero, if_pos (by simp), rfl, rfl, ?_⟩
    rw [blend_one, add_zero_eq]
  · exact ⟨_, _, .zero, if_neg (by simp [part]), rfl, rfl, (add_zero_eq _).symm⟩

theorem showsExcess_overlap {next behind : Vec3 ℝ} {nextFade : ℝ} (some : 0 < fade)
    (nextFaded : s.cascadeFade (cascade + 1) pos = .ok nextFade)
    (nextShown : s.sampleCascade (cascade + 1) pos normal bias = .ok next)
    (hidden : s.composite pos normal bias remaining (cascade + 2) = .ok behind) :
    s.ShowsExcess pos normal bias (remaining + 2) cascade := by
  have covered : lt 0.0 fade = true := by simp [some]
  have second : s.composite pos normal bias (remaining + 1) (cascade + 1) =
      .ok (behind + (next - behind).scale nextFade) := by
    rw [composite, hidden, nextShown, nextFaded]
    rfl
  have exceeded : s.excess pos normal bias (remaining + 2) cascade =
      .ok ((next - behind).scale ((1 - fade) * (1 - nextFade))) := by
    rw [excess, faded, ok_bind, if_pos covered, if_neg (Nat.succ_ne_zero _), Nat.add_sub_cancel,
      hidden, nextShown, nextFaded, real_one]
    rfl
  rw [ShowsExcess, exceeded, composite, second, shown, faded, sampleFrom, faded, ok_bind,
    if_pos covered, shown, ok_bind]
  rcases (cascadeFade_bounds faded).2.eq_or_lt with rfl | part
  · refine ⟨here, _, _, if_pos (by simp), rfl, rfl, ?_⟩
    rw [blend_one, sub_self, zero_mul, scale_zero, add_zero_eq]
  · refine ⟨next + (here - next).scale fade, _, _, ?_, rfl, rfl,
      blend_excess here next behind fade nextFade⟩
    rw [if_neg (by simp [part])]
    dsimp only
    rw [if_pos (Nat.succ_pos _), nextShown]
    rfl

end Steps

/-- As far as a cascade reaches, the next one covers the point in full. -/
def IsNested (s : Sampler ℝ) (pos : Vec3 ℝ) : Prop :=
  ∀ cascade fade, cascade + 1 < s.volume.grid.cascades → s.cascadeFade cascade pos = .ok fade →
    0 < fade → s.cascadeFade (cascade + 1) pos = .ok 1

namespace IsServed

variable (served : s.IsServed)

include served

theorem composite_ends (pos normal : Vec3 ℝ) (bias : ℝ)
    (few : first + remaining ≤ s.volume.grid.cascades) :
    ∃ whole, s.composite pos normal bias remaining first = .ok whole := by
  induction remaining generalizing first with
  | zero => exact ⟨_, rfl⟩
  | succ remaining ih =>
      rcases served.sampleCascade_ends (by omega : first < _) pos normal bias with ⟨light, shown⟩
      rcases served.cascadeFade_ends (by omega : first < _) pos with ⟨fade, faded⟩
      rw [composite, shown, faded]
      exact bind_ends (ih (by omega)) fun behind => ⟨_, rfl⟩

theorem showsExcess (pos normal : Vec3 ℝ) (bias : ℝ)
    (few : first + remaining ≤ s.volume.grid.cascades) :
    s.ShowsExcess pos normal bias remaining first := by
  induction remaining generalizing first with
  | zero => exact ⟨.zero, .zero, .zero, rfl, rfl, rfl, (add_zero_eq _).symm⟩
  | succ remaining ih =>
      rcases served.cascadeFade_ends (by omega : first < _) pos with ⟨fade, faded⟩
      rcases served.sampleCascade_ends (by omega : first < _) pos normal bias with ⟨here, shown⟩
      rcases (cascadeFade_bounds faded).1.eq_or_lt with none | some
      · exact .uncovered faded shown (ih (by omega)) none.symm
      · cases remaining with
        | zero => exact showsExcess_last faded shown some
        | succ remaining =>
            rcases served.composite_ends pos normal bias (by omega : first + 2 + remaining ≤ _)
              with ⟨behind, hidden⟩
            rcases served.cascadeFade_ends (by omega : first + 1 < _) pos with ⟨nextFade, nextFaded⟩
            rcases served.sampleCascade_ends (by omega : first + 1 < _) pos normal bias with
              ⟨next, nextShown⟩
            exact showsExcess_overlap faded shown some nextFaded nextShown hidden

theorem excess_of_nested (nested : s.IsNested pos) {extra : Vec3 ℝ}
    (few : first + remaining ≤ s.volume.grid.cascades)
    (exceeded : s.excess pos normal bias remaining first = .ok extra) : extra = .zero := by
  induction remaining generalizing first with
  | zero => exact (Except.ok.inj exceeded).symm
  | succ remaining ih =>
      rcases served.cascadeFade_ends (by omega : first < _) pos with ⟨fade, faded⟩
      rw [excess, faded, ok_bind] at exceeded
      by_cases some : 0 < fade
      · rw [if_pos (by simp [some])] at exceeded
        split at exceeded
        · exact (Except.ok.inj exceeded).symm
        · rcases bind_eq_ok.mp exceeded with ⟨behind, -, exceeded⟩
          rcases bind_eq_ok.mp exceeded with ⟨next, -, exceeded⟩
          rw [nested first fade (by omega) faded some, ok_bind, real_one, sub_self, mul_zero,
            scale_zero] at exceeded
          exact (Except.ok.inj exceeded).symm
      · rw [if_neg (by simp [some])] at exceeded
        exact ih (by omega) exceeded

end IsServed

section Reached

variable {config : Config ℝ} {views : List (Vec3 ℝ)} {cascades : Cascades ℝ} {viewPos : Vec3 ℝ}
  {rotation : Quat ℝ}

theorem isNested_of_roomy (valid : config.validate = .ok []) (some : views ≠ [])
    (reached : (Cascades.create config).follow views = .ok cascades)
    (made : cascades.volume config viewPos rotation = .ok s.volume) (served : s.IsServed)
    (roomy : config.IsRoomy)
    (within : ∀ cascade item, cascades.get cascade = .ok item → item.IsScrollable) (pos : Vec3 ℝ) :
    s.IsNested pos := by
  rcases Cascades.isCentred_of_follow valid some reached with ⟨view, centred⟩
  have own := Cascades.isOfConfig_of_follow reached
  have accepted := Config.isAccepted_of_valid valid
  rcases Cascades.volume_eq_ok made with ⟨grid, -, -, -, placed⟩
  intro cascade fade present faded covered
  have few : cascade + 1 < maxCascades := present.trans_le served.cascades
  have listed : cascade + 1 < cascades.items.size := by rwa [grid] at present
  have found : ∀ number < cascades.items.size, ∃ item, cascades.get number = .ok item :=
    fun number below => ⟨_, dif_pos below⟩
  rcases found cascade (by omega) with ⟨item, held⟩
  rcases found (cascade + 1) listed with ⟨next, held'⟩
  rcases served.stocked (by omega : cascade < _) with ⟨p, stocked⟩
  rcases served.stocked present with ⟨p', stocked'⟩
  obtain rfl := Except.ok.inj ((placed cascade item held).symm.trans stocked.placed)
  obtain rfl := Except.ok.inj ((placed (cascade + 1) next held').symm.trans stocked'.placed)
  have spaced : 0 < item.placement.spacing :=
    own.spacing cascade item held ▸ accepted.cascadeSpacing_pos cascade
  have ratio : next.placement.spacing = item.placement.spacing * config.spacingMultiplier := by
    rw [own.spacing cascade item held, own.spacing _ next held', config.cascadeSpacing_succ few]
  have spaced' : 0 < next.placement.spacing :=
    own.spacing _ next held' ▸ accepted.cascadeSpacing_pos _
  have counts : s.volume.grid.counts = config.probesCounts := by rw [grid]
  have inside := (stocked.cascadeFade_pos spaced faded).mp covered
  apply stocked'.cascadeFade_full spaced'
  intro axis
  have two : 2 ≤ config.probesCounts.axis axis :=
    Vec3.forall_axis (P := (2 ≤ ·)).mpr accepted.counts axis
  have near := centred cascade item held (within cascade item held) axis
  have near' := centred _ next held' (within _ next held') axis
  have here := inside axis
  rw [Cascade.center_axis] at near near'
  rw [depth_axis, counts] at here ⊢
  rw [ratio] at near' ⊢
  exact inside_of_roomy two spaced (roomy axis) near near' here

/-- Sampling is to be the composite of all cascades, at whatever point and wherever the view has led
them. -/
def Composites (config : Config ℝ) : Prop :=
  ∀ (views : List (Vec3 ℝ)) (cascades : Cascades ℝ) (viewPos : Vec3 ℝ) (rotation : Quat ℝ)
    (s : Sampler ℝ), views ≠ [] → (Cascades.create config).follow views = .ok cascades →
      cascades.volume config viewPos rotation = .ok s.volume → s.IsServed →
        ∀ pos normal bias, s.sample pos normal bias =
          s.composite pos normal bias s.volume.grid.cascades 0

end Reached

section Examples

noncomputable def atOrigin (config : Config ℝ) : Cascades ℝ :=
  ⟨config.probesCounts, ((List.range config.cascades).map fun i =>
    (Cascade.ofSpacing (config.cascadeSpacing i)).restart .zero).toArray⟩

theorem follow_origin (config : Config ℝ) :
    (Cascades.create config).follow [.zero] = .ok (atOrigin config) := by
  have each : ∀ l : List Nat, (l.map fun i => Cascade.ofSpacing (config.cascadeSpacing i)).mapM
      (fun c => c.update .zero config.probesCounts) =
        .ok (l.map fun i => (Cascade.ofSpacing (config.cascadeSpacing i)).restart .zero) := by
    intro l
    induction l with
    | nil => rfl
    | cons i rest ih =>
        rw [List.map_cons, List.mapM_cons, Simulation.update_ofSpacing, ok_bind, ih]
        rfl
  rw [Cascades.follow, foldlM_cons_eq_ok]
  refine ⟨atOrigin config, ?_, rfl⟩
  rw [Cascades.update, Cascades.create, Array.mapM_eq_mapM_toList, List.toList_toArray, each]
  rfl

theorem atOrigin_get {config : Config ℝ} {cascade : Nat} {item : Cascade ℝ}
    (found : (atOrigin config).get cascade = .ok item) :
    item.placement = ⟨.zero, config.cascadeSpacing cascade, ⟨0, 0, 0⟩⟩ := by
  rw [Cascades.get_eq_ok, atOrigin, List.getElem?_toArray, List.getElem?_map,
    Option.map_eq_some_iff] at found
  rcases found with ⟨i, listed, rfl⟩
  rcases List.getElem?_eq_some_iff.mp listed with ⟨inside, number⟩
  rw [List.getElem_range inside] at number
  rw [number, Simulation.restart_ofSpacing]

noncomputable def whiteTexels (g : Grid) (resolution : Nat) : Texels (Vec4 ℝ) :=
  let size : Vec2 Nat :=
    ⟨g.counts.x * (resolution + 2), g.counts.y * g.counts.z * (resolution + 2) * g.cascades⟩
  ⟨.replicate (size.x * size.y) ⟨1, 1, 1, 1⟩, size⟩

noncomputable def whiteSampler (v : Volume ℝ) : Sampler ℝ where
  volume := v
  probes := .replicate (v.grid.cascades * v.grid.size) ⟨0, 131072⟩
  irradiance := whiteTexels v.grid irradianceResolution
  distance := whiteTexels v.grid distanceResolution

theorem read_white {g : Grid} {resolution : Nat} {at' : Vec2 Nat} {value : Vec4 ℝ}
    (read : (whiteTexels g resolution).read at' = .ok value) : value = ⟨1, 1, 1, 1⟩ := by
  rcases bind_eq_ok.mp read with ⟨i, -, held⟩
  rw [fetch_eq_ok, whiteTexels, Array.getElem?_replicate] at held
  split at held
  · exact (Option.some.inj held).symm
  · cases held

variable {v : Volume ℝ} {p : Placement ℝ} (stocked : (whiteSampler v).IsStocked cascade p)
  (spaced : 0 < p.spacing)

include stocked

theorem whiteSampler_isFilled : (whiteSampler v).IsFilled cascade ⟨1, 1, 1, 1⟩ := by
  intro slot inside packed held awake
  have origin := Grid.tileOrigin_of_lt stocked.irradiance.sized stocked.present inside
  refine ⟨_, origin, ?_⟩
  intro texel tile
  rcases stocked.irradiance.read_tile stocked.present inside (by decide) origin
    (Nat.le_of_lt_succ tile.1) (Nat.le_of_lt_succ tile.2) with ⟨value, read⟩
  rw [read, read_white read]

theorem whiteSampler_isAwake {coords : Vec3 Nat} (inside : v.grid.Contains coords) :
    (whiteSampler v).isAwakeAt cascade coords = true := by
  rcases stocked.slots _ (Grid.indexAt_lt inside) with ⟨slot, packed, physical, placed, held⟩
  have active : packed = ⟨0, 131072⟩ := by
    rw [whiteSampler, Array.getElem?_replicate] at held
    split at held
    · exact (Option.some.inj held).symm
    · cases held
  have read : v.readProbe (whiteSampler v).probes cascade (v.grid.indexAt coords) =
      .ok (Probe.unpack packed : Probe ℝ) := by
    rw [Volume.readProbe]
    exact bind_eq_ok.mpr ⟨slot, physical, bind_eq_ok.mpr ⟨_, placed,
      bind_eq_ok.mpr ⟨packed, fetch_eq_ok.mpr held, rfl⟩⟩⟩
  rw [isAwakeAt, Volume.isActive, show (whiteSampler v).volume = v from rfl, read, active]
  rfl

include spaced

theorem sampleCascade_white (pos normal : Vec3 ℝ) (bias : ℝ) :
    (whiteSampler v).sampleCascade cascade pos normal bias = .ok (.splat (2 * Real.pi)) := by
  rcases stocked.sampleCascade_average pos normal bias with
    ⟨-, -, weight, value, light, ran, -, shown, average⟩
  have readable : (whiteSampler v).IsReadable cascade p := { stocked with spaced }
  have awake := fun corner => whiteSampler_isAwake stocked (stocked.corner_ends pos corner).1
  have white : ∀ corner < 8, ∀ axis, (value corner).axis axis = 1 := by
    intro corner below axis
    have same := (readable.probeValue_eq (whiteSampler_isFilled stocked)
      (stocked.corner_ends pos corner).1 (awake corner) normal).symm.trans (shown corner below)
    have one : (⟨1, 1, 1, 1⟩ : Vec4 ℝ).xyz.axis axis = 1 := Vec3.axis_splat 1 axis
    rw [← Except.ok.inj same, Vec3.powPositive, Vec3.axis_map, maxNum_real, real_zero, one,
      max_eq_left zero_le_one]
    exact Real.one_rpow _
  have some : ((whiteSampler v).awakeCorners cascade p pos).Nonempty :=
    ⟨0, Finset.mem_filter.mpr ⟨Finset.mem_range.mpr (by decide), awake 0⟩⟩
  rw [ran]
  apply congrArg
  apply Vec3.eq_of_axes
  intro axis
  have mean : mean ((whiteSampler v).awakeCorners cascade p pos) weight value axis = 1 := by
    rw [← average.whole some, Sampler.mean]
    apply Finset.sum_congr rfl
    intro corner counted
    rw [white corner (Finset.mem_range.mp (Finset.mem_filter.mp counted).1), mul_one]
  have square := average.square some axis
  rw [mean, one_pow, div_eq_one_iff_eq Real.two_pi_pos.ne'] at square
  rw [square, Vec3.axis_splat]

omit stocked spaced

theorem volume_atOrigin (config : Config ℝ) (few : config.cascades ≤ maxCascades) :
    ∃ v, (atOrigin config).volume config .zero .identity = .ok v ∧ v.grid = config.grid ∧
      ∀ cascade < config.cascades,
        v.placement cascade = .ok ⟨.zero, config.cascadeSpacing cascade, ⟨0, 0, 0⟩⟩ := by
  have size : (atOrigin config).items.size = config.cascades := by simp [atOrigin]
  have placements : ∃ placements, (atOrigin config).placements = .ok placements := by
    rw [Cascades.placements, size, if_neg few.not_gt]
    exact ⟨_, rfl⟩
  have ends : ∃ v, (atOrigin config).volume config .zero .identity = .ok v :=
    bind_ends placements fun placed => ⟨_, rfl⟩
  rcases ends with ⟨v, made⟩
  rcases Cascades.volume_eq_ok made with ⟨grid, -, -, -, placed⟩
  refine ⟨v, made, ?_, ?_⟩
  · rw [grid, size]
    rfl
  · intro cascade present
    have found : ∃ item, (atOrigin config).get cascade = .ok item :=
      ⟨_, dif_pos (size.symm ▸ present)⟩
    rcases found with ⟨item, held⟩
    rw [placed cascade item held, atOrigin_get held]

theorem whiteSampler_isServed {config : Config ℝ} {v : Volume ℝ} (grid : v.grid = config.grid)
    (placed : ∀ cascade < config.cascades,
      v.placement cascade = .ok ⟨.zero, config.cascadeSpacing cascade, ⟨0, 0, 0⟩⟩)
    (few : config.cascades ≤ maxCascades)
    (counts : 2 ≤ config.probesCounts.x ∧ 2 ≤ config.probesCounts.y ∧ 2 ≤ config.probesCounts.z)
    (fits : config.grid.Fits ⟨0, 0, 0⟩)
    (irradiance : (whiteTexels config.grid irradianceResolution).IsAtlas config.grid
      irradianceResolution)
    (distance : (whiteTexels config.grid distanceResolution).IsAtlas config.grid
      distanceResolution) : (whiteSampler v).IsServed := by
  have volume : (whiteSampler v).volume.grid = config.grid := grid
  constructor
  case cascades => exact volume ▸ few
  case counts => exact volume ▸ counts
  case fits =>
    intro cascade present
    have listed : cascade < config.cascades := by rwa [volume] at present
    have scroll : (whiteSampler v).volume.scrollOf cascade = ⟨0, 0, 0⟩ :=
      Volume.scrollOf_eq (placed cascade listed)
    rw [volume, scroll]
    exact fits
  case probes => exact (Array.size_replicate ..).ge
  case irradiance =>
    rw [volume, whiteSampler, grid]
    exact irradiance
  case distance =>
    rw [volume, whiteSampler, grid]
    exact distance

theorem whiteTexels_isAtlas {g : Grid} {resolution : Nat}
    (sized : g.atlasSize resolution = .ok (whiteTexels g resolution).size)
    (words : (whiteTexels g resolution).size.x * (whiteTexels g resolution).size.y ≤ 4294967296) :
    (whiteTexels g resolution).IsAtlas g resolution :=
  ⟨sized, Array.size_replicate .., words⟩

/-- Two cascades that stand in each other's place: the second is not larger than the first. -/
noncomputable def twinConfig : Config ℝ :=
  { Simulation.airConfig with
    cascades := 2
    probesSpacing := 2
    spacingMultiplier := 1 }

theorem twinConfig_valid : twinConfig.validate = .ok [] := by
  have counted : twinConfig.probesCount = .ok 16 := rfl
  have bytes : twinConfig.atlasBytes = .ok 16 := rfl
  rw [Config.validate, counted, bytes]
  norm_num [twinConfig, Simulation.airConfig, Config.standard, Config.reportIf, maxCascades,
    maxProbes, Batch.traceGroupSize, Batch.raysLimit, maxBindingSize, maxVoxelCascades,
    Culling.blockSide]

theorem twinConfig_spacing {cascade : Nat} (few : cascade < maxCascades) :
    twinConfig.cascadeSpacing cascade = 2 := by
  rw [Config.cascadeSpacing_real _ few]
  simp [twinConfig]

theorem twin_fade {v : Volume ℝ} {p : Placement ℝ}
    (stocked : (whiteSampler v).IsStocked cascade p) (grid : v.grid = twinConfig.grid)
    (placed : p = ⟨.zero, 2, ⟨0, 0, 0⟩⟩) :
    (whiteSampler v).cascadeFade cascade ⟨1 / 2, 0, 0⟩ = .ok (1 / 2) := by
  have counts : (whiteSampler v).volume.grid.counts = ⟨2, 2, 2⟩ := by
    rw [whiteSampler, grid]
    rfl
  have nearest : (depth ⟨2, 2, 2⟩ p ⟨1 / 2, 0, 0⟩).minElement = 1 / 2 := by
    rw [placed]
    norm_num [depth, Vec3.minElement, Vec3.zero, Vec3.splat, Vec3.ofInt, Vec3.ofNat, Vec3.map,
      Vec3.add_eq, Vec3.sub_eq, Vec3.scale_eq, Vec3.abs]
  rw [stocked.cascadeFade_eq, counts, nearest, placed, saturate, clampTo_real]
  norm_num

/-- Where the second of two cascades ends with the first, it is taken to go on: white fades by a
quarter there, and is shown as white. -/
theorem twin_not_composites : twinConfig.validate = .ok [] ∧ ¬Composites twinConfig := by
  refine ⟨twinConfig_valid, ?_⟩
  intro composites
  rcases volume_atOrigin twinConfig (by decide) with ⟨v, made, grid, placed⟩
  have served : (whiteSampler v).IsServed := by
    apply whiteSampler_isServed grid placed (by decide)
    · exact (by decide : 2 ≤ 2 ∧ 2 ≤ 2 ∧ 2 ≤ 2)
    · exact (by decide : Grid.Fits ⟨⟨2, 2, 2⟩, 2⟩ ⟨0, 0, 0⟩)
    · exact whiteTexels_isAtlas rfl (by decide)
    · exact whiteTexels_isAtlas rfl (by decide)
  have cascades : (whiteSampler v).volume.grid.cascades = 2 := congrArg Grid.cascades grid
  have each : ∀ cascade < 2,
      (whiteSampler v).cascadeFade cascade ⟨1 / 2, 0, 0⟩ = .ok (1 / 2) ∧
        (whiteSampler v).sampleCascade cascade ⟨1 / 2, 0, 0⟩ ⟨1, 0, 0⟩ 0 =
          .ok (.splat (2 * Real.pi)) := by
    intro cascade present
    rcases served.stocked (cascades.symm ▸ present) with ⟨p, stocked⟩
    have there := Except.ok.inj (stocked.placed.symm.trans (placed cascade present))
    rw [twinConfig_spacing (present.trans (by decide))] at there
    have spaced : 0 < p.spacing := by
      rw [there]
      exact two_pos
    exact ⟨twin_fade stocked grid there, sampleCascade_white stocked spaced _ _ _⟩
  have both : 0 + 2 ≤ (whiteSampler v).volume.grid.cascades := cascades.ge
  rcases served.showsExcess ⟨1 / 2, 0, 0⟩ ⟨1, 0, 0⟩ 0 both
    with ⟨light, whole, extra, ran, composed, exceeded, same⟩
  have claimed := composites [.zero] _ .zero .identity (whiteSampler v) (by simp)
    (follow_origin twinConfig) made served ⟨1 / 2, 0, 0⟩ ⟨1, 0, 0⟩ 0
  rw [sample, cascades, ran, composed] at claimed
  have none : extra.axis 0 = 0 := by
    have total := congrArg (Vec3.axis · 0) same
    rw [Except.ok.inj claimed, Vec3.axis_add] at total
    linarith
  have covered : lt 0.0 (1 / 2 : ℝ) = true := by simp
  rw [excess, (each 0 (by decide)).1, ok_bind, if_pos covered, if_neg (by decide),
    (each 1 (by decide)).1, (each 1 (by decide)).2] at exceeded
  have quarter : (2 * Real.pi - 0.0) * ((1.0 - 1 / 2) * (1.0 - 1 / 2)) = extra.axis 0 :=
    congrArg (Vec3.axis · 0) (Except.ok.inj exceeded)
  rw [none] at quarter
  norm_num [Real.pi_ne_zero] at quarter

end Examples

section Reached

variable {config : Config ℝ} {views : List (Vec3 ℝ)} {cascades : Cascades ℝ} {viewPos : Vec3 ℝ}
  {rotation : Quat ℝ}

/-- What sampling shows is the composite of all cascades and an excess, which is there only where the
first cascade that covers a point and the next one cover it in part, with the next one brighter or
darker than what is behind it. There is none if each cascade has room enough for the one before. -/
theorem sample_eq_composite_add_excess (valid : config.validate = .ok []) (some : views ≠ [])
    (reached : (Cascades.create config).follow views = .ok cascades)
    (made : cascades.volume config viewPos rotation = .ok s.volume) (served : s.IsServed)
    (pos normal : Vec3 ℝ) (bias : ℝ) :
    ∃ light whole extra, s.sample pos normal bias = .ok light ∧
      s.composite pos normal bias s.volume.grid.cascades 0 = .ok whole ∧
      s.excess pos normal bias s.volume.grid.cascades 0 = .ok extra ∧ light = whole + extra ∧
      (config.IsRoomy →
        (∀ cascade item, cascades.get cascade = .ok item → item.IsScrollable) → light = whole) := by
  have all : 0 + s.volume.grid.cascades ≤ s.volume.grid.cascades := (Nat.zero_add _).le
  rcases served.showsExcess pos normal bias all with
    ⟨light, whole, extra, ran, composed, exceeded, same⟩
  refine ⟨light, whole, extra, ran, composed, exceeded, same, ?_⟩
  intro roomy within
  have nested := isNested_of_roomy valid some reached made served roomy within pos
  rw [same, served.excess_of_nested nested all exceeded, add_zero_eq]

noncomputable def roomyConfig : Config ℝ :=
  { Simulation.airConfig with
    cascades := 2
    probesCounts := ⟨8, 8, 8⟩ }

theorem roomyConfig_valid : roomyConfig.validate = .ok [] := by
  have counted : roomyConfig.probesCount = .ok 1024 := rfl
  have bytes : roomyConfig.atlasBytes = .ok 16 := rfl
  rw [Config.validate, counted, bytes]
  norm_num [roomyConfig, Simulation.airConfig, Config.standard, Config.reportIf, maxCascades,
    maxProbes, Batch.traceGroupSize, Batch.raysLimit, maxBindingSize, maxVoxelCascades,
    Culling.blockSide]

theorem roomyConfig_isRoomy : roomyConfig.IsRoomy := by
  intro axis
  have count : roomyConfig.probesCounts.axis axis = 8 := Vec3.axis_splat 8 axis
  rw [count]
  norm_num [roomyConfig, Simulation.airConfig, Config.standard]

theorem roomy_sample_eq_composite : ∃ v light, (atOrigin roomyConfig).volume roomyConfig .zero
      .identity = .ok v ∧ (whiteSampler v).IsServed ∧
    (whiteSampler v).sample ⟨3, 0, 0⟩ ⟨1, 0, 0⟩ 0 = .ok light ∧
    (whiteSampler v).composite ⟨3, 0, 0⟩ ⟨1, 0, 0⟩ 0 (whiteSampler v).volume.grid.cascades 0 =
      .ok light := by
  rcases volume_atOrigin roomyConfig (by decide) with ⟨v, made, grid, placed⟩
  have served : (whiteSampler v).IsServed := by
    apply whiteSampler_isServed grid placed (by decide)
    · exact (by decide : 2 ≤ 8 ∧ 2 ≤ 8 ∧ 2 ≤ 8)
    · exact (by decide : Grid.Fits ⟨⟨8, 8, 8⟩, 2⟩ ⟨0, 0, 0⟩)
    · exact whiteTexels_isAtlas rfl (by decide)
    · exact whiteTexels_isAtlas rfl (by decide)
  have within : ∀ cascade item, (atOrigin roomyConfig).get cascade = .ok item →
      item.IsScrollable := by
    intro cascade item found axis
    have still : (⟨0, 0, 0⟩ : Vec3 Int).axis axis = 0 := Vec3.axis_splat 0 axis
    rw [atOrigin_get found, still]
    decide
  rcases sample_eq_composite_add_excess roomyConfig_valid (by simp) (follow_origin roomyConfig) made
    served ⟨3, 0, 0⟩ ⟨1, 0, 0⟩ 0 with ⟨light, whole, -, ran, composed, -, -, same⟩
  obtain rfl := same roomyConfig_isRoomy within
  exact ⟨v, light, made, served, ran, composed⟩

end Reached

end Sampler

end IrradianceField
