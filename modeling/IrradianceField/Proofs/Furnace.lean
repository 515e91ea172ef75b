import IrradianceField.Scalar.Real
import IrradianceField.Proofs.Filtering
import IrradianceField.Proofs.Framing
import IrradianceField.Proofs.History
import IrradianceField.Proofs.Numbering

/-!
The furnace: where all rays miss and the sky is the same everywhere, a frame fills the tiles of its
probes with one value, and blending does not move them away from it.
-/

namespace IrradianceField

open Scalar

noncomputable def encodedHalf (radiance : Vec3 ℝ) (gamma : ℝ) : Vec3 ℝ :=
  ⟨(radiance.x / 2) ^ (1 / gamma), (radiance.y / 2) ^ (1 / gamma), (radiance.z / 2) ^ (1 / gamma)⟩

def Vec3.IsNonneg (v : Vec3 ℝ) : Prop := 0 ≤ v.x ∧ 0 ≤ v.y ∧ 0 ≤ v.z

namespace Updating

variable {volume : Volume ℝ} {rays : Array (Vec4 ℝ)} {radiance dir : Vec3 ℝ}

/-- What the first rays of a probe weigh around a direction, each by the cosine of its angle. -/
noncomputable def cosineSum (count rays : Nat) (rotation : Quat ℝ) (dir : Vec3 ℝ) : ℝ :=
  ∑ ray ∈ Finset.range rays, max (dir.dot (Ray.probeDirection ray count rotation)) 0

/-- All rays of a probe see a radiance at the distance of the sky. -/
def SeeSky (volume : Volume ℝ) (rays : Array (Vec4 ℝ)) (radiance : Vec3 ℝ) : Prop :=
  ∀ ray < raysRead volume, rays[ray]? = some (radiance.extend Tracing.skyDistance)

theorem add_of_sky (total : ℝ) (rayDir : Vec3 ℝ) (backfaces : Nat) :
    IrradianceSum.add ⟨radiance.scale total, total, backfaces⟩ dir rayDir
        (radiance.extend Tracing.skyDistance) =
      ⟨radiance.scale (total + max (dir.dot rayDir) 0), total + max (dir.dot rayDir) 0,
        backfaces⟩ := by
  have front : lt (radiance.extend (Tracing.skyDistance : ℝ)).w 0.0 = false := by
    simp only [Vec3.extend, Tracing.skyDistance, lt_real, decide_eq_false_iff_not]
    norm_num
  rw [IrradianceSum.add, front]
  simp only [Bool.false_eq_true, if_false, maxNum_real, real_zero, Vec3.extend, Vec4.xyz,
    Vec3.add_eq, Vec3.scale_eq, mul_add]

theorem gathered_of_sky (sees : SeeSky volume rays radiance) {count : Nat}
    (few : count ≤ raysRead volume) :
    (List.range count).foldlM (fun (s : IrradianceSum ℝ) ray => do
      let (rayDir, stored) ← rayAt volume rays 0 ray
      return s.add dir rayDir stored) ⟨.zero, 0.0, 0⟩ =
        .ok ⟨radiance.scale (cosineSum (raysRead volume) count volume.raysRotation dir),
          cosineSum (raysRead volume) count volume.raysRotation dir, 0⟩ := by
  induction count with
  | zero =>
      simp only [List.range_zero, List.foldlM_nil, cosineSum, Finset.range_zero, Finset.sum_empty,
        pure_eq_ok, Vec3.zero, Vec3.splat, Vec3.scale_eq, mul_zero, real_zero]
  | succ count ih =>
      have short := few.trans Tracing.raysRead_le
      simp only [Batch.raysLimit] at short
      have place : Batch.traceIndex 0 count = .ok count :=
        Tracing.traceIndex_eq_ok.mpr ⟨by omega, by omega⟩
      have stored : rayAt volume rays 0 count =
          .ok (Ray.probeDirection count (raysRead volume) volume.raysRotation,
            radiance.extend Tracing.skyDistance) := by
        rw [rayAt, place, ok_bind, fetch_eq_ok.mpr (sees count few)]
        rfl
      rw [List.range_succ, List.foldlM_append, ih (Nat.le_of_succ_le few), ok_bind,
        List.foldlM_cons, stored, ok_bind]
      simp only [cosineSum, Finset.sum_range_succ]
      exact congrArg Except.ok (add_of_sky _ _ 0)

theorem gatherIrradiance_of_sky (sees : SeeSky volume rays radiance) (some : 0 < raysRead volume)
    (enough : raysRead volume * 1e-9 ≤
      cosineSum (raysRead volume) (raysRead volume) volume.raysRotation dir) :
    gatherIrradiance volume rays 0 dir = .ok ((radiance.divide 2).extend 1) := by
  have least : (0 : ℝ) < raysRead volume * 1e-9 := by
    have count : (0 : ℝ) < (raysRead volume : ℝ) := Nat.cast_pos.mpr some
    positivity
  have weight := least.trans_le enough
  have share : ∀ a total : ℝ, 0 < total → a * total / (2 * total) = a / 2 :=
    fun a total positive => mul_div_mul_right a 2 positive.ne'
  rw [gatherIrradiance]
  dsimp only
  rw [gathered_of_sky sees le_rfl, ok_bind]
  simp only [Nat.not_lt_zero, if_false, pure_eq_ok, maxNum_real, ofNat_real, max_eq_left enough,
    real_two, real_one, Vec3.divide_eq, Vec3.scale_eq, share _ _ weight]

theorem blendIrradiance_self (value : Vec3 ℝ) (weight : ℝ) :
    blendIrradiance value value weight = value := by
  have still : value - value = ⟨0, 0, 0⟩ := by
    simp only [Vec3.sub_eq, sub_self]
  have length : Vec3.length (⟨0, 0, 0⟩ : Vec3 ℝ) = 0 := by
    simp [Vec3.length, Vec3.dot]
  have calm : lt (flickerLimit : ℝ) 0 = false := by
    simp only [flickerLimit, lt_real, decide_eq_false_iff_not]
    norm_num
  rw [blendIrradiance]
  split
  · rfl
  · simp only [still, length, calm, Bool.false_eq_true, if_false, Vec3.scale_eq, zero_mul,
      Vec3.add_eq, add_zero]

theorem gather_of_sky {cascade : Nat} {texel : Vec2 Nat} (nonneg : radiance.IsNonneg)
    (sees : SeeSky volume rays radiance) (some : 0 < raysRead volume)
    (enough : raysRead volume * 1e-9 ≤ cosineSum (raysRead volume) (raysRead volume)
      volume.raysRotation (Octahedral.texelDirection texel irradianceResolution)) :
    Layer.irradiance.gather volume cascade rays 0 texel =
      .ok ((encodedHalf radiance volume.gamma).extend 1) := by
  obtain ⟨x, y, z⟩ := nonneg
  have half : ∀ {a : ℝ}, 0 ≤ a → max (a / 2) 0 = a / 2 :=
    fun low => max_eq_left (div_nonneg low two_pos.le)
  rw [Layer.gather]
  dsimp only [Layer.resolution]
  rw [gatherIrradiance_of_sky sees some enough, ok_bind]
  simp only [encodedHalf, Vec3.powPositive, Vec3.map, Vec3.extend, Vec4.xyz, Vec3.divide_eq,
    maxNum_real, real_zero, real_one, half x, half y, half z, pure_eq_ok]
  rfl

theorem change_of_sky {probes : Array PackedProbe} {s : Surroundings ℝ} {cascade index : Nat}
    {resetBlend : Bool} {size texel : Vec2 Nat} {old new : Vec4 ℝ} (nonneg : radiance.IsNonneg)
    (sees : ∀ rays, Tracing.row volume probes s cascade index = .ok rays →
      SeeSky volume rays radiance) (some : 0 < raysRead volume)
    (enough : raysRead volume * 1e-9 ≤ cosineSum (raysRead volume) (raysRead volume)
      volume.raysRotation (Octahedral.texelDirection texel irradianceResolution))
    (kept : ∀ weight, historyOf volume probes cascade resetBlend index = .ok weight → weight = 0 ∨
      old.xyz = encodedHalf radiance volume.gamma)
    (changed : (edit .irradiance volume probes s cascade resetBlend size index texel).change old =
      .ok new) : new = (encodedHalf radiance volume.gamma).extend 1 := by
  simp only [edit, bind_eq_ok] at changed
  obtain ⟨weight, history, rays, row, gathered, around, _, -, blended⟩ := changed
  rw [gather_of_sky nonneg (sees rays row) some enough] at around
  obtain rfl := Except.ok.inj around
  obtain rfl := Except.ok.inj blended
  have same : ((encodedHalf radiance volume.gamma).extend 1).xyz =
      encodedHalf radiance volume.gamma := rfl
  rw [same, real_one]
  cases kept weight history with
  | inl none => simp [blendIrradiance, none]
  | inr held => rw [held, blendIrradiance_self]

end Updating

def Texels.IsFilledAt (t : Texels (Vec4 ℝ)) (g : Grid) (cascade slot : Nat) (value : Vec4 ℝ) : Prop :=
  ∃ origin, g.tileOrigin cascade slot irradianceResolution = .ok origin ∧ ∀ texel : Vec2 Nat,
    texel.x < irradianceResolution + 2 ∧ texel.y < irradianceResolution + 2 →
      t.read ⟨origin.x + texel.x, origin.y + texel.y⟩ = .ok value

def FrameMemory.IsFilled (g : Grid) (value : Vec4 ℝ) (m : FrameMemory ℝ) : Prop :=
  ∀ cascade < g.cascades, ∀ slot < g.size, ∀ packed : PackedProbe,
    m.store.probes[cascade * g.size + slot]? = some packed →
      (Probe.unpack packed : Probe ℝ).state ≠ .inactive →
        m.irradiance.IsFilledAt g cascade slot value

theorem Texels.IsFilledAt.read_texelAt {t : Texels (Vec4 ℝ)} {g : Grid} {cascade slot : Nat}
    {value : Vec4 ℝ} (filled : t.IsFilledAt g cascade slot value) {texel : Vec2 Nat}
    (tile : texel.x < irradianceResolution ∧ texel.y < irradianceResolution) :
    t.read (g.texelAt cascade slot irradianceResolution texel) = .ok value := by
  obtain ⟨origin, found, reads⟩ := filled
  obtain rfl := Grid.tileOrigin_eq_ok found
  exact reads ⟨1 + texel.x, 1 + texel.y⟩ ⟨by dsimp only; omega, by dsimp only; omega⟩

theorem FrameMemory.IsSized.held_of_read {config : Config ℝ} {m : FrameMemory ℝ}
    (sized : m.IsSized config) (layer : Layer) {cascade slot : Nat} {texel : Vec2 Nat}
    {value : Vec4 ℝ} (read : (layer.atlas m).read
      (config.grid.texelAt cascade slot layer.resolution texel) = .ok value) :
    (layer.atlas m).data[config.grid.texelPlace cascade slot layer.resolution texel
      (config.grid.counts.x * (layer.resolution + 2))]? = some value := by
  obtain ⟨i, indexed, held⟩ := bind_eq_ok.mp read
  obtain rfl := Texels.index_eq_ok indexed
  rw [← sized.width layer]
  exact fetch_eq_ok.mp held

theorem Texels.isFilledAt_of_fillBorders {config : Config ℝ} {atlas after : Texels (Vec4 ℝ)}
    {cascade slot : Nat} {value : Vec4 ℝ}
    (sized : config.grid.atlasSize irradianceResolution = .ok atlas.size)
    (tiled : Border.IsTiled irradianceResolution config.grid.counts.x
      (config.grid.counts.y * config.grid.counts.z * config.grid.cascades) atlas)
    (counted : config.probesCount = .ok (config.grid.counts.x *
      (config.grid.counts.y * config.grid.counts.z * config.grid.cascades)))
    (ran : Frame.fillBorders config irradianceResolution atlas = .ok after)
    (present : cascade < config.grid.cascades) (inside : slot < config.grid.size)
    (inner : ∀ texel : Vec2 Nat, texel.x < irradianceResolution ∧ texel.y < irradianceResolution →
      atlas.data[config.grid.texelPlace cascade slot irradianceResolution texel
        (config.grid.counts.x * (irradianceResolution + 2))]? = some value) :
    after.IsFilledAt config.grid cascade slot value := by
  obtain ⟨columns, -, -⟩ := Grid.counts_pos_of_lt_size inside
  obtain ⟨row, column⟩ := Grid.number_div (g := config.grid) cascade slot columns
  have number : cascade * config.grid.size + slot < config.grid.counts.x *
      (config.grid.counts.y * config.grid.counts.z * config.grid.cascades) := by
    calc
      cascade * config.grid.size + slot < (cascade + 1) * config.grid.size := by
        rw [Nat.succ_mul]
        exact Nat.add_lt_add_left inside _
      _ ≤ config.grid.cascades * config.grid.size := Nat.mul_le_mul_right _ present
      _ = config.grid.counts.x *
          (config.grid.counts.y * config.grid.counts.z * config.grid.cascades) := by
        unfold Grid.size
        ring
  refine ⟨_, Grid.tileOrigin_of_lt sized present inside, fun texel near => ?_⟩
  have near : texel.x ≤ irradianceResolution + 1 ∧ texel.y ≤ irradianceResolution + 1 := by omega
  obtain ⟨src, ⟨x, y⟩, mirrors⟩ := Frame.fillBorders_frames counted (by decide) (by decide) tiled ran
    number near
  have held := inner ⟨src.x - 1, src.y - 1⟩ ⟨by dsimp only; omega, by dsimp only; omega⟩
  obtain ⟨tiles, keeps⟩ := Frame.fillBorders_keeps ran
  obtain ⟨i, indexed, -⟩ := tiled.index_of_tile (Nat.mod_lt slot columns)
    (row ▸ Nat.div_lt_of_lt_mul number) near
  have place := Texels.index_eq_ok indexed
  rw [Border.Mirrors, Border.elementOf, Border.elementOf, row, column] at mirrors
  rw [Grid.texelPlace, Grid.texelAt] at held
  dsimp only at held place
  rw [Nat.add_sub_cancel' x.1, Nat.add_sub_cancel' y.1] at held
  rw [held] at mirrors
  rw [tiled.size] at place
  rw [Texels.read, keeps.size, indexed, ok_bind, fetch_eq_ok, place]
  exact mirrors

namespace FrameLog

/-- A frame inside of a furnace: the sky has the same radiance everywhere, all rays of the probes
miss, and the rays are spread around the directions of all texels. -/
structure IsFurnace (radiance : Vec3 ℝ) (log : FrameLog ℝ) : Prop where
  sky : Sky.IsUniform log.input.scene.sky radiance
  misses : ∀ cascade pass mid, log.classified cascade = .ok (pass, mid) →
    ∀ index ∈ mid.store.active.toList, ∀ probe origin,
      log.input.volume.readProbe mid.store.probes cascade index = .ok probe →
      log.input.volume.relocatedPosition cascade index probe = .ok origin →
      ∀ ray < log.input.volume.raysCount, log.input.scene.field.trace
        ⟨origin, Ray.probeDirection ray log.input.volume.raysCount log.input.volume.raysRotation⟩
        log.input.volume.rayMaxDistance = .ok none
  weights : ∀ texel : Vec2 Nat, texel.x < irradianceResolution ∧ texel.y < irradianceResolution →
    log.input.volume.raysCount * 1e-9 ≤
      Updating.cosineSum log.input.volume.raysCount log.input.volume.raysCount
        log.input.volume.raysRotation (Octahedral.texelDirection texel irradianceResolution)

variable {config : Config ℝ} {log : FrameLog ℝ} {radiance : Vec3 ℝ} {cascade index : Nat}
  {pass : ClassificationPass} {mid last memory : FrameMemory ℝ}

/-- What the rays of a frame meet is the scene, with the surfaces that were lit for it. -/
def MeetsScene (log : FrameLog ℝ) : Prop :=
  ∃ lists, log.met = Frame.surroundings log.input lists log.start.lighting

theorem raysRead_eq (valid : config.validate = .ok []) (own : log.IsOf config) :
    Updating.raysRead log.input.volume = log.input.volume.raysCount ∧
      0 < log.input.volume.raysCount := by
  obtain ⟨some, few⟩ := Config.rays_of_valid valid
  rw [← own.rays] at some few
  exact ⟨Nat.min_eq_left few, some⟩

theorem IsFurnace.traceRay_eq (furnace : log.IsFurnace radiance) (meets : log.MeetsScene)
    (judged : log.classified cascade = .ok (pass, mid)) (listed : index ∈ mid.store.active.toList)
    {probe : Probe ℝ} {origin : Vec3 ℝ}
    (read : log.input.volume.readProbe mid.store.probes cascade index = .ok probe)
    (placed : log.input.volume.relocatedPosition cascade index probe = .ok origin) {ray : Nat}
    (inside : ray < log.input.volume.raysCount) : Tracing.traceRay log.met
      ⟨origin, Ray.probeDirection ray log.input.volume.raysCount log.input.volume.raysRotation⟩
      log.input.volume.rayMaxDistance = .ok (radiance.extend Tracing.skyDistance) := by
  obtain ⟨lists, met⟩ := meets
  have missed := furnace.misses cascade pass mid judged index listed probe origin read placed ray
    inside
  rw [met, Tracing.traceRay, Frame.surroundings]
  dsimp only
  rw [missed, ok_bind]
  dsimp only
  rw [Sky.sample_of_isUniform furnace.sky]
  rfl

theorem IsFurnace.seeSky (furnace : log.IsFurnace radiance) (meets : log.MeetsScene)
    (valid : config.validate = .ok []) (own : log.IsOf config)
    (judged : log.classified cascade = .ok (pass, mid)) (listed : index ∈ mid.store.active.toList)
    {rays : Array (Vec4 ℝ)}
    (row : Tracing.row log.input.volume mid.store.probes log.met cascade index = .ok rays) :
    Updating.SeeSky log.input.volume rays radiance := by
  intro ray inside
  obtain ⟨value, sight, held⟩ := (Tracing.row_eq_ok.mp row).2 ray inside
  obtain ⟨probe, read, sight⟩ := bind_eq_ok.mp sight
  obtain ⟨origin, placed, sight⟩ := bind_eq_ok.mp sight
  rw [(raysRead_eq valid own).1] at inside
  rw [furnace.traceRay_eq meets judged listed read placed inside] at sight
  rw [held, Except.ok.inj sight]

/-- After the cascades of a frame, the inner texels of listed probes hold the encoded radiance if
those of the probes that were awake before did. -/
theorem IsFurnace.stored (furnace : log.IsFurnace radiance) (meets : log.MeetsScene)
    (valid : config.validate = .ok []) (own : log.IsOf config) (nonneg : radiance.IsNonneg)
    (filled : log.start.IsFilled config.grid
      ((encodedHalf radiance log.input.volume.gamma).extend 1))
    (present : cascade < config.cascades) (holds : log.Holds cascade pass mid last)
    (listed : index ∈ mid.store.active.toList) {texel : Vec2 Nat}
    (tile : texel.x < irradianceResolution ∧ texel.y < irradianceResolution) :
    last.irradiance.data[log.elementOf .irradiance cascade index texel]? =
      some ((encodedHalf radiance log.input.volume.gamma).extend 1) := by
  obtain ⟨old, new, held, changed, stored⟩ := holds.stored .irradiance index listed texel tile
  obtain ⟨before, up, classified, ready⟩ := stages_of_classified valid own holds.classified
  obtain ⟨rays, some⟩ := raysRead_eq valid own
  have small := (FrameLog.small valid own).1
  have inside := ready.inside index listed
  have enough := furnace.weights texel tile
  rw [← rays] at enough some
  have same : new = (encodedHalf radiance log.input.volume.gamma).extend 1 := by
    refine Updating.change_of_sky nonneg (fun rays row =>
      furnace.seeSky meets valid own holds.classified listed row) some enough ?_ changed
    intro weight history
    by_cases none : weight = 0
    · exact .inl none
    right
    obtain ⟨probe, read, history⟩ := bind_eq_ok.mp history
    obtain rfl := Except.ok.inj history
    obtain ⟨-, -, -, packed, slot, awake⟩ := Simulation.kept_of_weight small classified listed read
      (fun zero => none (zero.trans real_zero))
    -- The slot was awake when the frame began, and its tile has not been touched since.
    obtain ⟨sized, untouched⟩ := before_keeps valid own up
    have agrees := untouched cascade le_rfl
    have below : config.grid.slotAt (log.input.volume.scrollOf cascade) index < config.grid.size := by
      rw [← own.grid]
      exact Grid.slotAt_lt inside
    rw [Volume.site, Grid.siteAt, own.grid, agrees.probes _ below] at slot
    have read : (Layer.irradiance.atlas before).read (config.grid.texelAt cascade
        (config.grid.slotAt (log.input.volume.scrollOf cascade) index) Layer.irradiance.resolution
        texel) = .ok ((encodedHalf radiance log.input.volume.gamma).extend 1) :=
      agrees.read_eq own.sized sized below tile
        ((filled cascade present _ below packed slot awake).read_texelAt tile)
    have element := sized.held_of_read .irradiance read
    rw [classified.atlas_eq, elementOf, own.grid, element] at held
    rw [← Option.some.inj held]
    rfl
  exact same ▸ stored

/-- A frame in a furnace fills the tiles of the probes that are not inactive after it, if those of
the probes before it were filled. -/
theorem IsFurnace.fills (furnace : log.IsFurnace radiance) (meets : log.MeetsScene)
    (valid : config.validate = .ok []) (own : log.IsOf config) (nonneg : radiance.IsNonneg)
    (filled : log.start.IsFilled config.grid
      ((encodedHalf radiance log.input.volume.gamma).extend 1))
    (ran : log.before config.cascades = .ok last)
    (framed : Frame.borders log.input last = .ok memory) :
    memory.IsFilled config.grid ((encodedHalf radiance log.input.volume.gamma).extend 1) := by
  intro cascade present slot inside packed held awake
  obtain ⟨sized, -⟩ := before_keeps valid own ran
  obtain ⟨tiled, counted⟩ := sized.isTiled valid .irradiance
  obtain ⟨store, borders⟩ := Frame.borders_eq_ok framed
  have bordered := borders .irradiance
  rw [own.configured] at bordered
  obtain ⟨pass, mid, holds⟩ := holds_before valid own ran present
  obtain ⟨_, -, classified, -⟩ := stages_of_classified valid own holds.classified
  obtain ⟨index, below, same⟩ :=
    Grid.exists_slotAt (log.input.volume.scrollOf cascade) (own.grid ▸ inside)
  have listed : index ∈ mid.store.active.toList := by
    refine classified.listed_of_slot (FrameLog.small valid own).1 below ?_ awake
    rw [Volume.site, Grid.siteAt, same, ← holds.probes slot (own.grid ▸ inside), own.grid, ← held,
      store]
  refine Texels.isFilledAt_of_fillBorders (sized.atlases .irradiance) tiled counted bordered present
    inside fun texel tile => ?_
  have stored := furnace.stored meets valid own nonneg filled present holds listed tile
  rw [elementOf, same, own.grid] at stored
  exact stored

end FrameLog

end IrradianceField
