import IrradianceField.Proofs.Sampling
import IrradianceField.Proofs.Culling
import IrradianceField.Proofs.Marching
import IrradianceField.Proofs.Spreading

/-!
The white furnace: frame after frame in which all rays miss and the sky is the same everywhere,
probes hold the radiance of the sky, and surfaces reflect all of it that their albedo lets through.
-/

namespace IrradianceField

open Scalar

section Spacings

theorem powInt_pos {base : ℝ} (positive : 0 < base) (n : Int) : 0 < powInt base n := by
  have power : 0 < powNat base n.natAbs :=
    powLoop_keeps (P := fun a : ℝ => 0 < a) mul_pos _ positive (by norm_num)
  rw [powInt]
  split
  · exact div_pos (by norm_num) power
  · exact power

theorem Config.IsAccepted.cascadeSpacing_pos {config : Config ℝ} (accepted : config.IsAccepted)
    (cascade : Nat) : 0 < config.cascadeSpacing cascade := by
  have spacing := accepted.spacing
  have multiplier := accepted.multiplier
  simp only [le_real, lt_real, real_zero, real_one, decide_eq_false_iff_not, not_le,
    not_lt] at spacing multiplier
  exact mul_pos spacing (powInt_pos (one_pos.trans_le multiplier) _)

def Cascades.IsSpaced (c : Cascades ℝ) : Prop :=
  ∀ cascade item, c.get cascade = .ok item → 0 < item.placement.spacing

theorem Cascade.spacing_of_update {α : Type} [Scalar α] {c d : Cascade α} {viewPos : Vec3 α}
    {counts : Vec3 Nat} (ran : c.update viewPos counts = .ok d) :
    d.placement.spacing = c.placement.spacing := by
  obtain ⟨-, ⟨-, rfl⟩ | ⟨-, -, rfl⟩⟩ := update_eq_ok.mp ran
  · rfl
  · rfl

namespace Cascades

variable {c d : Cascades ℝ} {config : Config ℝ}

theorem isSpaced_of_update {viewPos : Vec3 ℝ} (spaced : c.IsSpaced)
    (ran : c.update viewPos = .ok d) : d.IsSpaced := by
  intro cascade item found
  obtain ⟨before, held, updated⟩ := (update_eq_ok ran).2.2 cascade item found
  rw [Cascade.spacing_of_update updated]
  exact spaced cascade before held

theorem isSpaced_of_create (valid : config.validate = .ok []) : (create config).IsSpaced := by
  intro cascade item found
  rw [get_eq_ok, create, List.getElem?_toArray, List.getElem?_map, Option.map_eq_some_iff] at found
  obtain ⟨cascade, -, rfl⟩ := found
  exact (Config.isAccepted_of_valid valid).cascadeSpacing_pos cascade

end Cascades

end Spacings

namespace FrameLog

/-- A frame of a configuration over the reals, with what its simulation lets it meet. -/
structure IsSetUp (config : Config ℝ) (log : FrameLog ℝ) : Prop where
  own : log.IsOf config
  gamma : log.input.volume.gamma = config.irradianceGamma
  meets : log.MeetsScene
  placed : ∀ cascade < config.cascades, ∃ p, log.input.volume.placement cascade = .ok p ∧
    0 < p.spacing

variable {config : Config ℝ} {log : FrameLog ℝ} {radiance : Vec3 ℝ} {cascade : Nat}
  {pass : ClassificationPass} {m mid : FrameMemory ℝ}

theorem size_lt (valid : config.validate = .ok []) (own : log.IsOf config) :
    log.input.volume.grid.size < 4294967296 := by
  obtain ⟨-, -, counted, -⟩ := Config.small_of_valid valid
  rw [own.grid]
  exact (Grid.probesPerCascade_eq_ok.mp counted).2.2

theorem IsSetUp.readable (setUp : log.IsSetUp config) (valid : config.validate = .ok [])
    (sized : m.IsSized config) (present : cascade < config.cascades)
    (holds : log.Holds cascade pass mid m) :
    ∃ p, (m.sampler log.input.volume).IsReadable cascade p := by
  have own := setUp.own
  obtain ⟨p, placed, spaced⟩ := setUp.placed cascade present
  have small := (FrameLog.small valid own).1
  have atlas : ∀ layer : Layer, (layer.atlas m).IsAtlas log.input.volume.grid layer.resolution :=
    fun layer => ⟨own.grid ▸ sized.atlases layer, sized.texels layer,
      (sized.isTiled valid layer).1.words⟩
  refine ⟨p, placed, spaced, own.grid ▸ present, ?_, small, size_lt valid own, ?_,
    atlas .irradiance, atlas .distance⟩
  · have counts := (Config.isAccepted_of_valid valid).counts
    exact own.grid ▸ counts
  · intro index inside
    obtain ⟨_, slot, probe, -, physical, place, stored⟩ := holds.judged valid own sized inside
    exact ⟨slot, probe.pack, physical, place, stored⟩

/-- All that a sky of the same radiance everywhere makes of a memory. The tiles of the probes that
are not inactive hold the radiance in its encoding. Wherever the first cascade that covers a point
covers it in full, and one of the eight probes around the point is not inactive, a surface gets `π`
times the radiance, and reflects what its albedo lets through. -/
structure IsLit (radiance : Vec3 ℝ) (log : FrameLog ℝ) (m : FrameMemory ℝ) : Prop where
  tiles : ∀ cascade < log.input.volume.grid.cascades, ∀ index,
    log.input.volume.isActive m.store.probes cascade index = true →
      ∃ slot, log.input.volume.physicalIndex cascade index = .ok slot ∧
        m.irradiance.IsFilledAt log.input.volume.grid cascade slot
          ((encodedHalf radiance log.input.volume.gamma).extend 1)
  samples : ∀ cascade < log.input.volume.grid.cascades, ∀ pos,
    (m.sampler log.input.volume).Covers cascade pos →
    (∃ index, log.input.volume.isActive m.store.probes cascade index = true ∧
      log.input.volume.Surrounds cascade index pos) →
    ∀ normal bias, ∃ light, (m.sampler log.input.volume).sample pos normal bias = .ok light ∧
      light = radiance.scale Real.pi ∧ ∀ albedo intensity,
        Lighting.indirect albedo light intensity = (albedo * radiance).scale intensity

theorem IsSetUp.isLit (setUp : log.IsSetUp config) (valid : config.validate = .ok [])
    (nonneg : radiance.IsNonneg) (sized : m.IsSized config)
    (holds : ∀ cascade < config.cascades, ∃ pass mid, log.Holds cascade pass mid m)
    (filled : m.IsFilled config.grid ((encodedHalf radiance config.irradianceGamma).extend 1)) :
    log.IsLit radiance m := by
  have positive := (Config.isAccepted_of_valid valid).gamma
  simp only [le_real, real_zero, decide_eq_false_iff_not, not_le] at positive
  rw [← setUp.gamma] at positive filled
  rw [← setUp.own.grid] at filled
  constructor
  case tiles =>
    intro cascade present index awake
    obtain ⟨slot, packed, physical, held, state⟩ := Volume.stored_of_isActive awake
    have tiled := sized.atlases .irradiance
    rw [← setUp.own.grid] at tiled
    exact ⟨slot, physical, filled cascade present slot (Volume.physicalIndex_lt tiled physical) packed
      held state⟩
  case samples =>
    intro cascade present pos covers seen normal bias
    have below : cascade < config.grid.cascades := setUp.own.grid ▸ present
    obtain ⟨pass, mid, holds⟩ := holds cascade below
    obtain ⟨p, readable⟩ := setUp.readable valid sized below holds
    have sampled := readable.sample_eq nonneg positive (filled cascade present) covers seen normal bias
    exact ⟨_, sampled, rfl, fun albedo => Lighting.indirect_eq albedo radiance⟩

theorem IsFurnace.works (furnace : log.IsFurnace radiance) (setUp : log.IsSetUp config)
    (valid : config.validate = .ok []) (present : cascade < config.cascades)
    (up : log.before cascade = .ok m)
    (judged : Frame.classifyProbes log.input m cascade = .ok (pass, mid)) : log.Works cascade m := by
  have own := setUp.own
  obtain ⟨p, placed, spaced⟩ := setUp.placed cascade present
  obtain ⟨small, -⟩ := FrameLog.small valid own
  have asked : log.classified cascade = .ok (pass, mid) := by
    rw [FrameLog.classified, up, ok_bind, judged]
  obtain ⟨_, -, classified, ready⟩ := stages_of_classified valid own asked
  constructor
  case limited =>
    have limit : Updating.distanceLimit log.input.volume cascade =
        .ok (Classification.distanceLimit * p.spacing) := by
      rw [Updating.distanceLimit, Volume.spacing_of_placement placed, ok_bind, pure_eq_ok]
    have positive : (0 : ℝ) ≤ Classification.distanceLimit * p.spacing :=
      mul_nonneg (by norm_num [Classification.distanceLimit]) spaced.le
    exact ⟨_, limit, by simpa using positive, by simpa using sq_nonneg _⟩
  case judged =>
    refine ⟨pass, mid, judged, fun index listed => ?_⟩
    obtain ⟨settled, known, previous, read, -⟩ := classified.judged_of_listed small listed
    obtain ⟨origin, located⟩ := Volume.relocatedPosition_ends placed (size_lt valid own)
      (ready.inside index listed) (.unpack settled.pack)
    refine Tracing.row_ends read located fun ray inside => ?_
    rw [(raysRead_eq valid own).1] at inside
    exact ⟨_, furnace.traceRay_eq setUp.meets asked listed read located inside⟩

end FrameLog

theorem FrameMemory.IsFilled.of_same {g : Grid} {value : Vec4 ℝ} {m after : FrameMemory ℝ}
    (filled : m.IsFilled g value) (probes : after.store.probes = m.store.probes)
    (irradiance : after.irradiance = m.irradiance) : after.IsFilled g value := by
  intro cascade present slot inside packed held awake
  rw [irradiance]
  exact filled cascade present slot inside packed (probes ▸ held) awake

theorem FrameMemory.isFilled_of_initial {config : Config ℝ} {g : Grid} {value : Vec4 ℝ}
    {m : FrameMemory ℝ} (ran : initial config = .ok m) : m.IsFilled g value := by
  intro cascade present slot inside packed held awake
  simp only [initial, bind_eq_ok, pure_eq_ok, Except.ok.injEq] at ran
  obtain ⟨_, -, _, -, _, -, _, -, _, -, _, -, rfl⟩ := ran
  obtain rfl : packed = ⟨0, 0⟩ := by
    simp only [Array.getElem?_replicate] at held
    split at held
    · exact (Option.some.inj held).symm
    · exact absurd held (by simp)
  exact absurd rfl awake

section Open

theorem Frame.cull_ends {α : Type} [Scalar α] {input : FrameInput α}
    (none : input.constants.objectsCount = 0)
    (whole : Culling.blockSide ∣ input.constants.chunkResolution)
    (few : input.constants.chunkResolution ≤ 1024) (some : 0 < input.constants.culledCapacity) :
    ∃ lists, cull input = .ok lists := by
  set side := input.constants.chunkResolution with resolution
  have square : side * side ≤ 1024 * 1024 := Nat.mul_le_mul few few
  have cube : side * side * side ≤ 1024 * 1024 * 1024 := Nat.mul_le_mul square few
  have counted : input.constants.chunksCount = .ok (side * side * side) := by
    rw [AtlasConstants.chunksCount, ← resolution]
    exact bind_eq_ok.mpr ⟨_, Word.mul_eq_ok.mpr ⟨rfl, by omega⟩, Word.mul_eq_ok.mpr ⟨rfl, by omega⟩⟩
  let objects : CullInput α := ⟨input.constants, input.records.objects, input.records.addresses⟩
  have complete := Culling.inOrder_isComplete side
  have asked : (Culling.inOrder side).asked objects (Culling.inOrder side).chunks = 0 := by
    apply List.sum_eq_zero
    intro n member
    obtain ⟨d, listed, rfl⟩ := List.mem_map.mp member
    obtain ⟨chunk, -, rfl⟩ := List.mem_map.mp listed
    have empty : ((Culling.inOrder side).listed objects chunk).length ≤ objects.constants.objectsCount :=
      Culling.length_listed_le complete chunk
    have nothing := List.length_eq_zero_iff.mp (Nat.le_zero.mp (empty.trans none.le))
    exact if_pos nothing
  have ran : (Culling.inOrder side).run objects (fun _ => Culling.staleCache)
      ⟨.replicate (side * side * side) 4294967295, .replicate input.constants.culledCapacity 0⟩ =
        .ok _ :=
    Culling.run_eq whole (few.trans (by decide)) (none.le.trans (Nat.zero_le _)) complete
      (fun _ => Array.size_replicate) (fun i below => absurd (none ▸ below) (Nat.not_lt_zero i))
      Array.size_replicate Array.size_replicate (by simp [some]) (by rw [asked]; decide)
  obtain ⟨counts, ran⟩ := Culling.run_eq_ok.mpr ran
  have cleared : Culling.emptyLists input.constants =
      .ok ⟨.replicate (side * side * side) 4294967295,
        .replicate input.constants.culledCapacity 0⟩ := by
    rw [Culling.emptyLists, counted, ok_bind, pure_eq_ok]
  exact ⟨_, bind_eq_ok.mpr ⟨_, cleared, bind_eq_ok.mpr ⟨_, ran, rfl⟩⟩⟩

theorem FrameLog.Holds.awake_of_near {α : Type} [Scalar α] {config : Config α} {log : FrameLog α}
    {cascade index : Nat} {pass : ClassificationPass} {mid m : FrameMemory α} {spacing : α}
    (valid : config.validate = .ok []) (own : log.IsOf config) (sized : m.IsSized config)
    (holds : log.Holds cascade pass mid m) (inside : index < log.input.volume.grid.size)
    (spaced : log.input.volume.spacing cascade = .ok spacing)
    (near : ∀ pos distance, log.input.scene.field.sample pos = .ok distance →
      Scalar.lt (Classification.distanceLimit * spacing) (Scalar.abs distance) = false) :
    log.input.volume.isActive m.store.probes cascade index = true := by
  have small := (FrameLog.small valid own).1
  obtain ⟨_, -, classified, -⟩ := stages_of_classified valid own holds.classified
  obtain rfl := Frame.cascade_of_pass classified.told
  obtain ⟨_, slot, probe, judged, physical, place, stored⟩ := holds.judged valid own sized inside
  have state := Classification.awake_of_near spaced near judged
  rw [Volume.isActive, Volume.readProbe, physical, ok_bind, place, ok_bind, fetch_eq_ok.mpr stored,
    ok_bind, pure_eq_ok]
  simp [ProbeState.isInactive, Classification.unpack_of_judge small inside judged, state]

namespace Simulation

variable {A α : Type} [Scalar α] {config : Config α} {s : Simulation A α}

theorem prepare_ends {viewPos : Vec3 α} {raysRotation : Quat α} {cascades : Cascades α}
    {volume : Volume α} (updated : s.cascades.update viewPos = .ok cascades)
    (placed : cascades.volume s.config viewPos raysRotation = .ok volume)
    (empty : s.refreshRecords.records = ⟨#[], #[], #[], 0⟩)
    (whole : Culling.blockSide ∣ s.config.atlasChunkResolution)
    (few : s.config.atlasChunkResolution ≤ 1024) (some : 0 < s.config.atlasCulledCapacity) :
    ∃ log, s.prepare viewPos raysRotation = .ok log := by
  rw [prepare, updated, ok_bind, placed, ok_bind, refreshRecords_eq, empty]
  dsimp only
  obtain ⟨lists, culled⟩ : ∃ lists, Frame.cull ⟨s.config, cascades, volume,
      s.config.atlasConstants viewPos 0, ⟨#[], #[], #[], 0⟩, s.scene, s.framesRun = 0⟩ = .ok lists :=
    Frame.cull_ends rfl whole few some
  exact ⟨_, bind_eq_ok.mpr ⟨s.memory, Frame.lightAtlas_of_empty rfl,
    bind_eq_ok.mpr ⟨lists, culled, rfl⟩⟩⟩

theorem records_of_create [RectAllocator A] (scene : Scene α) (ran : create config scene = .ok s) :
    s.refreshRecords.records = ⟨#[], #[], #[], 0⟩ := by
  obtain ⟨registry, made, ran⟩ := bind_eq_ok.mp ran
  obtain ⟨memory, -, ran⟩ := bind_eq_ok.mp ran
  obtain ⟨allocator, -, made⟩ := bind_eq_ok.mp made
  obtain rfl := Except.ok.inj made
  obtain rfl := Except.ok.inj ran
  rfl

end Simulation

end Open

namespace Simulation

variable {A : Type} [RectAllocator A] {config : Config ℝ} {s : Simulation A ℝ}
  {logs : List (FrameLog ℝ)} {log : FrameLog ℝ} {radiance viewPos : Vec3 ℝ} {raysRotation : Quat ℝ}

omit [RectAllocator A] in
theorem isSetUp_of_prepare (remembers : Remembers config s logs) (spaced : s.cascades.IsSpaced)
    (prepared : s.prepare viewPos raysRotation = .ok log) :
    log.IsSetUp config ∧ log.input.cascades.IsSpaced := by
  obtain ⟨own, -, size, -⟩ := remembers.prepared prepared
  obtain ⟨updated, placed, -, -, -, -, lists, met⟩ := prepare_eq_ok prepared
  obtain ⟨-, -, -, gamma, -⟩ := Cascades.volume_eq_ok placed
  have spaced := Cascades.isSpaced_of_update spaced updated
  rw [remembers.configured] at gamma
  refine ⟨⟨own, gamma, ⟨lists, met⟩, fun cascade present => ?_⟩, spaced⟩
  obtain ⟨item, found⟩ : ∃ item, log.input.cascades.get cascade = .ok item :=
    ⟨_, Cascades.get_eq_ok.mpr (Array.getElem?_eq_getElem (size.symm ▸ present))⟩
  exact ⟨item.placement, own.placed cascade item found, spaced cascade item found⟩

theorem filled_of_reached (valid : config.validate = .ok []) (nonneg : radiance.IsNonneg)
    (reached : Reached config s logs) (furnace : ∀ log ∈ logs, log.IsFurnace radiance) :
    s.memory.IsFilled config.grid ((encodedHalf radiance config.irradianceGamma).extend 1) ∧
      s.cascades.IsSpaced ∧ ∀ log ∈ logs, log.IsSetUp config := by
  induction reached with
  | create scene s ran =>
      obtain ⟨-, -, cascades, -, made⟩ := create_eq_ok scene ran
      rw [cascades]
      exact ⟨FrameMemory.isFilled_of_initial made, Cascades.isSpaced_of_create valid, by simp⟩
  | alter scene registry records s logs _ ih => exact ih furnace
  | advance viewPos raysRotation s s' logs log report before prepared ran ih =>
      obtain ⟨filled, spaced, setUp⟩ := ih fun log member =>
        furnace log (List.mem_append_left _ member)
      have remembers := remembers_of_reached valid before
      obtain ⟨ready, spaced⟩ := isSetUp_of_prepare remembers spaced prepared
      obtain ⟨last, memory, looped, framed, rfl⟩ := (advance_eq_ok prepared).mp ⟨report, ran⟩
      obtain ⟨lit, atlas⟩ := Frame.lightAtlas_eq_ok (prepare_eq_ok prepared).2.2.2.2.1
      have started := filled.of_same (congrArg (fun m => m.store.probes) lit) (atlas .irradiance)
      refine ⟨?_, spaced, ?_⟩
      · rw [← ready.gamma] at started ⊢
        rw [ready.own.grid] at looped
        exact (furnace log List.mem_concat_self).fills ready.meets valid ready.own nonneg started
          looped framed
      · intro other member
        cases List.mem_append.mp member with
        | inl earlier => exact setUp other earlier
        | inr same => exact List.mem_singleton.mp same ▸ ready

/-- The white furnace. After any number of frames of an accepted configuration, wherever its grids
have been placed, in which all rays miss and the sky has the same radiance everywhere, the tiles of
the probes hold that radiance and surfaces reflect all of it that their albedo lets through. A
further frame ends in such a memory too, if its probes can be classified. -/
theorem isLit_of_furnace (valid : config.validate = .ok []) (nonneg : radiance.IsNonneg)
    (reached : Reached config s logs) (furnace : ∀ log ∈ logs, log.IsFurnace radiance) :
    (∀ earlier log, logs = earlier ++ [log] → log.IsLit radiance s.memory) ∧
      ∀ viewPos raysRotation log, s.prepare viewPos raysRotation = .ok log →
        log.IsFurnace radiance →
        (∀ cascade < config.cascades, ∀ m, log.before cascade = .ok m →
          ∃ judged, Frame.classifyProbes log.input m cascade = .ok judged) →
        ∃ s' report, s.advance viewPos raysRotation = .ok (s', report) ∧
          log.IsLit radiance s'.memory := by
  have lit : ∀ {s : Simulation A ℝ} {logs}, Reached config s logs →
      (∀ log ∈ logs, log.IsFurnace radiance) →
      ∀ earlier log, logs = earlier ++ [log] → log.IsLit radiance s.memory := by
    intro s logs reached furnace earlier log split
    obtain ⟨filled, -, setUp⟩ := filled_of_reached valid nonneg reached furnace
    have remembers := remembers_of_reached valid reached
    have member : log ∈ logs := split ▸ List.mem_concat_self
    exact (setUp log member).isLit valid nonneg remembers.sized (remembers.last earlier log split).2.2
      filled
  refine ⟨lit reached furnace, fun viewPos raysRotation log prepared burning classifies => ?_⟩
  obtain ⟨-, spaced, -⟩ := filled_of_reached valid nonneg reached furnace
  obtain ⟨setUp, -⟩ := isSetUp_of_prepare (remembers_of_reached valid reached) spaced prepared
  obtain ⟨last, memory, looped, framed⟩ := FrameLog.ends valid setUp.own fun cascade present m up => by
    obtain ⟨⟨pass, mid⟩, judged⟩ := classifies cascade present m up
    exact burning.works setUp valid present up judged
  have looped' : log.before log.input.volume.grid.cascades = .ok last := setUp.own.grid ▸ looped
  obtain ⟨report, ran⟩ := (advance_eq_ok prepared).mpr ⟨last, memory, looped', framed, rfl⟩
  refine ⟨_, report, ran, lit (.advance _ _ _ _ _ _ report reached prepared ran) ?_ logs log rfl⟩
  intro other member
  cases List.mem_append.mp member with
  | inl earlier => exact furnace other earlier
  | inr same => exact List.mem_singleton.mp same ▸ burning

section Example

noncomputable def airConfig : Config ℝ :=
  { Config.standard with
    cascades := 1
    probesCounts := ⟨2, 2, 2⟩
    probesSpacing := 1
    raysCount := 32
    atlasResolution := 1
    atlasChunkResolution := 4
    atlasCulledCapacity := 2 }

/-- Air, which is not far from a surface but never at one, and a sky that is the same everywhere. -/
noncomputable def air (radiance : Vec3 ℝ) : Scene ℝ :=
  ⟨⟨fun _ => .ok 1, fun _ => .ok 1, fun _ => .ok 0⟩,
    .replicate (Sky.size.x * Sky.size.y) (radiance.extend 1),
    ⟨⟨#[], ⟨0, 0⟩⟩, ⟨#[], ⟨0, 0⟩⟩, ⟨#[], ⟨0, 0⟩⟩⟩⟩

theorem airConfig_valid : airConfig.validate = .ok [] := by
  have counted : airConfig.probesCount = .ok 8 := rfl
  have bytes : airConfig.atlasBytes = .ok 16 := rfl
  rw [Config.validate, counted, bytes]
  norm_num [airConfig, Config.standard, Config.reportIf, maxCascades, maxProbes,
    Batch.traceGroupSize, Batch.raysLimit, maxBindingSize, maxVoxelCascades, Culling.blockSide]

theorem airConfig_spacing : airConfig.cascadeSpacing 0 = 1 := by
  have power : powInt airConfig.spacingMultiplier (Word.toSigned 0) = 1.0 := by
    have zero : Word.toSigned 0 = 0 := rfl
    rw [zero, powInt, powNat, powLoop]
    simp
  rw [Config.cascadeSpacing, power]
  simp [airConfig]

theorem restart_ofSpacing (spacing : ℝ) : ((Cascade.ofSpacing spacing).restart .zero).placement =
    ⟨.zero, spacing, ⟨0, 0, 0⟩⟩ := by
  have still : Scalar.round ((0.0 : ℝ) / spacing) * spacing = 0.0 := by
    rw [real_zero, zero_div, round_zero_real, zero_mul]
  have origin : ((Vec3.zero.divide spacing : Vec3 ℝ).round).scale spacing = .zero := by
    rw [Vec3.zero, Vec3.splat, Vec3.mk.injEq]
    exact ⟨still, still, still⟩
  rw [Cascade.restart, Cascade.ofSpacing]
  dsimp only
  rw [origin]

theorem update_ofSpacing (spacing : ℝ) (counts : Vec3 Nat) :
    (Cascade.ofSpacing spacing).update .zero counts =
      .ok ((Cascade.ofSpacing spacing).restart .zero) := by
  have still : toInt (Scalar.round ((0.0 - 0.0 : ℝ) / spacing)) = 0 := by
    have word : toInt (0 : ℝ) = 0 := by
      simpa using toInt_ofInt_real (n := 0) (by norm_num) (by norm_num)
    rw [sub_self, zero_div, round_zero_real, word]
  have axes : ((Vec3.zero - Vec3.zero : Vec3 ℝ).divide spacing).round.toInt = ⟨0, 0, 0⟩ := by
    rw [Vec3.mk.injEq]
    exact ⟨still, still, still⟩
  have delta : (Cascade.ofSpacing spacing).delta .zero = .ok ⟨0, 0, 0⟩ := by
    rw [Cascade.delta, Cascade.ofSpacing]
    dsimp only
    rw [axes]
    rfl
  rw [Cascade.update, delta]
  rfl

noncomputable def airGrid : Cascade ℝ := (Cascade.ofSpacing (airConfig.cascadeSpacing 0)).restart .zero

theorem air_update : (Cascades.create airConfig).update .zero = .ok ⟨⟨2, 2, 2⟩, #[airGrid]⟩ := by
  have items : (Cascades.create airConfig).items = #[.ofSpacing (airConfig.cascadeSpacing 0)] := rfl
  rw [Cascades.update, items]
  simp only [Array.mapM_eq_mapM_toList, List.mapM_cons, List.mapM_nil, update_ofSpacing, ok_bind,
    pure_eq_ok]
  rfl

variable {radiance : Vec3 ℝ} {start : Simulation Guillotine ℝ} {log : FrameLog ℝ}
  (created : create airConfig (air radiance) = .ok start)

include created

theorem air_prepares : ∃ log, start.prepare .zero .identity = .ok log := by
  obtain ⟨-, configured, cascades, -⟩ := create_eq_ok _ created
  have updated : start.cascades.update .zero = .ok ⟨⟨2, 2, 2⟩, #[airGrid]⟩ := cascades ▸ air_update
  obtain ⟨volume, placed⟩ : ∃ volume, Cascades.volume ⟨⟨2, 2, 2⟩, #[airGrid]⟩ start.config .zero
      .identity = .ok volume := ⟨_, rfl⟩
  refine prepare_ends updated placed (records_of_create _ created) ?_ ?_ ?_
  · rw [configured]
    decide
  · rw [configured]
    decide
  · rw [configured]
    decide

variable (prepared : start.prepare .zero .identity = .ok log)

include prepared

theorem air_placed : log.IsOf airConfig ∧ log.input.cascades.get 0 = .ok airGrid ∧
    log.input.volume.placement 0 =
      .ok ⟨.zero, airConfig.cascadeSpacing 0, ⟨0, 0, 0⟩⟩ := by
  obtain ⟨-, -, cascades, -⟩ := create_eq_ok _ created
  obtain ⟨own, -⟩ := (remembers_of_create _ created).prepared prepared
  have updated := (prepare_eq_ok prepared).1
  rw [cascades, air_update] at updated
  have found : log.input.cascades.get 0 = .ok airGrid := by
    rw [← Except.ok.inj updated]
    rfl
  refine ⟨own, found, ?_⟩
  rw [own.placed 0 airGrid found, airGrid, restart_ofSpacing]

theorem air_isFurnace : log.IsFurnace radiance := by
  obtain ⟨scene, -⟩ := create_eq_ok _ created
  obtain ⟨own, -⟩ := air_placed created prepared
  obtain ⟨-, placed, -, -, -, same, -⟩ := prepare_eq_ok prepared
  obtain ⟨-, -, rotation, -⟩ := Cascades.volume_eq_ok placed
  have rays : log.input.volume.raysCount = 32 := own.rays
  rw [scene] at same
  constructor
  case sky =>
    rw [same]
    refine ⟨Array.size_replicate, fun i texel held => ?_⟩
    simp only [air, Array.getElem?_replicate] at held
    split at held
    · rw [← Option.some.inj held]
      rfl
    · exact absurd held (by simp)
  case misses =>
    intro cascade pass mid judged index listed probe origin read located ray inside
    rw [same]
    refine DistanceField.trace_of_far (fun pos => ⟨0, 1, 1, rfl, rfl, rfl, ?_⟩) _ _
    simp only [lt_real, decide_eq_false_iff_not]
    norm_num
  case weights =>
    intro texel tile
    rw [rays, rotation]
    refine le_trans ?_ (Updating.le_cosineSum tile)
    norm_num

theorem air_classifies : ∀ cascade < airConfig.cascades, ∀ m, log.before cascade = .ok m →
    ∃ judged, Frame.classifyProbes log.input m cascade = .ok judged := by
  obtain ⟨scene, -⟩ := create_eq_ok _ created
  obtain ⟨own, found, placed⟩ := air_placed created prepared
  have same := (prepare_eq_ok prepared).2.2.2.2.2.1
  have valid := own.configured.symm ▸ airConfig_valid
  intro cascade present m up
  obtain rfl : cascade = 0 := Nat.lt_one_iff.mp present
  obtain rfl : log.start = m := Except.ok.inj up
  have told : log.input.cascades.classificationPass log.input.config 0 =
      .ok ⟨0, log.input.config.relocationMode, true, ⟨0, 0, 0⟩, ⟨0, 0, 0⟩⟩ := by
    rw [Cascades.classificationPass, found, ok_bind]
    rfl
  refine Frame.classifyProbes_ends valid (own.grid.trans (by rw [own.configured]))
    (own.configured.symm ▸ own.sized) (by rw [own.configured]; exact present) told ?_ ?_ ?_
  · rw [same, scene]
    exact ⟨fun _ => ⟨_, rfl⟩, ⟨_, rfl⟩, fun _ => ⟨_, _, rfl, rfl⟩⟩
  · have room : 2 + 0 ≤ 4294967296 := by decide
    rw [own.grid]
    exact ⟨room, room, room⟩
  · rw [own.grid, Volume.scrollOf_eq placed]
    decide

theorem air_covers (m : FrameMemory ℝ) :
    (m.sampler log.input.volume).Covers 0 .zero ∧ log.input.volume.Surrounds 0 0 .zero := by
  obtain ⟨own, -, placed⟩ := air_placed created prepared
  have spaced := (Config.isAccepted_of_valid airConfig_valid).cascadeSpacing_pos 0
  set spacing := airConfig.cascadeSpacing 0
  have counts : log.input.volume.grid.counts = ⟨2, 2, 2⟩ := by
    rw [own.grid]
    rfl
  have some : 0 < log.input.volume.grid.counts.x ∧ 0 < log.input.volume.grid.counts.y ∧
      0 < log.input.volume.grid.counts.z := by
    rw [counts]
    decide
  have first : log.input.volume.grid.coordsAt 0 = ⟨0, 0, 0⟩ := by
    rw [own.grid]
    rfl
  constructor
  · refine ⟨fun earlier below => absurd below (Nat.not_lt_zero _), 1, le_rfl, ?_⟩
    have volume : (m.sampler log.input.volume).volume = log.input.volume := rfl
    rw [Sampler.cascadeFade, volume, Volume.spacing_of_placement placed, ok_bind,
      Volume.extent_of_placement placed some, ok_bind, Volume.center_of_placement placed, ok_bind,
      pure_eq_ok, counts, Except.ok.injEq]
    have edge : (((Vec3.ofNat (Vec3.map (· - 1) ⟨2, 2, 2⟩) : Vec3 ℝ).scale spacing).scale 0.5 -
        (.zero - (.zero + (Vec3.ofInt ⟨0, 0, 0⟩).scale spacing) : Vec3 ℝ).abs).minElement =
          spacing * 0.5 := by
      simp [Vec3.zero, Vec3.splat, Vec3.ofInt, Vec3.ofNat, Vec3.map, Vec3.add_eq, Vec3.sub_eq,
        Vec3.scale_eq, Vec3.abs, Vec3.minElement]
    rw [edge, div_self (mul_pos spaced (by norm_num)).ne', saturate, clampTo_real]
    norm_num
  · refine ⟨_, _, Volume.spacing_of_placement placed,
      Volume.basePosition_of_placement placed some _, ?_⟩
    rw [first, counts]
    simp only [Vec3.zero, Vec3.splat, Vec3.ofInt, Vec3.ofNat, Vec3.map, Vec3.add_eq, Vec3.sub_eq,
      Vec3.scale_eq, ofInt_real, ofNat_real, real_zero]
    norm_num
    constructor
    · linarith
    · linarith

omit created prepared in
/-- After one frame in air, a surface in the middle of the cell gets `π` times the radiance of the
sky. -/
theorem isLit_of_furnace_air : ∃ (s : Simulation Guillotine ℝ) (log : FrameLog ℝ),
    Reached airConfig s [log] ∧ log.IsFurnace ⟨1, 2, 3⟩ ∧ log.IsLit ⟨1, 2, 3⟩ s.memory ∧
      (s.memory.sampler log.input.volume).sample .zero ⟨0, 0, 1⟩ 0 =
        .ok ⟨1 * Real.pi, 2 * Real.pi, 3 * Real.pi⟩ := by
  have nonneg : Vec3.IsNonneg ⟨1, 2, 3⟩ := ⟨by norm_num, by norm_num, by norm_num⟩
  obtain ⟨start, created⟩ : ∃ start : Simulation Guillotine ℝ,
      create airConfig (air ⟨1, 2, 3⟩) = .ok start := ⟨_, rfl⟩
  obtain ⟨log, prepared⟩ := air_prepares created
  have furnace := air_isFurnace created prepared
  have begun : Reached airConfig start [] := .create _ _ created
  obtain ⟨s, report, ran, -⟩ := (isLit_of_furnace airConfig_valid nonneg begun (by simp)).2 _ _ log
    prepared furnace (air_classifies created prepared)
  have reached : Reached airConfig s ([] ++ [log]) := .advance _ _ _ _ _ _ report begun prepared ran
  have lit := (isLit_of_furnace airConfig_valid nonneg reached (by simpa using furnace)).1 [] log rfl
  refine ⟨s, log, reached, furnace, lit, ?_⟩
  obtain ⟨own, found, placed⟩ := air_placed created prepared
  obtain ⟨covers, around⟩ := air_covers created prepared s.memory
  have remembers := remembers_of_reached airConfig_valid reached
  obtain ⟨pass, mid, holds⟩ := (remembers.last [] log rfl).2.2 0 (by decide)
  have awake : log.input.volume.isActive s.memory.store.probes 0 0 = true := by
    refine holds.awake_of_near airConfig_valid own remembers.sized ?_
      (Volume.spacing_of_placement placed) ?_
    · rw [own.grid]
      decide
    · intro pos distance sampled
      rw [(prepare_eq_ok prepared).2.2.2.2.2.1, (create_eq_ok _ created).1] at sampled
      rw [← Except.ok.inj sampled, airConfig_spacing, Classification.distanceLimit]
      simp only [lt_real, abs_real, decide_eq_false_iff_not]
      norm_num
  obtain ⟨light, sampled, rfl, -⟩ := lit.samples 0 (by rw [own.grid]; decide) .zero covers
    ⟨0, awake, around⟩ ⟨0, 0, 1⟩ 0
  exact sampled

end Example

end Simulation

end IrradianceField
