import IrradianceField.Proofs.ActiveSet
import IrradianceField.Proofs.Batches
import IrradianceField.Proofs.Borders

/-!
Frames: a cascade of a frame changes nothing of another one, neither its slots nor its tiles, and the
passes around the cascades change nothing of any.
-/

namespace IrradianceField

variable {α : Type}

namespace Config

variable [Scalar α] {config : Config α}

omit [Scalar α] in
theorem reportIf_eq_nil {condition : Bool} {problem : ConfigProblem α} :
    reportIf condition problem = [] ↔ condition = false := by
  cases condition with
  | true => simp [reportIf]
  | false => simp [reportIf]

structure IsAccepted (config : Config α) : Prop where
  cascades : 0 < config.cascades ∧ config.cascades ≤ maxCascades
  counts : 2 ≤ config.probesCounts.x ∧ 2 ≤ config.probesCounts.y ∧ 2 ≤ config.probesCounts.z
  counted : config.probesPerCascade = .ok config.grid.size
  probes : config.grid.size * config.cascades ≤ maxProbes
  spacing : Scalar.le config.probesSpacing 0.0 = false
  multiplier : Scalar.lt config.spacingMultiplier 1.0 = false
  rays : Batch.traceGroupSize ≤ config.raysCount ∧ config.raysCount ≤ Batch.raysLimit ∧
    config.raysCount % Batch.traceGroupSize = 0
  rayMaxDistance : Scalar.le config.rayMaxDistance 0.0 = false
  historyWeight : Scalar.le 0.0 config.historyWeight = true ∧
    Scalar.lt config.historyWeight 1.0 = true
  gamma : Scalar.le config.irradianceGamma 0.0 = false
  voxels : 2 ≤ config.sdfResolution ∧ 0 < config.sdfCascades ∧
    config.sdfCascades ≤ maxVoxelCascades
  atlas : 0 < config.atlasResolution ∧
    config.atlasResolution * config.atlasResolution * 16 ≤ maxBindingSize
  chunks : 0 < config.atlasChunkResolution ∧
    config.atlasChunkResolution % Culling.blockSide = 0
  viewDistance : Scalar.le config.atlasViewDistance 0.0 = false
  objects : 0 < config.atlasMaxObjects
  culled : 2 ≤ config.atlasCulledCapacity
  viewport : 0 < config.viewportSize.x ∧ 0 < config.viewportSize.y

theorem isAccepted_of_valid (valid : config.validate = .ok []) : config.IsAccepted := by
  simp only [validate, bind_eq_ok, pure_eq_ok, Except.ok.injEq, List.append_eq_nil_iff,
    reportIf_eq_nil, decide_eq_false_iff_not, Bool.or_eq_false_iff, Bool.not_eq_false',
    Bool.and_eq_true, Nat.not_lt] at valid
  obtain ⟨probes, total, _, bytes, ⟨⟨⟨⟨⟨⟨⟨⟨⟨⟨⟨⟨⟨⟨⟨⟨⟨some, few⟩, counts⟩, most⟩, spacing⟩, multiplier⟩,
    ⟨rays, limit⟩, group⟩, far⟩, weight⟩, gamma⟩, voxels⟩, cubes, layers⟩, atlas, bound⟩, chunks,
    blocks⟩, view⟩, objects⟩, culled⟩, viewport⟩⟩ := valid
  obtain ⟨size, counted, total⟩ := bind_eq_ok.mp total
  have counted' : config.grid.probesPerCascade = .ok size := counted
  obtain ⟨rfl, -, -⟩ := Grid.probesPerCascade_eq_ok.mp counted'
  obtain ⟨rfl, -⟩ := Word.mul_eq_ok.mp total
  obtain ⟨texels, squared, bytes⟩ := bind_eq_ok.mp bytes
  obtain ⟨rfl, -⟩ := Size.mul_eq_ok.mp squared
  obtain ⟨rfl, -⟩ := Size.mul_eq_ok.mp bytes
  constructor
  case cascades => exact ⟨Nat.pos_of_ne_zero some, few⟩
  case counts =>
    have counts : 2 ≤ min config.probesCounts.x
        (min config.probesCounts.y config.probesCounts.z) := counts
    omega
  case counted => exact counted
  case probes => exact most
  case rays => exact ⟨rays, limit, not_not.mp group⟩
  case voxels => exact ⟨voxels, Nat.pos_of_ne_zero cubes, layers⟩
  case atlas => exact ⟨Nat.pos_of_ne_zero atlas, bound⟩
  case chunks => exact ⟨Nat.pos_of_ne_zero chunks, not_not.mp blocks⟩
  case objects => exact Nat.pos_of_ne_zero objects
  case viewport => omega
  all_goals assumption

theorem counts_le_of_valid (valid : config.validate = .ok []) :
    config.probesCounts.x ≤ maxProbes ∧ config.probesCounts.y ≤ maxProbes ∧
      config.probesCounts.z ≤ maxProbes := by
  have accepted := isAccepted_of_valid valid
  obtain ⟨x, y, z⟩ := accepted.counts
  have x := Nat.zero_lt_of_lt x
  have y := Nat.zero_lt_of_lt y
  have fewer : config.grid.size ≤ maxProbes :=
    (Nat.le_mul_of_pos_right _ accepted.cascades.1).trans accepted.probes
  have plane : config.probesCounts.x * config.probesCounts.y ≤ maxProbes :=
    (Nat.le_mul_of_pos_right _ (Nat.zero_lt_of_lt z)).trans fewer
  exact ⟨(Nat.le_mul_of_pos_right _ y).trans plane, (Nat.le_mul_of_pos_left _ x).trans plane,
    (Nat.le_mul_of_pos_left _ (Nat.mul_pos x y)).trans fewer⟩

theorem small_of_valid (valid : config.validate = .ok []) :
    config.grid.IsSmall ∧ 0 < config.grid.size ∧
      config.probesPerCascade = .ok config.grid.size ∧ config.cascades ≤ maxCascades ∧
      config.grid.size * config.cascades ≤ maxProbes := by
  have accepted := isAccepted_of_valid valid
  obtain ⟨x, y, z⟩ := accepted.counts
  obtain ⟨fewX, fewY, fewZ⟩ := counts_le_of_valid valid
  have words : maxProbes < 2147483648 := by decide
  exact ⟨⟨fewX.trans_lt words, fewY.trans_lt words, fewZ.trans_lt words⟩,
    Nat.mul_pos (Nat.mul_pos (Nat.zero_lt_of_lt x) (Nat.zero_lt_of_lt y)) (Nat.zero_lt_of_lt z),
    accepted.counted, accepted.cascades.2, accepted.probes⟩

end Config

structure FrameMemory.IsSized (config : Config α) (m : FrameMemory α) : Prop where
  probes : m.store.probes.size = config.grid.size * config.cascades
  entries : m.store.active.entries.size = config.grid.size
  atlases : ∀ layer : Layer, config.grid.atlasSize layer.resolution = .ok (layer.atlas m).size
  texels : ∀ layer : Layer,
    (layer.atlas m).data.size = (layer.atlas m).size.x * (layer.atlas m).size.y
  trace : Batch.traceSize config.grid.size = .ok m.trace.size
  dispatches : ∀ capacity, Batch.needed config.grid.size = .ok capacity →
    capacity * Batch.stride ≤ m.dispatches.size

structure FrameMemory.KeepsSizes (m after : FrameMemory α) : Prop where
  probes : after.store.probes.size = m.store.probes.size
  entries : after.store.active.entries.size = m.store.active.entries.size
  atlases : ∀ layer : Layer, (layer.atlas after).size = (layer.atlas m).size ∧
    (layer.atlas after).data.size = (layer.atlas m).data.size
  trace : after.trace.size = m.trace.size
  dispatches : after.dispatches.size = m.dispatches.size

/-- Two memories agree on the slots and the tiles of a cascade, borders excluded. -/
structure FrameMemory.AgreesOn (grid : Grid) (cascade : Nat) (m after : FrameMemory α) : Prop where
  probes : ∀ slot < grid.size, after.store.probes[cascade * grid.size + slot]? =
    m.store.probes[cascade * grid.size + slot]?
  texels : ∀ (layer : Layer), ∀ slot < grid.size, ∀ texel : Vec2 Nat,
    texel.x < layer.resolution ∧ texel.y < layer.resolution →
    (layer.atlas after).data[grid.texelPlace cascade slot layer.resolution texel
        (grid.counts.x * (layer.resolution + 2))]? =
      (layer.atlas m).data[grid.texelPlace cascade slot layer.resolution texel
        (grid.counts.x * (layer.resolution + 2))]?

namespace FrameMemory

variable {grid : Grid} {cascade : Nat} {m mid after : FrameMemory α}

theorem AgreesOn.refl (grid : Grid) (cascade : Nat) (m : FrameMemory α) :
    AgreesOn grid cascade m m :=
  ⟨fun _ _ => rfl, fun _ _ _ _ _ => rfl⟩

theorem AgreesOn.trans (first : AgreesOn grid cascade m mid) (second : AgreesOn grid cascade mid after) :
    AgreesOn grid cascade m after :=
  ⟨fun slot inside => (second.probes slot inside).trans (first.probes slot inside),
    fun layer slot inside texel tile =>
      (second.texels layer slot inside texel tile).trans (first.texels layer slot inside texel tile)⟩

theorem KeepsSizes.isSized {config : Config α} (kept : KeepsSizes m after)
    (sized : m.IsSized config) : after.IsSized config where
  probes := kept.probes.trans sized.probes
  entries := kept.entries.trans sized.entries
  atlases := fun layer => by rw [(kept.atlases layer).1, sized.atlases]
  texels := fun layer => by rw [(kept.atlases layer).1, (kept.atlases layer).2, sized.texels]
  trace := by rw [kept.trace, sized.trace]
  dispatches := fun capacity needed => by
    rw [kept.dispatches]
    exact sized.dispatches capacity needed

theorem IsSized.width [Scalar α] {config : Config α} (sized : m.IsSized config) (layer : Layer) :
    (layer.atlas m).size.x = config.grid.counts.x * (layer.resolution + 2) := by
  rw [(Grid.atlasSize_eq_ok.mp (sized.atlases layer)).1]

theorem IsSized.isTiled [Scalar α] {config : Config α} (valid : config.validate = .ok [])
    (sized : m.IsSized config) (layer : Layer) :
    Border.IsTiled layer.resolution config.grid.counts.x
        (config.grid.counts.y * config.grid.counts.z * config.grid.cascades) (layer.atlas m) ∧
      config.probesCount = .ok (config.grid.counts.x *
        (config.grid.counts.y * config.grid.counts.z * config.grid.cascades)) := by
  obtain ⟨-, -, counted, -, most⟩ := Config.small_of_valid valid
  obtain ⟨same, -⟩ := Grid.atlasSize_eq_ok.mp (sized.atlases layer)
  have probes : config.grid.size * config.cascades = config.grid.counts.x *
      (config.grid.counts.y * config.grid.counts.z * config.grid.cascades) := by
    simp only [Grid.size, Config.grid]
    ring
  have short := layer.resolution_bounds.2
  simp only [maxProbes] at most
  refine ⟨⟨by rw [same, Nat.mul_right_comm], sized.texels layer, ?_⟩, ?_⟩
  · calc
      (layer.atlas m).size.x * (layer.atlas m).size.y =
          config.grid.size * config.cascades * ((layer.resolution + 2) * (layer.resolution + 2)) := by
        rw [same, probes]
        ring
      _ ≤ 65535 * (16 * 16) := Nat.mul_le_mul most (Nat.mul_le_mul (by omega) (by omega))
      _ ≤ 4294967296 := by norm_num
  · rw [Config.probesCount, counted, ok_bind, Word.mul_eq_ok, probes]
    exact ⟨rfl, by omega⟩

theorem AgreesOn.read_eq [Scalar α] {config : Config α} {layer : Layer} {slot : Nat}
    {texel : Vec2 Nat} {value : Vec4 α} (agrees : AgreesOn config.grid cascade m after)
    (sized : m.IsSized config) (sized' : after.IsSized config) (inside : slot < config.grid.size)
    (tile : texel.x < layer.resolution ∧ texel.y < layer.resolution)
    (read : (layer.atlas m).read (config.grid.texelAt cascade slot layer.resolution texel) =
      .ok value) :
    (layer.atlas after).read (config.grid.texelAt cascade slot layer.resolution texel) =
      .ok value := by
  obtain ⟨i, indexed, held⟩ := bind_eq_ok.mp read
  have sizes := Except.ok.inj ((sized'.atlases layer).symm.trans (sized.atlases layer))
  rw [Texels.read, sizes, indexed, ok_bind, fetch_eq_ok]
  have kept := agrees.texels layer slot inside texel tile
  rw [← sized.width layer] at kept
  rw [Texels.index_eq_ok indexed, ← fetch_eq_ok.mp held, Texels.index_eq_ok indexed]
  exact kept

end FrameMemory

namespace FrameMemory

variable [Scalar α]

theorem initial_isSized {config : Config α} {m : FrameMemory α} (ran : initial config = .ok m) :
    m.IsSized config := by
  simp only [initial, bind_eq_ok, pure_eq_ok, Except.ok.injEq] at ran
  obtain ⟨_, counted, batches, needed, total, all, trace, traced, irradiance, first, distance,
    second, rfl⟩ := ran
  have counted' : config.grid.probesPerCascade = .ok _ := counted
  obtain ⟨rfl, -, -⟩ := Grid.probesPerCascade_eq_ok.mp counted'
  obtain ⟨_, again, all⟩ := bind_eq_ok.mp all
  obtain rfl := Except.ok.inj (counted.symm.trans again)
  obtain ⟨rfl, -⟩ := Word.mul_eq_ok.mp all
  refine ⟨by simp, by simp [ActiveList.withCapacity], fun layer => ?_, fun layer => ?_,
    by simpa using traced, ?_⟩
  · cases layer with
    | irradiance => exact first
    | distance => exact second
  · cases layer with
    | irradiance => simp [Layer.atlas, blank]
    | distance => simp [Layer.atlas, blank]
  · intro capacity needed'
    obtain rfl := Except.ok.inj (needed.symm.trans needed')
    simp

end FrameMemory

namespace Frame

variable [Scalar α]

def classifyProbes (input : FrameInput α) (m : FrameMemory α) (cascade : Nat) :
    Except Fault (ClassificationPass × FrameMemory α) := do
  let pass ← input.cascades.classificationPass input.config cascade
  let store ← Classification.run input.volume pass input.scene.field m.store
  return (pass, { m with store })

variable {input : FrameInput α} {met : Surroundings α} {m mid after : FrameMemory α} {cascade : Nat}
  {pass : ClassificationPass}

theorem runCascade_eq_ok : runCascade input met m cascade = .ok after ↔ ∃ pass mid,
    classifyProbes input m cascade = .ok (pass, mid) ∧
      light input met cascade (input.isFirst || pass.reset) mid = .ok after := by
  simp only [runCascade_eq, classifyProbes, bind_eq_ok, pure_eq_ok, Except.ok.injEq, Prod.mk.injEq]
  constructor
  · intro ran
    obtain ⟨pass, told, store, judged, lit⟩ := ran
    exact ⟨pass, _, ⟨pass, told, store, judged, rfl, rfl⟩, lit⟩
  · intro ran
    obtain ⟨pass, _, ⟨_, told, store, judged, rfl, rfl⟩, lit⟩ := ran
    exact ⟨_, told, store, judged, lit⟩

structure Classified (input : FrameInput α) (cascade : Nat) (m : FrameMemory α)
    (pass : ClassificationPass) (mid : FrameMemory α) : Prop where
  told : input.cascades.classificationPass input.config cascade = .ok pass
  same : mid = { m with store := mid.store }
  built : ∃ threads, input.volume.grid.size ≤ threads ∧ Classification.Built input.volume pass
    input.scene.field { m.store with active := m.store.active.clear } (List.range threads) mid.store

omit [Scalar α] in
theorem cascade_of_pass (told : input.cascades.classificationPass input.config cascade = .ok pass) :
    pass.cascade = cascade := by
  obtain ⟨item, -, told⟩ := bind_eq_ok.mp told
  rw [← Except.ok.inj told]

theorem classified_of_run (small : input.volume.grid.IsSmall)
    (ran : classifyProbes input m cascade = .ok (pass, mid)) :
    Classified input cascade m pass mid := by
  simp only [classifyProbes, bind_eq_ok, pure_eq_ok, Except.ok.injEq, Prod.mk.injEq] at ran
  obtain ⟨_, told, store, judged, rfl, rfl⟩ := ran
  simp only [Classification.run, Classification.threads, bind_eq_ok, pure_eq_ok,
    Except.ok.injEq] at judged
  obtain ⟨_, ⟨count, counted, groups, enough, rfl⟩, judged⟩ := judged
  obtain ⟨rfl, -, -⟩ := Grid.probesPerCascade_eq_ok.mp counted
  obtain ⟨rfl, -, -⟩ := Word.groups_eq_ok.mp enough
  refine ⟨told, rfl, _, ?_, Classification.built_of_run counted small List.nodup_range rfl judged⟩
  simp only [Classification.groupSize]
  omega

section Stages

variable (small : input.volume.grid.IsSmall)

namespace Classified

variable (classified : Classified input cascade m pass mid)

include classified

theorem atlas_eq (layer : Layer) : layer.atlas mid = layer.atlas m := by
  rw [classified.same]
  cases layer with
  | irradiance => rfl
  | distance => rfl

theorem sized (sized : m.IsSized input.config) : mid.IsSized input.config := by
  obtain ⟨_, -, built⟩ := classified.built
  have probes := built.size
  have capacity := built.capacity
  refine FrameMemory.KeepsSizes.isSized ⟨probes, capacity, fun layer => ?_, ?_, ?_⟩ sized
  · rw [classified.atlas_eq]
    exact ⟨rfl, rfl⟩
  · rw [classified.same]
  · rw [classified.same]

theorem mem_active {index : Nat} : index ∈ mid.store.active.toList ↔
    index < input.volume.grid.size ∧ Classification.wakes input.volume pass input.scene.field
      m.store.probes index = true := by
  obtain ⟨threads, enough, built⟩ := classified.built
  rw [built.listed, List.mem_filter, List.mem_range]
  constructor
  · intro member
    exact ⟨Classification.lt_size_of_wakes member.2, member.2⟩
  · intro member
    exact ⟨member.1.trans_le enough, member.2⟩

theorem ready (sized : m.IsSized input.config) (grid : input.volume.grid = input.config.grid)
    (counted : input.config.probesPerCascade = .ok input.config.grid.size) : Ready input mid := by
  have kept := classified.sized sized
  obtain ⟨threads, enough, built⟩ := classified.built
  refine ⟨grid ▸ counted, fun layer => grid ▸ kept.atlases layer, grid ▸ kept.trace,
    grid ▸ kept.dispatches, ?_, fun index listed => (classified.mem_active.mp listed).1, ?_⟩
  · rw [ActiveList.IsHeld, built.count, built.capacity]
    refine (Classification.length_wakes_le List.nodup_range).trans ?_
    rw [grid]
    exact sized.entries.ge
  · rw [built.listed]
    exact List.nodup_range.filter _

include small

theorem listed_of_slot {index : Nat} {packed : PackedProbe} (inside : index < input.volume.grid.size)
    (held : mid.store.probes[input.volume.site cascade index]? = some packed)
    (awake : (Probe.unpack packed : Probe α).state ≠ .inactive) :
    index ∈ mid.store.active.toList := by
  obtain rfl := cascade_of_pass classified.told
  obtain ⟨threads, enough, built⟩ := classified.built
  obtain ⟨probe, judged, stored⟩ :=
    built.written index (List.mem_range.mpr (inside.trans_le enough)) inside
  obtain rfl : probe.pack = packed := Option.some.inj (stored.symm.trans held)
  rw [Classification.unpack_of_judge small inside judged] at awake
  refine classified.mem_active.mpr ⟨inside, ?_⟩
  rw [Classification.wakes_of_judge inside judged]
  simpa [ProbeState.isInactive] using awake

theorem judged_of_listed {index : Nat} (listed : index ∈ mid.store.active.toList) :
    ∃ probe before : Probe α,
      Classification.previous input.volume pass m.store.probes (input.volume.grid.coordsAt index)
        (input.volume.site cascade index) = .ok before ∧
      input.volume.readProbe mid.store.probes cascade index = .ok (.unpack probe.pack) ∧
      (Probe.unpack probe.pack : Probe α).state = probe.state ∧
      (probe.state = .activated ∨ probe.state = .active ∧ before.state ≠ .inactive) := by
  obtain rfl := cascade_of_pass classified.told
  obtain ⟨inside, awake⟩ := classified.mem_active.mp listed
  obtain ⟨threads, enough, built⟩ := classified.built
  obtain ⟨probe, judged, stored⟩ :=
    built.written index (List.mem_range.mpr (inside.trans_le enough)) inside
  obtain ⟨-, ⟨slot, physical, placed⟩, before, known, state⟩ :=
    Classification.judge_eq_ok small inside judged
  have wakes := Classification.wakes_of_judge inside judged
  rw [awake] at wakes
  refine ⟨probe, before, known, ?_, Classification.unpack_of_judge small inside judged, ?_⟩
  · rw [Volume.readProbe, physical, ok_bind, placed, ok_bind, fetch_eq_ok.mpr stored, ok_bind,
      pure_eq_ok]
  · refine state.resolve_left fun asleep => ?_
    simp [ProbeState.isInactive, asleep] at wakes

omit small in
theorem agrees {other : Nat} (away : other ≠ cascade) :
    FrameMemory.AgreesOn input.volume.grid other m mid := by
  obtain rfl := cascade_of_pass classified.told
  obtain ⟨threads, enough, built⟩ := classified.built
  refine ⟨fun slot inside => ?_, fun layer slot inside texel tile => ?_⟩
  · refine built.kept _ fun i member below same => away ?_
    exact (mul_add_unique inside (Grid.slotAt_lt below) same).1
  · rw [classified.atlas_eq]

end Classified

namespace Lit

variable {resetBlend : Bool} (lit : Lit input met cascade resetBlend mid after)

include lit

theorem sized (ready : Ready input mid) (sized : mid.IsSized input.config) :
    after.IsSized input.config := by
  refine FrameMemory.KeepsSizes.isSized ⟨?_, ?_, fun layer => ⟨lit.sizes layer,
    (lit.made ready layer).size⟩, lit.trace, lit.dispatches⟩ sized
  · rw [lit.store]
  · rw [lit.store]

theorem agrees (ready : Ready input mid) {other : Nat} (away : other ≠ cascade) :
    FrameMemory.AgreesOn input.volume.grid other mid after := by
  refine ⟨fun slot inside => by rw [lit.store], fun layer slot inside texel tile => ?_⟩
  refine (lit.made ready layer).kept _ fun e member same => away ?_
  obtain ⟨index, listed, texel', tile', rfl⟩ := mem_edits member
  have place : input.volume.grid.texelPlace cascade (input.volume.grid.slotAt
      (input.volume.scrollOf cascade) index) layer.resolution texel' (layer.atlas mid).size.x =
      input.volume.grid.texelPlace other slot layer.resolution texel
        (input.volume.grid.counts.x * (layer.resolution + 2)) := same
  rw [ready.width layer] at place
  exact (Grid.texelPlace_inj rfl (Grid.slotAt_lt (ready.inside index listed)) inside tile' tile
    place).1.symm

end Lit

end Stages

section Surroundings

variable {config : Config α}

theorem lightAtlas_eq_ok (ran : lightAtlas input m = .ok after) :
    after = { m with lighting := after.lighting } ∧
      ∀ layer : Layer, layer.atlas after = layer.atlas m := by
  obtain ⟨lighting, -, ran⟩ := bind_eq_ok.mp ran
  obtain rfl := Except.ok.inj ran
  refine ⟨rfl, fun layer => ?_⟩
  cases layer with
  | irradiance => rfl
  | distance => rfl

theorem lightAtlas_of_empty (none : input.records.tiles = #[]) : lightAtlas input m = .ok m := by
  simp only [lightAtlas, AtlasLighting.run, none, List.size_toArray, List.length_nil,
    List.range_zero, List.foldlM_nil, pure_eq_ok, ok_bind]

theorem classifyProbes_of_store {other : FrameMemory α} (same : other.store = m.store)
    (ran : classifyProbes input m cascade = .ok (pass, mid)) :
    classifyProbes input other cascade = .ok (pass, { other with store := mid.store }) := by
  simp only [classifyProbes, bind_eq_ok, pure_eq_ok, Except.ok.injEq, Prod.mk.injEq] at ran ⊢
  obtain ⟨_, told, store, judged, rfl, rfl⟩ := ran
  exact ⟨_, told, store, same ▸ judged, rfl, rfl⟩

theorem lightAtlas_agrees (ran : lightAtlas input m = .ok after) (grid : Grid) (cascade : Nat) :
    FrameMemory.AgreesOn grid cascade m after := by
  obtain ⟨same, atlas⟩ := lightAtlas_eq_ok ran
  exact ⟨fun slot _ => by rw [same], fun layer slot _ texel _ => by rw [atlas]⟩

theorem lightAtlas_isSized (ran : lightAtlas input m = .ok after) (sized : m.IsSized config) :
    after.IsSized config := by
  obtain ⟨same, atlas⟩ := lightAtlas_eq_ok ran
  refine FrameMemory.KeepsSizes.isSized ⟨?_, ?_, fun layer => ?_, ?_, ?_⟩ sized
  · rw [same]
  · rw [same]
  · rw [atlas]
    exact ⟨rfl, rfl⟩
  · rw [same]
  · rw [same]

omit [Scalar α] in
theorem borders_eq_ok (ran : borders input m = .ok after) :
    after = { m with irradiance := after.irradiance, distance := after.distance } ∧
      ∀ layer : Layer, fillBorders input.config layer.resolution (layer.atlas m) =
        .ok (layer.atlas after) := by
  obtain ⟨irradiance, first, ran⟩ := bind_eq_ok.mp ran
  obtain ⟨distance, second, ran⟩ := bind_eq_ok.mp ran
  obtain rfl := Except.ok.inj ran
  refine ⟨rfl, fun layer => ?_⟩
  cases layer with
  | irradiance => exact first
  | distance => exact second

theorem run_eq_ok : (∃ afterCascades, run input m = .ok ⟨after, afterCascades⟩) ↔
    ∃ start lists last, lightAtlas input m = .ok start ∧ cull input = .ok lists ∧
      (List.range input.volume.grid.cascades).foldlM
        (runCascade input (surroundings input lists start.lighting)) start = .ok last ∧
      borders input last = .ok after := by
  simp only [run, bind_eq_ok, pure_eq_ok, Except.ok.injEq, Result.mk.injEq, Prod.exists]
  constructor
  · intro ran
    obtain ⟨_, start, lit, lists, culled, last, collected, looped, _, filled, rfl, -⟩ := ran
    exact ⟨start, lists, last, lit, culled,
      (foldlM_fst (g := fun after m => after ++ [m])).mp ⟨collected, looped⟩, filled⟩
  · intro ran
    obtain ⟨start, lists, last, lit, culled, looped, filled⟩ := ran
    obtain ⟨collected, looped⟩ := (foldlM_fst (g := fun after m => after ++ [m]) (a := [])).mpr looped
    exact ⟨collected, start, lit, lists, culled, last, collected, looped, after, filled, rfl, rfl⟩

theorem borders_keep (sized : m.IsSized config) (ran : borders input m = .ok after) :
    after.IsSized config ∧ ∀ cascade, FrameMemory.AgreesOn config.grid cascade m after := by
  obtain ⟨same, filled⟩ := borders_eq_ok ran
  have kept : ∀ layer : Layer, ∃ tiles,
      Border.Keeps ⟨layer.resolution, tiles⟩ (layer.atlas m) (layer.atlas after) :=
    fun layer => fillBorders_keeps (filled layer)
  constructor
  · refine FrameMemory.KeepsSizes.isSized ⟨?_, ?_, fun layer => ?_, ?_, ?_⟩ sized
    · rw [same]
    · rw [same]
    · obtain ⟨tiles, keeps⟩ := kept layer
      exact ⟨keeps.size, keeps.length⟩
    · rw [same]
    · rw [same]
  · refine fun cascade => ⟨fun slot _ => by rw [same], fun layer slot inside texel tile => ?_⟩
    obtain ⟨tiles, keeps⟩ := kept layer
    have left : (config.grid.texelAt cascade slot layer.resolution texel).x <
        config.grid.counts.x * (layer.resolution + 2) := Grid.texelAt_x_lt inside tile.1
    rw [← sized.width layer] at left ⊢
    exact keeps.inside _ left (Grid.isInside_texelAt _ cascade slot tile)

theorem borders_ends (valid : input.config.validate = .ok []) (sized : m.IsSized input.config) :
    ∃ after, borders input m = .ok after := by
  have filled : ∀ layer : Layer, ∃ after,
      fillBorders input.config layer.resolution (layer.atlas m) = .ok after := by
    intro layer
    obtain ⟨tiled, counted⟩ := sized.isTiled valid layer
    have short := layer.resolution_bounds.2
    exact fillBorders_ends counted (by omega) tiled
  obtain ⟨irradiance, first⟩ := filled .irradiance
  obtain ⟨distance, second⟩ := filled .distance
  exact ⟨_, bind_eq_ok.mpr ⟨irradiance, first, bind_eq_ok.mpr ⟨distance, second, rfl⟩⟩⟩

end Surroundings

end Frame

end IrradianceField
