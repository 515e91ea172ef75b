import IrradianceField.Proofs.Frames

/-!
Logs of frames: what the cascades of a frame have stored is still there when the frame is over, each
texel by one update of one listed probe.
-/

namespace IrradianceField

/-- A frame under way: what it is told, what its rays meet, and its memory when its first cascade is
up. -/
structure FrameLog (α : Type) where
  input : FrameInput α
  met : Surroundings α
  start : FrameMemory α

namespace FrameLog

variable {α : Type} [Scalar α]

def before (log : FrameLog α) (cascade : Nat) : Except Fault (FrameMemory α) :=
  (List.range cascade).foldlM (Frame.runCascade log.input log.met) log.start

def classified (log : FrameLog α) (cascade : Nat) :
    Except Fault (ClassificationPass × FrameMemory α) := do
  Frame.classifyProbes log.input (← log.before cascade) cascade

/-- The frame is one of a configuration, and its memory has the size for that. -/
structure IsOf (config : Config α) (log : FrameLog α) : Prop where
  configured : log.input.config = config
  grid : log.input.volume.grid = config.grid
  rays : log.input.volume.raysCount = config.raysCount
  placed : ∀ cascade item, log.input.cascades.get cascade = .ok item →
    log.input.volume.placement cascade = .ok item.placement
  sized : log.start.IsSized config

variable {config : Config α} {log : FrameLog α} {cascade : Nat} {m mid after : FrameMemory α}
  {pass : ClassificationPass}

theorem before_succ : log.before (cascade + 1) = .ok after ↔ ∃ m, log.before cascade = .ok m ∧
    Frame.runCascade log.input log.met m cascade = .ok after := by
  simp only [before, List.range_succ, foldlM_append_eq_ok, foldlM_cons_eq_ok, List.foldlM_nil,
    pure_eq_ok, Except.ok.injEq, exists_eq_right]

def elementOf (log : FrameLog α) (layer : Layer) (cascade index : Nat) (texel : Vec2 Nat) : Nat :=
  log.input.volume.grid.texelPlace cascade
    (log.input.volume.grid.slotAt (log.input.volume.scrollOf cascade) index) layer.resolution texel
    (log.input.volume.grid.counts.x * (layer.resolution + 2))

/-- Memory that still holds what the frame has left in the slots and tiles of a cascade. -/
structure Holds (log : FrameLog α) (cascade : Nat) (pass : ClassificationPass)
    (mid m : FrameMemory α) : Prop where
  classified : log.classified cascade = .ok (pass, mid)
  probes : ∀ slot < log.input.volume.grid.size,
    m.store.probes[cascade * log.input.volume.grid.size + slot]? =
      mid.store.probes[cascade * log.input.volume.grid.size + slot]?
  stored : ∀ (layer : Layer), ∀ index ∈ mid.store.active.toList, ∀ texel : Vec2 Nat,
    texel.x < layer.resolution ∧ texel.y < layer.resolution → ∃ old value,
      (layer.atlas mid).data[log.elementOf layer cascade index texel]? = some old ∧
      (Updating.edit layer log.input.volume mid.store.probes log.met cascade
        (log.input.isFirst || pass.reset) (layer.atlas mid).size index texel).change old =
          .ok value ∧
      (layer.atlas m).data[log.elementOf layer cascade index texel]? = some value

section Stages

variable (valid : config.validate = .ok []) (own : IsOf config log)

include valid own

theorem small : log.input.volume.grid.IsSmall ∧
    log.input.config.probesPerCascade = .ok log.input.config.grid.size ∧
      log.input.volume.grid = log.input.config.grid := by
  obtain ⟨small, -, counted, -⟩ := Config.small_of_valid valid
  rw [own.grid, own.configured]
  exact ⟨small, counted, rfl⟩

theorem before_keeps (ran : log.before cascade = .ok m) : m.IsSized config ∧
    ∀ other, cascade ≤ other → FrameMemory.AgreesOn config.grid other log.start m := by
  obtain ⟨small, counted, grid⟩ := small valid own
  induction cascade generalizing m with
  | zero =>
      obtain rfl := Except.ok.inj ran
      exact ⟨own.sized, fun _ _ => .refl _ _ _⟩
  | succ cascade ih =>
      obtain ⟨before, ran, next⟩ := before_succ.mp ran
      obtain ⟨sized, kept⟩ := ih ran
      obtain ⟨pass, mid, judged, lit⟩ := Frame.runCascade_eq_ok.mp next
      have classified := Frame.classified_of_run small judged
      rw [← own.configured] at sized
      have ready := classified.ready sized grid counted
      have lit := Frame.lit_of_light ready lit
      refine ⟨own.configured ▸ lit.sized ready (classified.sized sized), fun other above => ?_⟩
      have away : other ≠ cascade := by omega
      have first : FrameMemory.AgreesOn config.grid other before mid :=
        own.grid ▸ classified.agrees away
      have second : FrameMemory.AgreesOn config.grid other mid m :=
        own.grid ▸ lit.agrees ready away
      exact ((kept other (by omega)).trans first).trans second

theorem stages_of_classified (judged : log.classified cascade = .ok (pass, mid)) :
    ∃ m, log.before cascade = .ok m ∧ Frame.Classified log.input cascade m pass mid ∧
      Frame.Ready log.input mid := by
  obtain ⟨small, counted, grid⟩ := small valid own
  obtain ⟨m, ran, judged⟩ := bind_eq_ok.mp judged
  have sized := (before_keeps valid own ran).1
  rw [← own.configured] at sized
  have classified := Frame.classified_of_run small judged
  exact ⟨m, ran, classified, classified.ready sized grid counted⟩

theorem Holds.outlives (holds : log.Holds cascade pass mid m)
    (kept : FrameMemory.AgreesOn config.grid cascade m after) : log.Holds cascade pass mid after := by
  rw [← own.grid] at kept
  refine ⟨holds.classified, fun slot inside => ?_, ?_⟩
  · rw [kept.probes slot inside, holds.probes slot inside]
  · intro layer index listed texel tile
    obtain ⟨old, value, held, changed, stored⟩ := holds.stored layer index listed texel tile
    obtain ⟨_, -, -, ready⟩ := stages_of_classified valid own holds.classified
    have inside := ready.inside index listed
    refine ⟨old, value, held, changed, ?_⟩
    rw [← stored]
    exact kept.texels layer _ (Grid.slotAt_lt inside) texel tile

theorem holds_before (ran : log.before cascade = .ok m) {other : Nat} (below : other < cascade) :
    ∃ pass mid, Holds log other pass mid m := by
  obtain ⟨small, counted, grid⟩ := small valid own
  induction cascade generalizing m with
  | zero => omega
  | succ cascade ih =>
      obtain ⟨before, ran, next⟩ := before_succ.mp ran
      obtain ⟨pass, mid, judged, lit⟩ := Frame.runCascade_eq_ok.mp next
      have found : log.classified cascade = .ok (pass, mid) := by
        rw [FrameLog.classified, ran, ok_bind, judged]
      obtain ⟨start, started, classified, ready⟩ := stages_of_classified valid own found
      obtain rfl := Except.ok.inj (started.symm.trans ran)
      have lit := Frame.lit_of_light ready lit
      by_cases last : other = cascade
      · subst last
        refine ⟨pass, mid, found, fun slot _ => by rw [lit.store], ?_⟩
        intro layer index listed texel tile
        have member : Updating.edit layer log.input.volume mid.store.probes log.met other
            (log.input.isFirst || pass.reset) (layer.atlas mid).size index texel ∈
              Frame.edits log.input log.met other (log.input.isFirst || pass.reset) layer mid
                mid.store.active.toList :=
          List.mem_flatMap.mpr ⟨index, listed, List.mem_map_of_mem (Updating.mem_tileTexels.mpr tile)⟩
        obtain ⟨old, value, held, changed, stored⟩ := (lit.made ready layer).changed _ member
        have place : (Updating.edit layer log.input.volume mid.store.probes log.met other
            (log.input.isFirst || pass.reset) (layer.atlas mid).size index texel).place =
            log.elementOf layer other index texel := by
          rw [elementOf, ← ready.width layer]
          rfl
        rw [place] at held stored
        exact ⟨old, value, held, changed, stored⟩
      · obtain ⟨pass', mid', holds⟩ := ih ran (by omega)
        have kept := (classified.agrees last).trans (lit.agrees ready last)
        rw [own.grid] at kept
        exact ⟨pass', mid', holds.outlives valid own kept⟩

theorem Holds.judged (holds : log.Holds cascade pass mid m) (sized : m.IsSized config) {index : Nat}
    (inside : index < log.input.volume.grid.size) : ∃ before slot probe,
      Classification.judge log.input.volume pass log.input.scene.field before index =
        .ok (cascade * log.input.volume.grid.size + slot, probe) ∧
      log.input.volume.physicalIndex cascade index = .ok slot ∧
      log.input.volume.grid.slot cascade slot = .ok (cascade * log.input.volume.grid.size + slot) ∧
      m.store.probes[cascade * log.input.volume.grid.size + slot]? = some probe.pack := by
  obtain ⟨small, -⟩ := small valid own
  obtain ⟨before, -, classified, -⟩ := stages_of_classified valid own holds.classified
  obtain rfl := Frame.cascade_of_pass classified.told
  obtain ⟨threads, enough, built⟩ := classified.built
  obtain ⟨probe, judged, stored⟩ :=
    built.written index (List.mem_range.mpr (inside.trans_le enough)) inside
  obtain ⟨-, ⟨slot, physical, place⟩, -⟩ := Classification.judge_eq_ok small inside judged
  have site := Grid.slot_eq_ok place
  have tiled := sized.atlases .irradiance
  rw [← own.grid] at tiled
  rw [site] at judged place stored
  exact ⟨_, slot, probe, judged, physical, place,
    (holds.probes slot (Volume.physicalIndex_lt tiled physical)).trans stored⟩

end Stages

/-- A texel of a listed probe's tile lies at a position of an atlas, where its update stores. -/
structure Targets (log : FrameLog α) (layer : Layer) (cascade index : Nat) (texel pos : Vec2 Nat) :
    Prop where
  tile : texel.x < layer.resolution ∧ texel.y < layer.resolution
  placed : Updating.position log.input.volume cascade layer.resolution index texel = .ok pos
  listed : ∃ pass mid, log.classified cascade = .ok (pass, mid) ∧
    index ∈ mid.store.active.toList

/-- The update of a texel makes a value of what it finds there. -/
structure Stores (log : FrameLog α) (layer : Layer) (cascade index : Nat) (texel pos : Vec2 Nat)
    (value : Vec4 α) : Prop extends log.Targets layer cascade index texel pos where
  stored : ∃ pass mid old, log.classified cascade = .ok (pass, mid) ∧
    (layer.atlas mid).read pos = .ok old ∧
      (Updating.edit layer log.input.volume mid.store.probes log.met cascade
        (log.input.isFirst || pass.reset) (layer.atlas mid).size index texel).change old = .ok value

section Positions

variable (valid : config.validate = .ok []) (own : IsOf config log) {layer : Layer}
  {index : Nat} {texel pos : Vec2 Nat}

include valid own

theorem Targets.pos_eq (targets : log.Targets layer cascade index texel pos) :
    index < log.input.volume.grid.size ∧
      pos = log.input.volume.texel cascade layer.resolution index texel := by
  obtain ⟨pass, mid, judged, listed⟩ := targets.listed
  obtain ⟨_, -, -, ready⟩ := stages_of_classified valid own judged
  have inside := ready.inside index listed
  exact ⟨inside, Updating.position_eq_ok (small valid own).1 inside targets.placed⟩

theorem Targets.unique {cascade' index' : Nat} {texel' : Vec2 Nat}
    (targets : log.Targets layer cascade index texel pos)
    (others : log.Targets layer cascade' index' texel' pos) :
    cascade' = cascade ∧ index' = index ∧ texel' = texel := by
  obtain ⟨inside, here⟩ := targets.pos_eq valid own
  obtain ⟨inside', there⟩ := others.pos_eq valid own
  obtain ⟨cascades, slots, texels⟩ := Grid.texelAt_inj (Grid.slotAt_lt inside')
    (Grid.slotAt_lt inside) others.tile targets.tile (there.symm.trans here)
  subst cascades
  exact ⟨rfl, Grid.slotAt_inj inside' inside slots, texels⟩

theorem Holds.stores (holds : log.Holds cascade pass mid m) (sized : m.IsSized config)
    (listed : index ∈ mid.store.active.toList)
    (tile : texel.x < layer.resolution ∧ texel.y < layer.resolution) :
    ∃ pos value, log.Stores layer cascade index texel pos value ∧
      (layer.atlas m).read pos = .ok value := by
  obtain ⟨old, value, held, changed, stored⟩ := holds.stored layer index listed texel tile
  obtain ⟨_, -, -, ready⟩ := stages_of_classified valid own holds.classified
  have sizes : (layer.atlas m).size = (layer.atlas mid).size := by
    have asked := ready.atlases layer
    rw [own.grid] at asked
    exact Except.ok.inj ((sized.atlases layer).symm.trans asked)
  have found := changed
  simp only [Updating.edit, Updating.place, bind_eq_ok] at found
  obtain ⟨_, -, _, -, _, -, i, ⟨pos, placed, indexed⟩, -⟩ := found
  have targets : log.Targets layer cascade index texel pos :=
    ⟨tile, placed, pass, mid, holds.classified, listed⟩
  have element : i = log.elementOf layer cascade index texel := by
    rw [Texels.index_eq_ok indexed, (targets.pos_eq valid own).2, ready.width layer]
    rfl
  refine ⟨pos, value, ⟨targets, pass, mid, old, holds.classified, ?_, changed⟩, ?_⟩
  · rw [Texels.read, indexed, ok_bind, fetch_eq_ok, element, held]
  · rw [Texels.read, sizes, indexed, ok_bind, fetch_eq_ok, element, stored]

end Positions

end FrameLog

end IrradianceField
