import IrradianceField.Atlas.Guillotine
import IrradianceField.Proofs.Completion
import IrradianceField.Proofs.Scrolling
import IrradianceField.Scalar.Rational
import IrradianceField.Simulation

/-!
History over a run of frames: what a probe blends with has been stored in the frame before, by the
probe that stood at the same cell of the lattice.
-/

namespace IrradianceField

variable {A α : Type} [Scalar α]

namespace Cascades

variable {c : Cascades α} {config : Config α}

theorem volume_eq_ok {viewPos : Vec3 α} {rotation : Quat α} {v : Volume α}
    (ran : c.volume config viewPos rotation = .ok v) :
    v.grid = ⟨config.probesCounts, c.items.size⟩ ∧ v.raysCount = config.raysCount ∧
      v.raysRotation = rotation ∧ v.gamma = config.irradianceGamma ∧
        ∀ cascade item, c.get cascade = .ok item → v.placement cascade = .ok item.placement := by
  simp only [volume, bind_eq_ok, pure_eq_ok, Except.ok.injEq] at ran
  obtain ⟨placements, placed, rfl⟩ := ran
  refine ⟨rfl, rfl, rfl, rfl, fun cascade item found => ?_⟩
  rw [get_eq_ok] at found
  have inside := (Array.getElem?_eq_some_iff.mp found).1
  unfold Cascades.placements at placed
  split at placed
  · exact absurd placed (by simp)
  · obtain rfl := Except.ok.inj placed
    rw [Volume.placement, dif_pos (by omega)]
    simp [found]

end Cascades

namespace Simulation

def prepare (s : Simulation A α) (viewPos : Vec3 α) (raysRotation : Quat α) :
    Except Fault (FrameLog α) := do
  let cascades ← s.cascades.update viewPos
  let volume ← cascades.volume s.config viewPos raysRotation
  let s := refreshRecords { s with cascades }
  let input : FrameInput α := {
    config := s.config
    cascades
    volume
    constants := s.config.atlasConstants viewPos s.records.addresses.size
    records := s.records
    scene := s.scene
    isFirst := s.framesRun = 0 }
  let start ← Frame.lightAtlas input s.memory
  return ⟨input, Frame.surroundings input (← Frame.cull input) start.lighting, start⟩

/-- The simulation is one of a configuration, and still holds what the last of its frames has left. -/
structure Remembers (config : Config α) (s : Simulation A α) (logs : List (FrameLog α)) : Prop where
  configured : s.config = config
  counts : s.cascades.counts = config.probesCounts
  cascades : s.cascades.items.size = config.cascades
  frames : s.framesRun = logs.length
  sized : s.memory.IsSized config
  last : ∀ earlier log, logs = earlier ++ [log] → log.IsOf config ∧
    log.input.cascades = s.cascades ∧
      ∀ cascade < config.cascades, ∃ pass mid, log.Holds cascade pass mid s.memory

variable {config : Config α} {s s' : Simulation A α} {logs : List (FrameLog α)} {log : FrameLog α}
  {viewPos : Vec3 α} {raysRotation : Quat α}

theorem refreshRecords_eq (s : Simulation A α) (cascades : Cascades α) (memory : FrameMemory α) :
    refreshRecords { s with cascades, memory } = { s with
      cascades
      memory
      registry := s.refreshRecords.registry
      records := s.refreshRecords.records } := by
  unfold refreshRecords
  split <;> rfl

theorem prepare_eq_ok (ran : s.prepare viewPos raysRotation = .ok log) :
    s.cascades.update viewPos = .ok log.input.cascades ∧
      log.input.cascades.volume s.config viewPos raysRotation = .ok log.input.volume ∧
      log.input.config = s.config ∧ log.input.isFirst = decide (s.framesRun = 0) ∧
      Frame.lightAtlas log.input s.memory = .ok log.start ∧ log.input.scene = s.scene ∧
      ∃ lists, log.met = Frame.surroundings log.input lists log.start.lighting := by
  obtain ⟨cascades, updated, ran⟩ := bind_eq_ok.mp ran
  obtain ⟨volume, placed, ran⟩ := bind_eq_ok.mp ran
  dsimp only at ran
  obtain ⟨start, lit, ran⟩ := bind_eq_ok.mp ran
  obtain ⟨lists, culled, ran⟩ := bind_eq_ok.mp ran
  obtain rfl := Except.ok.inj ran
  rw [refreshRecords_eq] at lit ⊢
  exact ⟨updated, placed, rfl, rfl, lit, rfl, lists, rfl⟩

theorem prepare_of_empty (prepared : s.prepare viewPos raysRotation = .ok log)
    (none : log.input.records.tiles = #[]) (memory : FrameMemory α) :
    ∃ met, prepare { s with memory } viewPos raysRotation = .ok ⟨log.input, met, memory⟩ := by
  obtain ⟨cascades, updated, prepared⟩ := bind_eq_ok.mp prepared
  obtain ⟨volume, placed, prepared⟩ := bind_eq_ok.mp prepared
  rw [refreshRecords_eq] at prepared
  dsimp only at prepared
  obtain ⟨start, -, prepared⟩ := bind_eq_ok.mp prepared
  obtain ⟨lists, culled, prepared⟩ := bind_eq_ok.mp prepared
  obtain rfl := Except.ok.inj prepared
  simp only [prepare, updated, placed, ok_bind, refreshRecords_eq, Frame.lightAtlas_of_empty none,
    culled, pure_eq_ok]
  exact ⟨_, rfl⟩

/-- What a frame leaves of the simulation, by its log and the memory after it. -/
def stepped (s : Simulation A α) (log : FrameLog α) (memory : FrameMemory α) : Simulation A α :=
  { s with
    cascades := log.input.cascades
    registry := s.refreshRecords.registry
    records := s.refreshRecords.records
    memory
    framesRun := s.framesRun + 1 }

theorem advance_eq_ok (prepared : s.prepare viewPos raysRotation = .ok log) :
    (∃ report, s.advance viewPos raysRotation = .ok (s', report)) ↔ ∃ last memory,
      log.before log.input.volume.grid.cascades = .ok last ∧
        Frame.borders log.input last = .ok memory ∧ s' = s.stepped log memory := by
  obtain ⟨cascades, updated, prepared⟩ := bind_eq_ok.mp prepared
  obtain ⟨volume, placed, prepared⟩ := bind_eq_ok.mp prepared
  rw [refreshRecords_eq] at prepared
  dsimp only at prepared
  obtain ⟨start, lit, prepared⟩ := bind_eq_ok.mp prepared
  obtain ⟨lists, culled, prepared⟩ := bind_eq_ok.mp prepared
  obtain rfl := Except.ok.inj prepared
  simp only [advance, updated, placed, ok_bind, refreshRecords_eq, bind_eq_ok, pure_eq_ok,
    Except.ok.injEq, Prod.mk.injEq]
  constructor
  · intro ran
    obtain ⟨_, ⟨memory, collected⟩, ran, rfl, -⟩ := ran
    obtain ⟨_, _, last, lit', culled', looped, filled⟩ := Frame.run_eq_ok.mp ⟨collected, ran⟩
    obtain rfl := Except.ok.inj (lit.symm.trans lit')
    obtain rfl := Except.ok.inj (culled.symm.trans culled')
    exact ⟨last, memory, looped, filled, rfl⟩
  · intro ran
    obtain ⟨last, memory, looped, filled, rfl⟩ := ran
    obtain ⟨collected, ran⟩ := Frame.run_eq_ok.mpr ⟨start, lists, last, lit, culled, looped, filled⟩
    exact ⟨_, ⟨memory, collected⟩, ran, rfl, rfl⟩

theorem Remembers.prepared (remembers : Remembers config s logs)
    (ran : s.prepare viewPos raysRotation = .ok log) :
    log.IsOf config ∧ log.input.cascades.counts = config.probesCounts ∧
      log.input.cascades.items.size = config.cascades ∧
      log.input.isFirst = decide (logs = []) ∧
      (∀ cascade, FrameMemory.AgreesOn config.grid cascade s.memory log.start) ∧
      ∀ cascade item, log.input.cascades.get cascade = .ok item → ∃ before,
        s.cascades.get cascade = .ok before ∧ before.update viewPos config.probesCounts = .ok item := by
  obtain ⟨updated, placed, configured, isFirst, lit, -⟩ := prepare_eq_ok ran
  obtain ⟨counts, size, items⟩ := Cascades.update_eq_ok updated
  obtain ⟨grid, rays, -, -, placements⟩ := Cascades.volume_eq_ok placed
  rw [remembers.configured] at configured grid rays
  rw [remembers.counts] at counts items
  rw [remembers.cascades] at size
  refine ⟨⟨configured, ?_, rays, placements, Frame.lightAtlas_isSized lit remembers.sized⟩, counts, size,
    ?_, Frame.lightAtlas_agrees lit config.grid, items⟩
  · rw [grid, size]
    rfl
  · rw [isFirst, remembers.frames, decide_eq_decide, List.length_eq_zero_iff]

/-- A probe without history: it is in the first frame or in a grid that has started anew, it has just
wrapped around, or it was inactive. -/
def IsNew (log : FrameLog α) (pass : ClassificationPass) (before : FrameMemory α)
    (cascade index : Nat) : Prop :=
  log.input.isFirst = true ∨ pass.reset = true ∨
    pass.isScrolledIn (log.input.volume.grid.coordsAt index) log.input.volume.grid.counts = .ok true ∨
    log.input.volume.isActive before.store.probes cascade index = false

/-- The value that is found at a position was stored in the frame before, by the only update that
did so there, that of a probe of the same cascade at the same cell of its lattice. -/
structure Continues (last log : FrameLog α) (layer : Layer) (cascade index other : Nat)
    (texel pos : Vec2 Nat) (value : Vec4 α) : Prop where
  cell : ∃ before item, last.input.cascades.get cascade = .ok before ∧
    log.input.cascades.get cascade = .ok item ∧ item.placement.SameCell before.placement
      (log.input.volume.grid.coordsAt index) (last.input.volume.grid.coordsAt other)
  stored : last.Stores layer cascade other texel pos value
  alone : ∀ cascade' index' texel', last.Targets layer cascade' index' texel' pos →
    cascade' = cascade ∧ index' = other ∧ texel' = texel

theorem continues_of_remembers (valid : config.validate = .ok [])
    (remembers : Remembers config s logs) (prepared : s.prepare viewPos raysRotation = .ok log)
    {cascade index : Nat} {pass : ClassificationPass} {before m : FrameMemory α} {layer : Layer}
    {texel pos : Vec2 Nat} (up : log.before cascade = .ok before)
    (classified : Frame.Classified log.input cascade before pass m)
    (continued : log.input.isFirst = false) (reset : pass.reset = false)
    (kept : pass.isScrolledIn (log.input.volume.grid.coordsAt index) log.input.volume.grid.counts =
      .ok false) {packed : PackedProbe}
    (held : before.store.probes[log.input.volume.site cascade index]? = some packed)
    (awake : (Probe.unpack packed : Probe α).state ≠ .inactive)
    (targets : log.Targets layer cascade index texel pos) :
    ∃ earlier last other value, logs = earlier ++ [last] ∧
      Continues last log layer cascade index other texel pos value ∧
      (layer.atlas m).read pos = .ok value := by
  obtain ⟨own, counts, size, isFirst, agrees, items⟩ := remembers.prepared prepared
  obtain ⟨inside, here⟩ := targets.pos_eq valid own
  obtain rfl | ⟨earlier, last, rfl⟩ := List.eq_nil_or_concat logs
  · simp [isFirst] at continued
  rw [List.concat_eq_append] at remembers
  obtain ⟨lastOwn, cascades, holds⟩ := remembers.last earlier last rfl
  obtain ⟨item, found, told⟩ := bind_eq_ok.mp classified.told
  obtain rfl := Except.ok.inj told
  have present : cascade < config.cascades := by
    rw [← size]
    exact (Array.getElem?_eq_some_iff.mp (Cascades.get_eq_ok.mp found)).1
  obtain ⟨passL, midL, holds⟩ := holds cascade present
  obtain ⟨item', found', updated⟩ := items cascade item found
  obtain ⟨delta, followed⟩ := Cascade.followed_of_update updated reset
  obtain ⟨other, inside', cell⟩ := ClassificationPass.stood_of_followed followed rfl rfl inside kept
  rw [own.grid] at inside inside' cell
  have slots : config.grid.slotAt (log.input.volume.scrollOf cascade) index =
      config.grid.slotAt (last.input.volume.scrollOf cascade) other := by
    rw [Volume.scrollOf_eq (own.placed cascade item found),
      Volume.scrollOf_eq (lastOwn.placed cascade item' (cascades ▸ found'))]
    exact cell.slotAt_eq
  -- The slot has not been written to since the last frame classified it.
  obtain ⟨sized, untouched⟩ := FrameLog.before_keeps valid own up
  have same := (agrees cascade).trans (untouched cascade le_rfl)
  have heldL : midL.store.probes[last.input.volume.site cascade other]? = some packed := by
    rw [Volume.site, Grid.siteAt, own.grid, same.probes _ (Grid.slotAt_lt inside), slots] at held
    rw [← held, Volume.site, Grid.siteAt, lastOwn.grid]
    exact (lastOwn.grid ▸ holds.probes _ (Grid.slotAt_lt (lastOwn.grid ▸ inside'))).symm
  obtain ⟨_, -, classifiedL, -⟩ := FrameLog.stages_of_classified valid lastOwn holds.classified
  have listed : other ∈ midL.store.active.toList := classifiedL.listed_of_slot
    (FrameLog.small valid lastOwn).1 (lastOwn.grid ▸ inside') heldL awake
  obtain ⟨pos', value, stored, read⟩ :=
    holds.stores valid lastOwn remembers.sized listed targets.tile
  obtain rfl : pos' = pos := by
    rw [here, (stored.pos_eq valid lastOwn).2, Volume.texel, Volume.texel, own.grid, lastOwn.grid,
      slots]
  refine ⟨earlier, last, other, value, List.concat_eq_append .., ⟨⟨item', item, cascades ▸ found',
    found, ?_⟩, stored, fun cascade' index' texel' => stored.unique valid lastOwn⟩, ?_⟩
  · rw [own.grid, lastOwn.grid]
    exact cell
  · rw [classified.atlas_eq, here, Volume.texel, own.grid]
    rw [here, Volume.texel, own.grid] at read
    exact same.read_eq remembers.sized sized (Grid.slotAt_lt inside) targets.tile read

theorem kept_of_weight {cascade index : Nat} {pass : ClassificationPass} {before m : FrameMemory α}
    {probe : Probe α} (small : log.input.volume.grid.IsSmall)
    (classified : Frame.Classified log.input cascade before pass m)
    (listed : index ∈ m.store.active.toList)
    (read : log.input.volume.readProbe m.store.probes cascade index = .ok probe)
    (nonzero : (if (log.input.isFirst || pass.reset) || probe.state.isActivated then (0.0 : α)
      else log.input.volume.historyWeight) ≠ 0.0) :
    log.input.isFirst = false ∧ pass.reset = false ∧
      pass.isScrolledIn (log.input.volume.grid.coordsAt index) log.input.volume.grid.counts =
        .ok false ∧ ∃ packed, before.store.probes[log.input.volume.site cascade index]? =
          some packed ∧ (Probe.unpack packed : Probe α).state ≠ .inactive := by
  obtain ⟨settled, known, previous, read', unpacked, state⟩ :=
    classified.judged_of_listed small listed
  obtain rfl := Except.ok.inj (read'.symm.trans read)
  have quiet : ((log.input.isFirst || pass.reset) ||
      (Probe.unpack settled.pack : Probe α).state.isActivated) = false := by
    by_contra fresh
    exact nonzero (if_pos (Bool.eq_true_of_not_eq_false fresh))
  simp only [Bool.or_eq_false_iff, unpacked] at quiet
  obtain ⟨⟨continued, reset⟩, old⟩ := quiet
  rcases state with activated | ⟨-, awake⟩
  · simp [ProbeState.isActivated, activated] at old
  · obtain ⟨-, kept, packed, stored, rfl⟩ := Classification.kept_of_previous previous awake
    exact ⟨continued, reset, kept, packed, stored, awake⟩

variable [RectAllocator A]

/-- The simulations that a configuration leads to, with logs of their frames. Between frames, the
scene and its objects may change in any way. -/
inductive Reached (config : Config α) : Simulation A α → List (FrameLog α) → Prop where
  | create (scene : Scene α) (s : Simulation A α) : create config scene = .ok s → Reached config s []
  | alter (scene : Scene α) (registry : Registry A α) (records : SerializedAtlas α)
      (s : Simulation A α) (logs : List (FrameLog α)) : Reached config s logs →
      Reached config { s with scene, registry, records } logs
  | advance (viewPos : Vec3 α) (raysRotation : Quat α) (s s' : Simulation A α)
      (logs : List (FrameLog α)) (log : FrameLog α) (report : Report α) : Reached config s logs →
      s.prepare viewPos raysRotation = .ok log →
      s.advance viewPos raysRotation = .ok (s', report) → Reached config s' (logs ++ [log])

theorem create_eq_ok (scene : Scene α) (ran : create config scene = .ok s) :
    s.scene = scene ∧ s.config = config ∧ s.cascades = .create config ∧ s.framesRun = 0 ∧
      FrameMemory.initial config = .ok s.memory := by
  obtain ⟨registry, -, ran⟩ := bind_eq_ok.mp ran
  obtain ⟨memory, made, ran⟩ := bind_eq_ok.mp ran
  obtain rfl := Except.ok.inj ran
  exact ⟨rfl, rfl, rfl, rfl, made⟩

theorem remembers_of_create (scene : Scene α) (ran : create config scene = .ok s) :
    Remembers config s [] := by
  obtain ⟨-, configured, cascades, frames, made⟩ := create_eq_ok scene ran
  refine ⟨configured, by rw [cascades]; rfl, by simp [cascades, Cascades.create], frames,
    FrameMemory.initial_isSized made, ?_⟩
  intro earlier log split
  simp at split

theorem remembers_of_reached (valid : config.validate = .ok []) (reached : Reached config s logs) :
    Remembers config s logs := by
  induction reached with
  | create scene s ran => exact remembers_of_create scene ran
  | alter scene registry records s logs _ ih =>
      exact ⟨ih.configured, ih.counts, ih.cascades, ih.frames, ih.sized, ih.last⟩
  | advance viewPos raysRotation s s' logs log report _ prepared ran ih =>
      obtain ⟨own, counts, size, -, -, -⟩ := ih.prepared prepared
      obtain ⟨last, memory, looped, filled, rfl⟩ := (advance_eq_ok prepared).mp ⟨report, ran⟩
      obtain ⟨sized, kept⟩ := FrameLog.before_keeps valid own looped
      obtain ⟨sized', same⟩ := Frame.borders_keep sized filled
      refine ⟨ih.configured, counts, size, ?_, sized', ?_⟩
      · rw [stepped, ih.frames, List.length_append, List.length_singleton]
      · intro earlier other split
        obtain ⟨rfl, tail⟩ := List.append_inj' split rfl
        obtain ⟨rfl, -⟩ := List.cons.inj tail
        refine ⟨own, rfl, fun cascade present => ?_⟩
        have below : cascade < log.input.volume.grid.cascades := by
          rw [own.grid]
          exact present
        obtain ⟨pass, mid, holds⟩ := FrameLog.holds_before valid own looped below
        exact ⟨pass, mid, holds.outlives valid own (same cascade)⟩

/-- An update blends with no history, or with what the frame before has stored for the same cell of
the same lattice and nothing has changed since. A new probe has no history. -/
theorem history_of_same_cell (valid : config.validate = .ok []) (reached : Reached config s logs)
    (prepared : s.prepare viewPos raysRotation = .ok log) {cascade batch batchProbe : Nat}
    {pass : ClassificationPass} {before m : FrameMemory α} {layer : Layer} {texel pos : Vec2 Nat}
    {target : Updating.Target α} (up : log.before cascade = .ok before)
    (judged : Frame.classifyProbes log.input before cascade = .ok (pass, m))
    (found : Updating.target? log.input.volume
      (Batch.pass cascade (log.input.isFirst || pass.reset) batch) m.store.probes m.store.active
      batchProbe = .ok (some target))
    (tile : texel.x < layer.resolution ∧ texel.y < layer.resolution)
    (placed : target.texel log.input.volume.grid texel layer.resolution = .ok pos) :
    ∃ index, fetch m.store.active.entries (batch * Batch.probesLimit + batchProbe) = .ok index ∧
      log.Targets layer cascade index texel pos ∧
      (∀ cascade' index' texel', log.Targets layer cascade' index' texel' pos →
        cascade' = cascade ∧ index' = index ∧ texel' = texel) ∧
      (IsNew log pass before cascade index → target.historyWeight = 0.0 ∧
        (Scalar.le (0.0 : α) 0.0 = true → ∀ gathered old old',
          layer.blend log.input.volume cascade target.historyWeight gathered old =
            layer.blend log.input.volume cascade target.historyWeight gathered old')) ∧
      (target.historyWeight ≠ 0.0 → ∃ earlier last other value, logs = earlier ++ [last] ∧
        Continues last log layer cascade index other texel pos value ∧
        (layer.atlas m).read pos = .ok value) := by
  have remembers := remembers_of_reached valid reached
  obtain ⟨own, -⟩ := remembers.prepared prepared
  have asked : log.classified cascade = .ok (pass, m) := by
    rw [FrameLog.classified, up, ok_bind, judged]
  obtain ⟨_, up', classified, ready⟩ := FrameLog.stages_of_classified valid own asked
  obtain rfl := Except.ok.inj (up.symm.trans up')
  have small := (FrameLog.small valid own).1
  obtain ⟨index, slot, probe, inList, held, read, physical, same⟩ := Updating.target_eq_some found
  have listed : index ∈ m.store.active.toList := ActiveList.mem_of_fetch inList held
  have targets : log.Targets layer cascade index texel pos := by
    subst same
    exact ⟨tile, bind_eq_ok.mpr ⟨slot, physical, placed⟩, pass, m, asked, listed⟩
  have weight : target.historyWeight = if (log.input.isFirst || pass.reset) ||
      probe.state.isActivated then 0.0 else log.input.volume.historyWeight := by
    rw [same]
    rfl
  refine ⟨index, held, targets, fun _ _ _ => targets.unique valid own, fun isNew => ?_, ?_⟩
  · have weightless : target.historyWeight = 0.0 := by
      by_contra nonzero
      rw [weight] at nonzero
      obtain ⟨continued, reset, kept, packed, stored, awake⟩ :=
        kept_of_weight small classified listed read nonzero
      have inside := (targets.pos_eq valid own).1
      have readBefore : log.input.volume.readProbe before.store.probes cascade index =
          .ok (.unpack packed : Probe α) := Volume.readProbe_of_slot small inside read stored
      rcases isNew with first | anew | wrapped | asleep
      · exact absurd (continued.symm.trans first) (by simp)
      · exact absurd (reset.symm.trans anew) (by simp)
      · exact absurd (kept.symm.trans wrapped) (by simp)
      · simp [Volume.isActive, readBefore, ProbeState.isInactive, awake] at asleep
    refine ⟨weightless, fun law gathered old old' => ?_⟩
    rw [weightless]
    exact Layer.blend_weightless law layer _ _ _ _ _
  · intro nonzero
    rw [weight] at nonzero
    obtain ⟨continued, reset, kept, packed, stored, awake⟩ :=
      kept_of_weight small classified listed read nonzero
    exact continues_of_remembers valid remembers prepared up classified continued reset kept stored
      awake targets

section Example

deriving instance DecidableEq for Updating.Target

def rockConfig : Config ℚ :=
  { Config.standard with
    cascades := 1
    probesCounts := ⟨2, 2, 2⟩
    probesSpacing := 1
    raysCount := 32
    atlasResolution := 1
    atlasChunkResolution := 4
    atlasCulledCapacity := 2 }

def rock : Scene ℚ :=
  ⟨Shape.field [.constant (-1)] (1 / 10), #[], ⟨⟨#[], ⟨0, 0⟩⟩, ⟨#[], ⟨0, 0⟩⟩, ⟨#[], ⟨0, 0⟩⟩⟩⟩

/-- What has to be seen of two frames, the second one a step to the side. -/
def rockTrial : Except Fault Bool := do
  let start : Simulation Guillotine ℚ ← create rockConfig rock
  let log ← start.prepare ⟨0, 0, 0⟩ .identity
  let judged ← Frame.classifyProbes log.input log.start 0
  let located := judged.2.store.active.toList.all fun index => (do
    let probe : Probe ℚ ← log.input.volume.readProbe judged.2.store.probes 0 index
    log.input.volume.relocatedPosition 0 index probe).toOption.isSome
  let limit ← Updating.distanceLimit log.input.volume 0
  let next ← (start.stepped log judged.2).prepare ⟨1, 0, 0⟩ .identity
  let kept ← Frame.classifyProbes next.input next.start 0
  let index ← fetch kept.2.store.active.entries 0
  let target? ← Updating.target? next.input.volume
    (Batch.pass 0 (next.input.isFirst || kept.1.reset) 0) kept.2.store.probes
    kept.2.store.active 0
  let pos ← Updating.Target.texel ⟨0, 1, (19 / 20 : ℚ)⟩ next.input.volume.grid ⟨0, 0⟩
    irradianceResolution
  return Scalar.lt 0.0 log.input.volume.rayMaxDistance && located && limit = 3 / 2 &&
    next.input.records.tiles = #[] && index = 0 && target? = some ⟨0, 1, 19 / 20⟩ && pos = ⟨9, 1⟩

set_option maxRecDepth 10000 in
theorem rockTrial_eq : rockTrial = .ok true := by decide +kernel

theorem rock_answers {s : Surroundings ℚ} (same : s.field = rock.field) {ray : Ray ℚ}
    {maxDistance : ℚ} (some : Scalar.lt 0.0 maxDistance = true) :
    ∃ seen, Tracing.traceRay s ray maxDistance = .ok seen := by
  have sample : ∀ pos, rock.field.sample pos = .ok (-1) := by
    intro pos
    have nearest : Scalar.minNum (1.0 / 0.0 : ℚ) (-1) = -1 := by decide +kernel
    exact congrArg Except.ok nearest
  have size : ∀ cascade, rock.field.voxelSize cascade = .ok (1 / 10) := fun _ => rfl
  have cascade : ∀ pos, rock.field.cascadeAt pos = .ok 0 := fun _ => rfl
  have reached : Scalar.lt (-1) (1 / 10 * 0.25 : ℚ) = true := by decide +kernel
  have stuck : (Scalar.lt 0.0 (1 / 10 : ℚ) && Scalar.le (-1 : ℚ) 0.0) = true := by decide +kernel
  rw [Tracing.traceRay, same, DistanceField.trace, maxMarchSteps, DistanceField.march]
  simp only [some, if_true, sample, size, cascade, ok_bind, reached, DistanceField.sampleGradient,
    DistanceField.difference, pure_eq_ok, stuck]
  exact ⟨_, rfl⟩

/-- A frame later and a step to the side, a probe goes on with what its neighbour has stored. -/
theorem history_of_same_cell_rock : ∃ s : Simulation Guillotine ℚ, ∃ last log,
    Reached rockConfig s [last] ∧ s.prepare ⟨1, 0, 0⟩ .identity = .ok log ∧
      ∃ other value, Continues last log .irradiance 0 0 other ⟨0, 0⟩ ⟨9, 1⟩ value := by
  have valid : rockConfig.validate = .ok [] := by decide +kernel
  have trial := rockTrial_eq
  simp only [rockTrial, bind_eq_ok, pure_eq_ok, Except.ok.injEq, Bool.and_eq_true,
    decide_eq_true_eq] at trial
  obtain ⟨start, created, log, prepared, ⟨pass, judged⟩, classified, limit, limited, next,
    preparedNext, ⟨passNext, kept⟩, classifiedNext, index, listed, _, found, pos, placed, ⟨⟨⟨⟨⟨far,
    located⟩, rfl⟩, empty⟩, rfl⟩, rfl⟩, rfl⟩ := trial
  have own := ((remembers_of_create rock created).prepared prepared).1
  have field : log.met.field = rock.field := by
    obtain ⟨-, -, -, -, -, scene, lists, met⟩ := prepare_eq_ok prepared
    rw [met, Frame.surroundings, scene, (create_eq_ok rock created).1]
  -- The first frame runs to its end, and keeps what its only cascade has classified.
  obtain ⟨last, memory, looped, filled⟩ := FrameLog.ends valid own fun cascade present m up => by
    obtain rfl : cascade = 0 := Nat.lt_one_iff.mp present
    obtain rfl : log.start = m := Except.ok.inj up
    refine ⟨⟨3 / 2, limited, by decide +kernel, by decide +kernel⟩, pass, judged, classified, ?_⟩
    intro index listed
    obtain ⟨probe, read, placed⟩ :=
      bind_eq_ok.mp (eq_ok_get _ (List.all_eq_true.mp located index listed))
    exact Tracing.row_ends read placed fun ray _ => rock_answers field far
  have same : memory.store = judged.store := by
    obtain ⟨m, up, ran⟩ := FrameLog.before_succ.mp looped
    obtain rfl : log.start = m := Except.ok.inj up
    obtain ⟨pass', mid, again, lit⟩ := Frame.runCascade_eq_ok.mp ran
    obtain ⟨rfl, rfl⟩ := Prod.mk.inj (Except.ok.inj (classified.symm.trans again))
    have asked : log.classified 0 = .ok (pass, judged) := again
    obtain ⟨_, -, -, ready⟩ := FrameLog.stages_of_classified valid own asked
    rw [(Frame.borders_eq_ok filled).1, (Frame.lit_of_light ready lit).store]
  have cascades : log.input.volume.grid.cascades = rockConfig.cascades := by
    rw [own.grid]
    rfl
  rw [← cascades] at looped
  obtain ⟨report, ran⟩ := (advance_eq_ok prepared).mpr ⟨last, memory, looped, filled, rfl⟩
  have reached : Reached rockConfig (start.stepped log memory) ([] ++ [log]) :=
    .advance _ _ _ _ _ _ report (.create rock start created) prepared ran
  -- The second one starts with other texels than it has been tried with, but the same probes.
  obtain ⟨met, prepared'⟩ := prepare_of_empty preparedNext empty memory
  have begun : next.start = judged := by
    have lit := (prepare_eq_ok preparedNext).2.2.2.2.1
    rw [Frame.lightAtlas_of_empty empty] at lit
    exact (Except.ok.inj lit).symm
  have classified' :=
    Frame.classifyProbes_of_store (same.trans (congrArg _ begun.symm)) classifiedNext
  obtain ⟨index, held, -, -, -, continues⟩ := @history_of_same_cell Guillotine ℚ _ _ _ _ _ _ _ _
    valid reached prepared' 0 0 0 _ _ _ .irradiance ⟨0, 0⟩ _ _ rfl classified' found
    ⟨by decide, by decide⟩ placed
  obtain rfl := Except.ok.inj (listed.symm.trans held)
  obtain ⟨earlier, last, other, value, split, continues, -⟩ := continues (by decide +kernel)
  obtain ⟨-, same⟩ := List.append_inj' split rfl
  obtain ⟨rfl, -⟩ := List.cons.inj same
  exact ⟨_, _, _, reached, prepared', other, value, continues⟩

end Example

end Simulation

end IrradianceField
