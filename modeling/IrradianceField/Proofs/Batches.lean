import IrradianceField.Frame
import IrradianceField.Proofs.Coverage

/-!
Batches as edits: all batches of a cascade together change each texel of the listed probes' tiles
once, by what the probe's own rays see, so that the order of the list does not count.
-/

namespace IrradianceField

variable {α : Type}

def Layer.atlas (m : FrameMemory α) : Layer → Texels (Vec4 α)
  | irradiance => m.irradiance
  | distance => m.distance

@[simp] theorem Layer.atlas_dispatches (layer : Layer) (m : FrameMemory α) (args : Array Nat) :
    layer.atlas { m with dispatches := args } = layer.atlas m := by
  cases layer with
  | irradiance => rfl
  | distance => rfl

namespace Frame

/-- The buffers have the sizes they are allocated with, and the active list holds probes of the
grid, each once. -/
structure Ready (input : FrameInput α) (m : FrameMemory α) : Prop where
  counted : input.config.probesPerCascade = .ok input.volume.grid.size
  atlases : ∀ layer : Layer,
    input.volume.grid.atlasSize layer.resolution = .ok (layer.atlas m).size
  trace : Batch.traceSize input.volume.grid.size = .ok m.trace.size
  dispatches : ∀ capacity, Batch.needed input.volume.grid.size = .ok capacity →
    capacity * Batch.stride ≤ m.dispatches.size
  held : m.store.active.IsHeld
  inside : ∀ index ∈ m.store.active.toList, index < input.volume.grid.size
  once : m.store.active.toList.Nodup

variable {input : FrameInput α} {m after : FrameMemory α} {batch : Nat}

def slice (m : FrameMemory α) (batch : Nat) : List Nat :=
  (m.store.active.toList.drop (batch * Batch.probesLimit)).take Batch.probesLimit

theorem Ready.length_slice (ready : Ready input m) :
    (slice m batch).length = Batch.sizeOf m.store.active.count batch := by
  rw [slice, Batch.length_slice, ready.held.length_toList]

theorem Ready.count_le (ready : Ready input m) :
    m.store.active.count ≤ input.volume.grid.size := by
  have below : m.store.active.toList ⊆ List.range input.volume.grid.size := fun index member =>
    List.mem_range.mpr (ready.inside index member)
  have fewer := (List.subperm_of_subset ready.once below).length_le
  rwa [ready.held.length_toList, List.length_range] at fewer

theorem Ready.getElem?_slice (ready : Ready input m) {b index : Nat}
    (found : (slice m batch)[b]? = some index) : index < input.volume.grid.size ∧
      fetch m.store.active.entries (batch * Batch.probesLimit + b) = .ok index := by
  have listed : m.store.active.toList[batch * Batch.probesLimit + b]? = some index := by
    have below : b < Batch.probesLimit := by
      have inside := (List.getElem?_eq_some_iff.mp found).1
      rw [slice, List.length_take] at inside
      omega
    rwa [slice, List.getElem?_take_of_lt below, List.getElem?_drop] at found
  exact ⟨ready.inside index (List.mem_of_getElem? listed), ActiveList.IsHeld.fetch_eq_ok listed⟩

variable [Scalar α]

/-- Sizes, traces and updates the batches of a cascade, once its probes have been classified. -/
def light (input : FrameInput α) (met : Surroundings α) (cascade : Nat) (resetBlend : Bool)
    (m : FrameMemory α) : Except Fault (FrameMemory α) := do
  let capacity ← Batch.needed (← input.config.probesPerCascade)
  let dispatches ← BatchDispatch.storeAll m.store.active.count input.volume.raysCount capacity
    m.dispatches
  (List.range capacity).foldlM (runBatch input met cascade resetBlend) { m with dispatches }

theorem runCascade_eq (input : FrameInput α) (met : Surroundings α) (m : FrameMemory α)
    (cascade : Nat) : runCascade input met m cascade = (do
      let pass ← input.cascades.classificationPass input.config cascade
      let store ← Classification.run input.volume pass input.scene.field m.store
      light input met cascade (input.isFirst || pass.reset) { m with store }) := by
  unfold runCascade
  refine bind_congr fun pass => ?_
  simp only [classify, light, bind_assoc, pure_bind]
  refine bind_congr fun store => ?_
  rcases ok_or_error input.config.probesPerCascade with ⟨count, counted⟩ | ⟨e, failed⟩
  · rcases ok_or_error (Batch.needed count) with ⟨capacity, enough⟩ | ⟨e, failed⟩
    · simp only [counted, enough, ok_bind]
    · simp only [counted, failed, ok_bind, error_bind]
  · simp only [failed, error_bind]

def edits (input : FrameInput α) (met : Surroundings α) (cascade : Nat) (resetBlend : Bool)
    (layer : Layer) (m : FrameMemory α) (indices : List Nat) : List (Edit (Vec4 α)) :=
  indices.flatMap (Updating.tileEdits layer input.volume m.store.probes met cascade resetBlend
    (layer.atlas m).size)

variable {met : Surroundings α} {cascade traceGroups : Nat} {resetBlend : Bool}

theorem Ready.traced {trace traced : Array (Vec4 α)} (ready : Ready input m)
    (words : m.store.active.count ≤ 4294963200)
    (enough : Updating.raysRead input.volume ≤ traceGroups * Batch.traceGroupSize)
    (ran : Tracing.run input.volume (Batch.pass cascade resetBlend batch) m.store.probes
      m.store.active met (BatchDispatch.ofProbes traceGroups
        (Batch.sizeOf m.store.active.count batch)).trace trace = .ok traced) :
    Updating.Traced input.volume (Batch.pass cascade resetBlend batch) m.store.probes
      m.store.active met traced (slice m batch) := by
  refine ⟨?_, ?_, ?_, ?_⟩
  · intro index member
    have inside := ready.inside index (List.mem_of_mem_drop (List.mem_of_mem_take member))
    exact ⟨Grid.isSmall_of_atlasSize inside (ready.atlases .irradiance), inside⟩
  · exact List.length_take_le ..
  · intro b index found
    have below := (List.getElem?_eq_some_iff.mp found).1
    rw [ready.length_slice] at below
    obtain ⟨-, held⟩ := ready.getElem?_slice found
    simp only [Batch.sizeOf] at below
    simp only [Batch.pass]
    exact ⟨by omega, by omega, held⟩
  · intro b index found
    have below := (List.getElem?_eq_some_iff.mp found).1
    rw [ready.length_slice] at below
    obtain ⟨other, held, runs⟩ := Batch.own_of_run input.volume m.store.probes met cascade
      resetBlend ready.held words enough below
    obtain rfl : index = other :=
      Except.ok.inj ((ready.getElem?_slice found).2.symm.trans held)
    exact runs trace traced ran

/-- What the batches before have done to the memory of a frame. -/
structure Progress (input : FrameInput α) (met : Surroundings α) (cascade : Nat)
    (resetBlend : Bool) (m : FrameMemory α) (done : List Nat) (after : FrameMemory α) : Prop where
  store : after.store = m.store
  dispatches : after.dispatches = m.dispatches
  lighting : after.lighting = m.lighting
  trace : after.trace.size = m.trace.size
  sizes : ∀ layer : Layer, (layer.atlas after).size = (layer.atlas m).size
  edited : ∀ layer : Layer,
    (edits input met cascade resetBlend layer m (done.flatMap (slice m))).foldlM Edit.apply
      (layer.atlas m).data = .ok (layer.atlas after).data

theorem runBatch_eq_ok {next : FrameMemory α} (small : batch * Batch.probesLimit < 4294967296)
    {sizes : BatchDispatch} (loaded : BatchDispatch.load m.dispatches batch = .ok sizes) :
    runBatch input met cascade resetBlend m batch = .ok next ↔
      ∃ (trace : Array (Vec4 α)) (atlases : Layer → Texels (Vec4 α)),
        Tracing.run input.volume (Batch.pass cascade resetBlend batch) m.store.probes
          m.store.active met sizes.trace m.trace = .ok trace ∧
        (∀ layer : Layer, layer.run input.volume (Batch.pass cascade resetBlend batch)
          m.store.probes m.store.active trace sizes.update.x (layer.atlas m) =
            .ok (atlases layer)) ∧
        next = { m with
          trace, irradiance := atlases .irradiance, distance := atlases .distance } := by
  have offset : Word.mul batch Batch.probesLimit = .ok (batch * Batch.probesLimit) :=
    Word.mul_eq_ok.mpr ⟨rfl, small⟩
  simp only [runBatch, offset, loaded, ok_bind, bind_eq_ok, pure_eq_ok, Except.ok.injEq]
  constructor
  · intro ran
    obtain ⟨trace, traced, irradiance, first, distance, second, rfl⟩ := ran
    refine ⟨trace, fun layer => match layer with
      | .irradiance => irradiance
      | .distance => distance, traced, fun layer => ?_, rfl⟩
    cases layer with
    | irradiance => exact first
    | distance => exact second
  · intro ran
    obtain ⟨trace, atlases, traced, updated, rfl⟩ := ran
    exact ⟨trace, traced, _, updated .irradiance, _, updated .distance, rfl⟩

theorem Progress.ready {done : List Nat} (progress : Progress input met cascade resetBlend m done after)
    (ready : Ready input m) : Ready input after where
  counted := ready.counted
  atlases := fun layer => by rw [progress.sizes, ready.atlases]
  trace := by rw [progress.trace, ready.trace]
  dispatches := fun capacity enough => by
    rw [progress.dispatches]
    exact ready.dispatches capacity enough
  held := by rw [progress.store]; exact ready.held
  inside := by rw [progress.store]; exact ready.inside
  once := by rw [progress.store]; exact ready.once

section Batch

variable {done : List Nat} {mid next : FrameMemory α}

theorem Progress.performs (progress : Progress input met cascade resetBlend m done mid)
    (ready : Ready input m) (words : m.store.active.count ≤ 4294963200)
    (enough : Updating.raysRead input.volume ≤ traceGroups * Batch.traceGroupSize)
    {trace traced : Array (Vec4 α)}
    (ran : Tracing.run input.volume (Batch.pass cascade resetBlend batch) mid.store.probes
      mid.store.active met (BatchDispatch.ofProbes traceGroups
        (Batch.sizeOf m.store.active.count batch)).trace trace = .ok traced)
    (layer : Layer) (updated : Texels (Vec4 α)) :
    layer.run input.volume (Batch.pass cascade resetBlend batch) mid.store.probes mid.store.active
        traced (BatchDispatch.ofProbes traceGroups
          (Batch.sizeOf m.store.active.count batch)).update.x (layer.atlas mid) = .ok updated ↔
      ∃ data, (edits input met cascade resetBlend layer m (slice m batch)).foldlM Edit.apply
          (layer.atlas mid).data = .ok data ∧ updated = ⟨data, (layer.atlas m).size⟩ := by
  rw [progress.store] at ran ⊢
  rw [(Batch.ofProbes_places _ _).2, ← ready.length_slice, edits, ← progress.sizes layer]
  exact Updating.run_performs layer (ready.traced words enough ran) (layer.atlas mid).size
    (layer.atlas mid).data updated

theorem Progress.step (progress : Progress input met cascade resetBlend m done mid)
    (ready : Ready input m) (words : m.store.active.count ≤ 4294963200)
    (enough : Updating.raysRead input.volume ≤ traceGroups * Batch.traceGroupSize)
    (small : batch * Batch.probesLimit < 4294967296)
    (loaded : BatchDispatch.load m.dispatches batch =
      .ok (.ofProbes traceGroups (Batch.sizeOf m.store.active.count batch)))
    (ran : runBatch input met cascade resetBlend mid batch = .ok next) :
    Progress input met cascade resetBlend m (done ++ [batch]) next := by
  rw [← progress.dispatches] at loaded
  obtain ⟨trace, atlases, traced, updated, rfl⟩ := (runBatch_eq_ok small loaded).mp ran
  have edited : ∀ layer : Layer, ∃ data,
      (edits input met cascade resetBlend layer m (slice m batch)).foldlM Edit.apply
        (layer.atlas mid).data = .ok data ∧ atlases layer = ⟨data, (layer.atlas m).size⟩ :=
    fun layer => (progress.performs ready words enough traced layer _).mp (updated layer)
  have same : ∀ layer : Layer, layer.atlas { mid with
      trace, irradiance := atlases .irradiance, distance := atlases .distance } =
        atlases layer := by
    intro layer
    cases layer with
    | irradiance => rfl
    | distance => rfl
  refine ⟨progress.store, progress.dispatches, progress.lighting, ?_, ?_, ?_⟩
  · rw [progress.store, Batch.run_eq_ok words small] at traced
    exact traced.size.trans progress.trace
  · intro layer
    obtain ⟨data, -, found⟩ := edited layer
    rw [same, found]
  · intro layer
    obtain ⟨data, made, found⟩ := edited layer
    rw [same, found, List.flatMap_append, List.flatMap_singleton, edits, List.flatMap_append,
      foldlM_append_eq_ok]
    exact ⟨_, progress.edited layer, made⟩

theorem row_of_edits {layer : Layer} {indices : List Nat} {before data : Array (Vec4 α)}
    (ran : (edits input met cascade resetBlend layer m indices).foldlM Edit.apply before = .ok data)
    {index : Nat} (member : index ∈ indices) :
    ∃ rays, Tracing.row input.volume m.store.probes met cascade index = .ok rays := by
  have corner : (⟨0, 0⟩ : Vec2 Nat) ∈ Updating.tileTexels layer.resolution := by
    cases layer with
    | irradiance => decide
    | distance => decide
  have listed : Updating.edit layer input.volume m.store.probes met cascade resetBlend
      (layer.atlas m).size index ⟨0, 0⟩ ∈ edits input met cascade resetBlend layer m indices :=
    List.mem_flatMap.mpr ⟨index, member, List.mem_map_of_mem corner⟩
  obtain ⟨old, new, changed⟩ := Edit.change_of_run ran _ listed
  simp only [Updating.edit, bind_eq_ok] at changed
  obtain ⟨_, -, rays, found, -⟩ := changed
  exact ⟨rays, found⟩

theorem Ready.trace_ends (ready : Ready input m) (resetBlend : Bool)
    (words : m.store.active.count ≤ 4294963200)
    (enough : Updating.raysRead input.volume ≤ traceGroups * Batch.traceGroupSize)
    (small : batch * Batch.probesLimit < 4294967296)
    (rows : ∀ index ∈ slice m batch, ∃ rays,
      Tracing.row input.volume m.store.probes met cascade index = .ok rays) :
    ∃ traced, Tracing.run input.volume (Batch.pass cascade resetBlend batch) m.store.probes
      m.store.active met (BatchDispatch.ofProbes traceGroups
        (Batch.sizeOf m.store.active.count batch)).trace m.trace = .ok traced := by
  have room := (Word.mul_eq_ok.mp ready.trace).1
  have fewer := ready.count_le
  have each : ∀ e ∈ (Tracing.workers input.volume (Batch.pass cascade resetBlend batch)
      m.store.active (BatchDispatch.ofProbes traceGroups
        (Batch.sizeOf m.store.active.count batch)).trace).map
          (Tracing.edit input.volume (Batch.pass cascade resetBlend batch) m.store.probes
            m.store.active met),
      ∃ old new, m.trace[e.place]? = some old ∧ e.change old = .ok new := by
    intro e member
    obtain ⟨⟨b, ray⟩, busy, rfl⟩ := List.mem_map.mp member
    obtain ⟨inside, below⟩ := ((Batch.workers_of_groups enough).1 _).mp busy
    have listed : b < (slice m batch).length := ready.length_slice ▸ inside
    have found := List.getElem?_eq_getElem listed
    obtain ⟨rays, row⟩ := rows _ (List.getElem_mem listed)
    obtain ⟨value, sight, -⟩ := (Tracing.row_eq_ok.mp row).2 ray below
    have place : b * Batch.raysLimit + ray < m.trace.size := by
      have short := below.trans_le Tracing.raysRead_le
      simp only [Batch.sizeOf, Batch.probesLimit, Batch.raysLimit] at inside room short ⊢
      omega
    refine ⟨m.trace[b * Batch.raysLimit + ray], value, Array.getElem?_eq_getElem place, ?_⟩
    simp only [Tracing.edit, Batch.pass, (ready.getElem?_slice found).2, ok_bind]
    exact sight
  obtain ⟨traced, ran⟩ := Edit.run_ends Tracing.distinct_edits each
  exact ⟨traced, (Batch.run_eq_ok words small).mpr ((Edit.run_eq_ok Tracing.distinct_edits).mp ran)⟩

theorem Progress.ends (progress : Progress input met cascade resetBlend m done mid)
    (ready : Ready input m) (words : m.store.active.count ≤ 4294963200)
    (enough : Updating.raysRead input.volume ≤ traceGroups * Batch.traceGroupSize)
    (small : batch * Batch.probesLimit < 4294967296)
    (loaded : BatchDispatch.load m.dispatches batch =
      .ok (.ofProbes traceGroups (Batch.sizeOf m.store.active.count batch)))
    (editable : ∀ layer : Layer, ∃ data,
      (edits input met cascade resetBlend layer m (slice m batch)).foldlM Edit.apply
        (layer.atlas mid).data = .ok data) :
    ∃ next, runBatch input met cascade resetBlend mid batch = .ok next := by
  obtain ⟨_, possible⟩ := editable .irradiance
  have rows : ∀ index ∈ slice mid batch, ∃ rays,
      Tracing.row input.volume mid.store.probes met cascade index = .ok rays := by
    intro index member
    rw [slice, progress.store] at member
    rw [progress.store]
    exact row_of_edits possible member
  have sizes : mid.store.active.count = m.store.active.count := by rw [progress.store]
  obtain ⟨traced, ran⟩ := (progress.ready ready).trace_ends resetBlend (sizes ▸ words) enough small rows
  rw [← progress.dispatches, ← sizes] at loaded
  choose data made using editable
  exact ⟨_, (runBatch_eq_ok small loaded).mpr ⟨traced, fun layer =>
    ⟨data layer, (layer.atlas m).size⟩, ran, fun layer => by
      rw [sizes] at ran ⊢
      exact (progress.performs ready words enough ran layer _).mpr ⟨_, made layer, rfl⟩, rfl⟩⟩

end Batch

section Cascade

variable {capacity : Nat} {args : Array Nat}

omit [Scalar α] in
theorem Ready.batches (ready : Ready input m)
    (needed : Batch.needed input.volume.grid.size = .ok capacity) :
    m.store.active.count ≤ 4294963200 ∧ capacity * Batch.probesLimit ≤ 4294967296 ∧
      m.store.active.count ≤ capacity * Batch.probesLimit := by
  obtain ⟨rfl, small, -⟩ := Word.groups_eq_ok.mp needed
  have fewer := ready.count_le
  simp only [Batch.probesLimit] at small ⊢
  omega

omit [Scalar α] in
theorem Ready.sized (ready : Ready input m)
    (needed : Batch.needed input.volume.grid.size = .ok capacity)
    (stored : BatchDispatch.storeAll m.store.active.count input.volume.raysCount capacity
      m.dispatches = .ok args) :
    args.size = m.dispatches.size ∧ Ready input { m with dispatches := args } ∧ ∃ traceGroups,
      Updating.raysRead input.volume ≤ traceGroups * Batch.traceGroupSize ∧
        ∀ batch < capacity, BatchDispatch.load args batch =
          .ok (.ofProbes traceGroups (Batch.sizeOf m.store.active.count batch)) := by
  obtain ⟨-, few, -⟩ := ready.batches needed
  obtain ⟨traceGroups, groups, -⟩ := bind_eq_ok.mp stored
  have words := BatchDispatch.storeAll_eq_ok groups few stored
  have room := ready.dispatches capacity needed
  have size : args.size = m.dispatches.size := by
    have length := congrArg List.length words
    rw [List.length_append, List.length_drop, BatchDispatch.length_sizes] at length
    simp only [Array.length_toList] at length
    omega
  refine ⟨size, ⟨ready.counted, fun layer => ?_, ready.trace, ?_, ready.held, ready.inside,
    ready.once⟩, traceGroups, ?_, fun batch => BatchDispatch.load_eq few words⟩
  · rw [Layer.atlas_dispatches]
    exact ready.atlases layer
  · intro capacity needed
    rw [size]
    exact ready.dispatches capacity needed
  · obtain ⟨rfl, -, -⟩ := Word.groups_eq_ok.mp groups
    simp only [Updating.raysRead, Batch.traceGroupSize]
    omega

omit [Scalar α] in
theorem flatMap_slice (ready : Ready input m)
    (needed : Batch.needed input.volume.grid.size = .ok capacity) :
    (List.range capacity).flatMap (slice m) = m.store.active.toList := by
  obtain ⟨-, -, all⟩ := ready.batches needed
  unfold slice
  rw [Batch.flatMap_slices, List.take_of_length_le (by rw [ready.held.length_toList]; exact all)]

theorem light_eq_ok : light input met cascade resetBlend m = .ok after ↔ ∃ count capacity args,
    input.config.probesPerCascade = .ok count ∧ Batch.needed count = .ok capacity ∧
      BatchDispatch.storeAll m.store.active.count input.volume.raysCount capacity m.dispatches =
        .ok args ∧
      (List.range capacity).foldlM (runBatch input met cascade resetBlend)
        { m with dispatches := args } = .ok after := by
  simp only [light, bind_eq_ok]
  constructor
  · intro ran
    obtain ⟨count, counted, capacity, needed, args, stored, ran⟩ := ran
    exact ⟨count, capacity, args, counted, needed, stored, ran⟩
  · intro ran
    obtain ⟨count, capacity, args, counted, needed, stored, ran⟩ := ran
    exact ⟨count, counted, capacity, needed, args, stored, ran⟩

structure Lit (input : FrameInput α) (met : Surroundings α) (cascade : Nat) (resetBlend : Bool)
    (m after : FrameMemory α) : Prop where
  store : after.store = m.store
  lighting : after.lighting = m.lighting
  trace : after.trace.size = m.trace.size
  dispatches : after.dispatches.size = m.dispatches.size
  sizes : ∀ layer : Layer, (layer.atlas after).size = (layer.atlas m).size
  edited : ∀ layer : Layer,
    (edits input met cascade resetBlend layer m m.store.active.toList).foldlM Edit.apply
      (layer.atlas m).data = .ok (layer.atlas after).data

theorem progress_nil : Progress input met cascade resetBlend m [] m :=
  ⟨rfl, rfl, rfl, rfl, fun _ => rfl, fun _ => rfl⟩

theorem lit_of_light (ready : Ready input m)
    (ran : light input met cascade resetBlend m = .ok after) :
    Lit input met cascade resetBlend m after := by
  obtain ⟨_, capacity, args, counted, needed, stored, ran⟩ := light_eq_ok.mp ran
  obtain rfl := Except.ok.inj (ready.counted.symm.trans counted)
  obtain ⟨words, few, -⟩ := ready.batches needed
  obtain ⟨size, ready', traceGroups, enough, loaded⟩ := ready.sized needed stored
  have progress := foldlM_tracks (Progress input met cascade resetBlend { m with dispatches := args })
    (fun done batch rest mid next split progress ran => by
      have below : batch < capacity := by
        rw [← List.mem_range, split]
        exact List.mem_append_right _ List.mem_cons_self
      have small : batch * Batch.probesLimit < 4294967296 := by
        simp only [Batch.probesLimit] at few ⊢
        omega
      exact progress.step ready' words enough small (loaded batch below) ran)
    progress_nil ran
  refine ⟨progress.store, progress.lighting, progress.trace, progress.dispatches ▸ size, ?_, ?_⟩
  · intro layer
    rw [progress.sizes, Layer.atlas_dispatches]
  · intro layer
    have edited := progress.edited layer
    rw [flatMap_slice ready' needed, edits, Layer.atlas_dispatches] at edited
    exact edited

theorem light_ends (ready : Ready input m)
    (needed : Batch.needed input.volume.grid.size = .ok capacity)
    (stored : BatchDispatch.storeAll m.store.active.count input.volume.raysCount capacity
      m.dispatches = .ok args)
    (editable : ∀ layer : Layer, ∃ data,
      (edits input met cascade resetBlend layer m m.store.active.toList).foldlM Edit.apply
        (layer.atlas m).data = .ok data) :
    ∃ after, light input met cascade resetBlend m = .ok after := by
  obtain ⟨words, few, -⟩ := ready.batches needed
  obtain ⟨-, ready', traceGroups, enough, loaded⟩ := ready.sized needed stored
  obtain ⟨after, ran, -⟩ := foldlM_ends
    (Progress input met cascade resetBlend { m with dispatches := args })
    (f := runBatch input met cascade resetBlend) (l := List.range capacity)
    (fun done batch rest mid split progress => by
      have below : batch < capacity := by
        rw [← List.mem_range, split]
        exact List.mem_append_right _ List.mem_cons_self
      have small : batch * Batch.probesLimit < 4294967296 := by
        simp only [Batch.probesLimit] at few ⊢
        omega
      have next : ∀ layer : Layer, ∃ data, (edits input met cascade resetBlend layer
          { m with dispatches := args } (slice { m with dispatches := args } batch)).foldlM
            Edit.apply (layer.atlas mid).data = .ok data := by
        intro layer
        obtain ⟨data, made⟩ := editable layer
        have before := progress.edited layer
        rw [edits, Layer.atlas_dispatches] at before
        rw [← flatMap_slice ready needed, split, List.flatMap_append, List.flatMap_cons, edits,
          List.flatMap_append, List.flatMap_append, foldlM_append_eq_ok] at made
        obtain ⟨mid', made', made⟩ := made
        obtain rfl := Except.ok.inj (before.symm.trans made')
        obtain ⟨data', made, -⟩ := foldlM_append_eq_ok.mp made
        refine ⟨data', ?_⟩
        rw [edits, Layer.atlas_dispatches]
        exact made
      obtain ⟨after, ran⟩ := progress.ends ready' words enough small (loaded batch below) next
      exact ⟨after, ran, progress.step ready' words enough small (loaded batch below) ran⟩)
    progress_nil
  exact ⟨after, light_eq_ok.mpr ⟨_, capacity, args, ready.counted, needed, stored, ran⟩⟩

end Cascade

section Places

variable {layer : Layer} {indices : List Nat}

theorem mem_edits {e : Edit (Vec4 α)}
    (member : e ∈ edits input met cascade resetBlend layer m indices) :
    ∃ index ∈ indices, ∃ texel : Vec2 Nat,
      (texel.x < layer.resolution ∧ texel.y < layer.resolution) ∧
        e = Updating.edit layer input.volume m.store.probes met cascade resetBlend
          (layer.atlas m).size index texel := by
  obtain ⟨index, listed, member⟩ := List.mem_flatMap.mp member
  obtain ⟨texel, inside, rfl⟩ := List.mem_map.mp member
  exact ⟨index, listed, texel, Updating.mem_tileTexels.mp inside, rfl⟩

theorem distinct_edits (width : (layer.atlas m).size.x =
      input.volume.grid.counts.x * (layer.resolution + 2))
    (inside : ∀ index ∈ indices, index < input.volume.grid.size) (once : indices.Nodup) :
    ((edits input met cascade resetBlend layer m indices).map Edit.place).Nodup := by
  have places : (edits input met cascade resetBlend layer m indices).map Edit.place =
      indices.flatMap fun index => (Updating.tileTexels layer.resolution).map fun texel =>
        Updating.placeAt input.volume cascade layer.resolution index texel (layer.atlas m).size := by
    simp only [edits, Updating.tileEdits, List.map_flatMap, List.map_map]
    rfl
  rw [places]
  refine List.nodup_flatMap.mpr ⟨fun index listed => ?_, ?_⟩
  · refine Updating.nodup_tileTexels.map_on fun t member t' member' same => ?_
    exact (Updating.placeAt_inj width (inside index listed) (inside index listed)
      (Updating.mem_tileTexels.mp member) (Updating.mem_tileTexels.mp member') same).2.2
  · refine once.imp_of_mem fun listed listed' different place member member' => ?_
    obtain ⟨t, tile, rfl⟩ := List.mem_map.mp member
    obtain ⟨t', tile', same⟩ := List.mem_map.mp member'
    exact different (Updating.placeAt_inj width (inside _ listed) (inside _ listed')
      (Updating.mem_tileTexels.mp tile) (Updating.mem_tileTexels.mp tile') same.symm).2.1

omit [Scalar α] in
theorem Ready.width (ready : Ready input m) (layer : Layer) :
    (layer.atlas m).size.x = input.volume.grid.counts.x * (layer.resolution + 2) := by
  rw [(Grid.atlasSize_eq_ok.mp (ready.atlases layer)).1]

theorem Lit.made (lit : Lit input met cascade resetBlend m after) (ready : Ready input m)
    (layer : Layer) : Edit.Made (edits input met cascade resetBlend layer m m.store.active.toList)
      (layer.atlas m).data (layer.atlas after).data :=
  (Edit.run_eq_ok (distinct_edits (ready.width layer) ready.inside ready.once)).mp (lit.edited layer)

end Places

end Frame

end IrradianceField
