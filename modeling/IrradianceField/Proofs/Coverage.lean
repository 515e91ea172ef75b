import IrradianceField.DistanceField.Shape
import IrradianceField.Proofs.Batching
import IrradianceField.Proofs.Updating

/-!
Coverage: the batches of a cascade take every place of its active list once, and a batch reads no
entry of the trace buffer but those that its own threads have written.
-/

namespace IrradianceField

variable {α : Type}

def Batch.pass (cascade : Nat) (resetBlend : Bool) (batch : Nat) : BatchPass :=
  ⟨cascade, batch * probesLimit, resetBlend⟩

namespace ActiveList

def IsHeld (l : ActiveList) : Prop := l.count ≤ l.entries.size

variable {l : ActiveList} {place : Nat}

instance : Decidable l.IsHeld := inferInstanceAs (Decidable (_ ≤ _))

theorem IsHeld.length_toList (held : l.IsHeld) : l.toList.length = l.count := by
  rw [toList, List.length_take, Array.length_toList, Nat.min_eq_left held]

theorem IsHeld.fetch_eq_ok {index : Nat} (listed : l.toList[place]? = some index) :
    fetch l.entries place = .ok index := by
  have inside := (List.getElem?_eq_some_iff.mp listed).1
  rw [toList, List.length_take] at inside
  rw [toList, List.getElem?_take_of_lt (by omega), Array.getElem?_toList] at listed
  exact IrradianceField.fetch_eq_ok.mpr listed

theorem mem_of_fetch {index : Nat} (inside : place < l.count)
    (held : fetch l.entries place = .ok index) : index ∈ l.toList := by
  have found := IrradianceField.fetch_eq_ok.mp held
  rw [← Array.getElem?_toList] at found
  refine List.mem_of_getElem? (i := place) ?_
  rw [toList, List.getElem?_take_of_lt inside, found]

end ActiveList

namespace Updating

/-- The places of a batch whose tiles are updated, by a dispatch for so many of them. -/
def workers (pass : BatchPass) (active : ActiveList) (probesCount : Nat) : List Nat :=
  (List.range probesCount).filter fun batchProbe =>
    decide (batchProbe < Batch.probesLimit) && decide (pass.probesOffset + batchProbe < active.count)

variable [Scalar α] {volume : Volume α} {pass : BatchPass} {probes : Array PackedProbe}
  {active : ActiveList} {trace : Array (Vec4 α)} {batchProbe probesCount : Nat}

theorem mem_workers : batchProbe ∈ workers pass active probesCount ↔
    batchProbe < probesCount ∧ batchProbe < Batch.probesLimit ∧
      pass.probesOffset + batchProbe < active.count := by
  simp [workers]

variable {layer : Layer} {texel : Vec2 Nat} {atlas : Texels (Vec4 α)}

theorem update_idle (words : pass.probesOffset + batchProbe < 4294967296)
    (dispatched : batchProbe < probesCount) (idle : batchProbe ∉ workers pass active probesCount) :
    layer.update volume pass probes active trace batchProbe texel atlas = .ok atlas := by
  have sum : Word.add pass.probesOffset batchProbe = .ok (pass.probesOffset + batchProbe) :=
    Word.add_eq_ok.mpr ⟨rfl, words⟩
  have early : (decide (Batch.probesLimit ≤ batchProbe) ||
      decide (active.count ≤ pass.probesOffset + batchProbe)) = true := by
    simp only [mem_workers, dispatched, true_and, not_and_or, Nat.not_lt] at idle
    simpa using idle
  have target : target? volume pass probes active batchProbe = .ok none := by
    simp only [target?, sum, early, ok_bind, if_true, pure_eq_ok]
  cases layer with
  | irradiance => simp only [Layer.update, updateIrradiance, target, ok_bind, pure_eq_ok]
  | distance => simp only [Layer.update, updateDistance, target, ok_bind, pure_eq_ok]

theorem update_of_lt (words : pass.probesOffset + batchProbe < 4294967296)
    (dispatched : batchProbe < probesCount)
    (inside : texel.x < layer.resolution ∧ texel.y < layer.resolution) :
    layer.update volume pass probes active trace batchProbe texel atlas =
      if batchProbe ∈ workers pass active probesCount then do
        let index ← fetch active.entries (pass.probesOffset + batchProbe)
        revise layer volume pass probes trace batchProbe index texel atlas
      else .ok atlas := by
  split
  · rename_i busy
    obtain ⟨-, inBatch, listed⟩ := mem_workers.mp busy
    exact update_eq words inBatch listed inside
  · rename_i idle
    exact update_idle words dispatched idle

end Updating

namespace Batch

variable [Scalar α] {volume : Volume α} {probes : Array PackedProbe} {active : ActiveList}
  {s : Surroundings α} {cascade batch traceGroups : Nat} {resetBlend : Bool}

omit [Scalar α] in
theorem workers_of_groups (enough : Updating.raysRead volume ≤ traceGroups * traceGroupSize) :
    (∀ thread, thread ∈ Tracing.workers volume (pass cascade resetBlend batch) active
        (BatchDispatch.ofProbes traceGroups (sizeOf active.count batch)).trace ↔
      thread.1 < sizeOf active.count batch ∧ thread.2 < Updating.raysRead volume) ∧
    Updating.workers (pass cascade resetBlend batch) active
      (BatchDispatch.ofProbes traceGroups (sizeOf active.count batch)).update.x =
        List.range (sizeOf active.count batch) := by
  have fits : ∀ b < sizeOf active.count batch, b < probesLimit ∧
      batch * probesLimit + b < active.count := by
    intro b below
    simp only [sizeOf] at below
    omega
  by_cases some : 0 < sizeOf active.count batch
  · simp only [BatchDispatch.ofProbes, if_pos some]
    constructor
    · intro thread
      rw [Tracing.mem_workers]
      constructor
      · intro busy
        exact ⟨busy.1.1, busy.2.1⟩
      · intro inside
        exact ⟨⟨inside.1, inside.2.trans_le enough⟩, inside.2, (fits _ inside.1).2⟩
    · refine List.filter_eq_self.mpr fun b member => ?_
      rw [Bool.and_eq_true, decide_eq_true_eq, decide_eq_true_eq]
      exact fits b (List.mem_range.mp member)
  · have none : sizeOf active.count batch = 0 := Nat.eq_zero_of_not_pos some
    simp only [BatchDispatch.ofProbes, none, Nat.lt_irrefl, if_false]
    constructor
    · intro thread
      simp [Tracing.mem_workers]
    · rfl

section Statement

variable (volume : Volume α) (probes : Array PackedProbe) (active : ActiveList)
  (s : Surroundings α) (cascade : Nat) (resetBlend : Bool) (dispatch : Nat → BatchDispatch)

/-- Places of a batch, each with a ray, that are traced, by dispatches of given sizes. -/
def tracers (batch : Nat) : List (Nat × Nat) :=
  Tracing.workers volume (pass cascade resetBlend batch) active (dispatch batch).trace

def updaters (batch : Nat) : List Nat :=
  Updating.workers (pass cascade resetBlend batch) active (dispatch batch).update.x

/-- So many batches process as many places of an active list as they can, each of them once, within
the trace buffer of a cascade of `count` probes. -/
structure Covers (count capacity : Nat) : Prop where
  /-- What is traced: the other threads of a dispatch store nothing. -/
  traced : ∀ batch < capacity, ∀ thread ∈ Tracing.threads (dispatch batch).trace,
    ∀ trace : Array (Vec4 α),
      Tracing.traceProbe volume (pass cascade resetBlend batch) probes active s thread.2 thread.1
          trace =
        if thread ∈ tracers volume active cascade resetBlend dispatch batch then do
          let index ← fetch active.entries (batch * probesLimit + thread.1)
          let value ← Tracing.seen volume probes s cascade index thread.2
          store trace (← traceIndex thread.1 thread.2) value
        else .ok trace
  /-- What is updated: the other places of a dispatch leave the atlases as they are. -/
  updated : ∀ batch < capacity, ∀ b < (dispatch batch).update.x, ∀ (layer : Layer)
    (texel : Vec2 Nat), texel.x < layer.resolution ∧ texel.y < layer.resolution →
    ∀ (trace : Array (Vec4 α)) (atlas : Texels (Vec4 α)),
      layer.update volume (pass cascade resetBlend batch) probes active trace b texel atlas =
        if b ∈ updaters active cascade resetBlend dispatch batch then do
          let index ← fetch active.entries (batch * probesLimit + b)
          Updating.revise layer volume (pass cascade resetBlend batch) probes trace b index texel
            atlas
        else .ok atlas
  once : ∀ place < min active.count (capacity * probesLimit), ∃ batch b,
    batch < capacity ∧ place = batch * probesLimit + b ∧
      b ∈ updaters active cascade resetBlend dispatch batch ∧
      (∀ ray < volume.raysCount,
        (b, ray) ∈ tracers volume active cascade resetBlend dispatch batch) ∧
      ∀ batch' b', batch' < capacity → place = batch' * probesLimit + b' →
        (b' ∈ updaters active cascade resetBlend dispatch batch' ∨
          ∃ ray, (b', ray) ∈ tracers volume active cascade resetBlend dispatch batch') →
        batch' = batch ∧ b' = b
  only : ∀ batch < capacity,
    (∀ b ∈ updaters active cascade resetBlend dispatch batch,
      batch * probesLimit + b < min active.count (capacity * probesLimit)) ∧
    ∀ thread ∈ tracers volume active cascade resetBlend dispatch batch,
      batch * probesLimit + thread.1 < min active.count (capacity * probesLimit) ∧
        thread.2 < volume.raysCount
  distinct : ∀ batch < capacity, (updaters active cascade resetBlend dispatch batch).Nodup ∧
    (tracers volume active cascade resetBlend dispatch batch).Nodup
  inside : ∀ batch < capacity,
    ∀ thread ∈ tracers volume active cascade resetBlend dispatch batch, ∃ entry size,
      traceIndex thread.1 thread.2 = .ok entry ∧ traceSize count = .ok size ∧ entry < size
  /-- What an update reads of the trace buffer is what this batch has stored there for its probe. -/
  own : ∀ batch < capacity, ∀ b ∈ updaters active cascade resetBlend dispatch batch, ∃ index,
    fetch active.entries (batch * probesLimit + b) = .ok index ∧ ∀ trace traced,
      Tracing.run volume (pass cascade resetBlend batch) probes active s (dispatch batch).trace
        trace = .ok traced →
      (∀ ray < Updating.raysRead volume, ∃ entry value, traceIndex b ray = .ok entry ∧
        (∀ thread ∈ tracers volume active cascade resetBlend dispatch batch,
          traceIndex thread.1 thread.2 = .ok entry ↔ thread = (b, ray)) ∧
        (b, ray) ∈ tracers volume active cascade resetBlend dispatch batch ∧
        Tracing.seen volume probes s cascade index ray = .ok value ∧ traced[entry]? = some value) ∧
      ∃ rays, Tracing.row volume probes s cascade index = .ok rays ∧
        ∀ (layer : Layer) (texel : Vec2 Nat), layer.gather volume cascade traced b texel =
          layer.gather volume cascade rays 0 texel

end Statement

variable {count capacity : Nat}

omit [Scalar α] in
theorem ofProbes_places (traceGroups probes : Nat) :
    (BatchDispatch.ofProbes traceGroups probes).trace.y = probes ∧
      (BatchDispatch.ofProbes traceGroups probes).update.x = probes := by
  unfold BatchDispatch.ofProbes
  split
  · exact ⟨rfl, rfl⟩
  · rename_i none
    exact ⟨(Nat.eq_zero_of_not_pos none).symm, (Nat.eq_zero_of_not_pos none).symm⟩

theorem run_eq_ok {trace traced : Array (Vec4 α)} (words : active.count ≤ 4294963200)
    (small : batch * probesLimit < 4294967296) :
    Tracing.run volume (pass cascade resetBlend batch) probes active s
        (BatchDispatch.ofProbes traceGroups (sizeOf active.count batch)).trace trace = .ok traced ↔
      Edit.Made ((Tracing.workers volume (pass cascade resetBlend batch) active
        (BatchDispatch.ofProbes traceGroups (sizeOf active.count batch)).trace).map
          (Tracing.edit volume (pass cascade resetBlend batch) probes active s)) trace traced := by
  have most : sizeOf active.count batch ≤ probesLimit := Nat.min_le_right ..
  refine Tracing.run_eq_ok (by rw [(ofProbes_places _ _).1]; exact most) ?_
  rw [(ofProbes_places _ _).1]
  simp only [pass, sizeOf] at most ⊢
  omega

theorem own_of_run (volume : Volume α) (probes : Array PackedProbe) (s : Surroundings α)
    (cascade : Nat) (resetBlend : Bool) {b : Nat} (held : active.IsHeld) (words : active.count ≤ 4294963200)
    (enough : Updating.raysRead volume ≤ traceGroups * traceGroupSize)
    (inside : b < sizeOf active.count batch) : ∃ index,
    fetch active.entries (batch * probesLimit + b) = .ok index ∧ ∀ trace traced,
      Tracing.run volume (pass cascade resetBlend batch) probes active s
        (BatchDispatch.ofProbes traceGroups (sizeOf active.count batch)).trace trace = .ok traced →
      ∃ rays, Tracing.row volume probes s cascade index = .ok rays ∧
        ∀ ray < Updating.raysRead volume,
          fetch traced (b * raysLimit + ray) = fetch rays ray := by
  have place : batch * probesLimit + b < active.toList.length := by
    rw [held.length_toList]
    simp only [sizeOf] at inside
    omega
  have index := ActiveList.IsHeld.fetch_eq_ok (List.getElem?_eq_getElem place)
  refine ⟨_, index, fun trace traced ran => ?_⟩
  rw [held.length_toList] at place
  rw [run_eq_ok words (by omega)] at ran
  have rays := Tracing.fetch_traced ran index fun ray below =>
    ((workers_of_groups enough).1 _).mpr ⟨inside, below⟩
  exact rays

theorem covers_of_groups (most : count ≤ 65535) (listed : active.count ≤ count)
    (held : active.IsHeld) (read : Updating.raysRead volume = volume.raysCount)
    (enough : Updating.raysRead volume ≤ traceGroups * traceGroupSize) :
    Covers volume probes active s cascade resetBlend
      (fun batch => BatchDispatch.ofProbes traceGroups (sizeOf active.count batch)) count
      capacity := by
  have traced : ∀ batch thread, thread ∈ tracers volume active cascade resetBlend
      (fun batch => BatchDispatch.ofProbes traceGroups (sizeOf active.count batch)) batch ↔
        thread.1 < sizeOf active.count batch ∧ thread.2 < Updating.raysRead volume :=
    fun batch => (workers_of_groups enough).1
  have updated : ∀ batch, updaters active cascade resetBlend
      (fun batch => BatchDispatch.ofProbes traceGroups (sizeOf active.count batch)) batch =
        List.range (sizeOf active.count batch) :=
    fun batch => (workers_of_groups enough).2
  have entry : ∀ batch thread, thread ∈ tracers volume active cascade resetBlend
      (fun batch => BatchDispatch.ofProbes traceGroups (sizeOf active.count batch)) batch →
        thread.1 < probesLimit ∧ thread.2 < raysLimit ∧
          traceIndex thread.1 thread.2 = .ok (thread.1 * raysLimit + thread.2) := by
    intro batch thread member
    obtain ⟨inside, ray⟩ := (traced batch thread).mp member
    have first : thread.1 < probesLimit := inside.trans_le (Nat.min_le_right ..)
    have second : thread.2 < raysLimit := ray.trans_le Tracing.raysRead_le
    refine ⟨first, second, Tracing.traceIndex_eq_ok.mpr ⟨rfl, ?_⟩⟩
    simp only [probesLimit, raysLimit] at first second ⊢
    omega
  have words : ∀ batch, ∀ b < sizeOf active.count batch, batch * probesLimit + b < 4294967296 := by
    intro batch b inside
    simp only [sizeOf, probesLimit] at inside ⊢
    omega
  refine ⟨?_, ?_, ?_, ?_, ?_, ?_, ?_⟩
  · intro batch _ thread member trace
    have below := (Tracing.mem_threads.mp member).1
    rw [(ofProbes_places _ _).1] at below
    exact Tracing.traceProbe_of_mem member (words batch _ below)
  · intro batch _ b dispatched layer texel inside trace atlas
    have below := dispatched
    rw [(ofProbes_places _ _).2] at below
    exact Updating.update_of_lt (words batch b below) dispatched inside
  · intro place below
    have inBatch : place % probesLimit < sizeOf active.count (place / probesLimit) := by
      simp only [sizeOf, probesLimit] at below ⊢
      omega
    refine ⟨place / probesLimit, place % probesLimit, ?_, (Nat.div_add_mod' ..).symm, ?_, ?_, ?_⟩
    · simp only [probesLimit] at below ⊢
      omega
    · rw [updated]
      exact List.mem_range.mpr inBatch
    · exact fun ray below => (traced _ _).mpr ⟨inBatch, read.symm ▸ below⟩
    · intro batch' b' _ same busy
      have small : b' < sizeOf active.count batch' := by
        rcases busy with update | ⟨ray, trace⟩
        · rw [updated] at update
          exact List.mem_range.mp update
        · exact ((traced _ _).mp trace).1
      simp only [sizeOf, probesLimit] at small same ⊢
      omega
  · intro batch below
    have within : ∀ b < sizeOf active.count batch,
        batch * probesLimit + b < min active.count (capacity * probesLimit) := by
      intro b inside
      simp only [sizeOf, probesLimit] at inside ⊢
      omega
    constructor
    · intro b member
      rw [updated] at member
      exact within b (List.mem_range.mp member)
    · intro thread member
      obtain ⟨inside, ray⟩ := (traced batch thread).mp member
      exact ⟨within _ inside, read ▸ ray⟩
  · intro batch _
    refine ⟨?_, Tracing.nodup_threads.filter _⟩
    rw [updated]
    exact List.nodup_range
  · intro batch _ thread member
    obtain ⟨first, second, index⟩ := entry batch thread member
    have inside := ((traced batch thread).mp member).1
    refine ⟨_, min count probesLimit * raysLimit, index, Word.mul_eq_ok.mpr ⟨rfl, ?_⟩, ?_⟩
    · simp only [probesLimit, raysLimit]
      omega
    · simp only [sizeOf, probesLimit, raysLimit] at inside first second ⊢
      omega
  · intro batch _ b member
    rw [updated] at member
    have inside := List.mem_range.mp member
    obtain ⟨index, found, runs⟩ := own_of_run volume probes s cascade resetBlend held
      (by omega) enough inside
    refine ⟨index, found, fun trace after ran => ?_⟩
    obtain ⟨rays, row, same⟩ := runs trace after ran
    constructor
    · intro ray below
      have busy := (traced batch (b, ray)).mpr ⟨inside, below⟩
      obtain ⟨-, second, indexed⟩ := entry batch _ busy
      obtain ⟨value, sight, stored⟩ := (Tracing.row_eq_ok.mp row).2 ray below
      refine ⟨_, value, indexed, ?_, busy, sight, ?_⟩
      · intro thread worker
        obtain ⟨-, second', indexed'⟩ := entry batch thread worker
        rw [indexed', Except.ok.injEq]
        constructor
        · intro equal
          obtain ⟨one, two⟩ := mul_add_unique second' second equal
          exact Prod.ext one two
        · intro equal
          rw [equal]
      · rw [← fetch_eq_ok, same ray below, fetch_eq_ok, stored]
    · refine ⟨rays, row, fun layer texel => Updating.gather_congr fun ray below => ?_⟩
      have first : b < probesLimit := inside.trans_le (Nat.min_le_right ..)
      exact Updating.rayAt_congr first below (same ray below)

/-- The batches of a cascade, as many as are given, cover its active list. -/
theorem covers (most : count ≤ 65535) (listed : active.count ≤ count) (held : active.IsHeld)
    (rays : volume.raysCount ≤ raysLimit)
    {limit : Nat} (enough : needed count = .ok limit) (fewer : capacity ≤ limit) :
    min active.count (limit * probesLimit) = active.count ∧
    ∃ (words : List Nat) (dispatch : Nat → BatchDispatch), words.length = capacity * stride ∧
      (∀ args : Array Nat, capacity * stride ≤ args.size → ∃ after,
        BatchDispatch.storeAll active.count volume.raysCount capacity args = .ok after ∧
          after.toList = words ++ args.toList.drop (capacity * stride) ∧
          ∀ batch < capacity, BatchDispatch.load after batch = .ok (dispatch batch)) ∧
      Covers volume probes active s cascade resetBlend dispatch count capacity := by
  obtain ⟨rfl, -, -⟩ := Word.groups_eq_ok.mp enough
  have read : Updating.raysRead volume = volume.raysCount := Nat.min_eq_left rays
  have groups : Word.groups volume.raysCount traceGroupSize =
      .ok ((volume.raysCount + traceGroupSize - 1) / traceGroupSize) := by
    simp only [raysLimit] at rays
    refine Word.groups_eq_ok.mpr ⟨rfl, ?_, ?_⟩ <;> simp only [traceGroupSize] <;> omega
  have fit : Updating.raysRead volume ≤
      (volume.raysCount + traceGroupSize - 1) / traceGroupSize * traceGroupSize := by
    rw [read]
    simp only [traceGroupSize]
    omega
  simp only [probesLimit] at fewer
  have few : capacity * probesLimit ≤ 4294967296 := by
    simp only [probesLimit]
    omega
  generalize (volume.raysCount + traceGroupSize - 1) / traceGroupSize = traceGroups at groups fit
  refine ⟨by simp only [probesLimit]; omega, BatchDispatch.sizes active.count traceGroups capacity,
    fun batch => BatchDispatch.ofProbes traceGroups (sizeOf active.count batch),
    BatchDispatch.length_sizes, ?_, ?_⟩
  · intro args room
    obtain ⟨after, ran⟩ :
        ∃ after, BatchDispatch.storeAll active.count volume.raysCount capacity args = .ok after :=
      BatchDispatch.storeAll_ends groups few room
    have stored := BatchDispatch.storeAll_eq_ok groups few ran
    exact ⟨after, ran, stored, fun batch => BatchDispatch.load_eq few stored⟩
  · exact covers_of_groups most listed held read fit

theorem covers_three :
    ∃ dispatch, Covers .octet #[] (.ofList [5, 2, 7])
      ⟨Shape.field [] 0.1, fun _ => .ok .zero, fun _ _ _ => .ok .zero⟩ 0 false dispatch 8 1 := by
  rcases @covers Float32 _ .octet #[] (.ofList [5, 2, 7])
    ⟨Shape.field [] 0.1, fun _ => .ok .zero, fun _ _ _ => .ok .zero⟩ 0 false 8 1 (by decide)
    (by decide) (by decide) (by decide) 1 rfl le_rfl with ⟨-, -, dispatch, -, -, all⟩
  exact ⟨dispatch, all⟩

end Batch

end IrradianceField
