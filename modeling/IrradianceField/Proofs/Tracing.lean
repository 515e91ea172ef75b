import IrradianceField.Proofs.Addressing
import IrradianceField.Proofs.Edits
import IrradianceField.Radiance.Updating

/-!
Tracing as edits of the trace buffer: which threads of a dispatch store something, where, and that
it is what a ray of their own probe sees.
-/

namespace IrradianceField.Tracing

open Updating (raysRead)

variable {α : Type}

def threads (groups : Vec3 Nat) : List (Nat × Nat) :=
  (List.range groups.y).flatMap fun batchProbe =>
    (List.range (groups.x * Batch.traceGroupSize)).map fun ray => (batchProbe, ray)

def works (volume : Volume α) (pass : BatchPass) (active : ActiveList) (thread : Nat × Nat) : Bool :=
  decide (thread.2 < raysRead volume) && decide (pass.probesOffset + thread.1 < active.count)

def workers (volume : Volume α) (pass : BatchPass) (active : ActiveList) (groups : Vec3 Nat) :
    List (Nat × Nat) :=
  (threads groups).filter (works volume pass active)

variable {volume : Volume α} {pass : BatchPass} {active : ActiveList} {groups : Vec3 Nat}
  {thread : Nat × Nat}

theorem works_iff :
    works volume pass active thread = true ↔
      thread.2 < raysRead volume ∧ pass.probesOffset + thread.1 < active.count := by
  simp only [works, Bool.and_eq_true, decide_eq_true_eq]

theorem mem_threads :
    thread ∈ threads groups ↔
      thread.1 < groups.y ∧ thread.2 < groups.x * Batch.traceGroupSize := by
  obtain ⟨batchProbe, ray⟩ := thread
  simp [threads]

theorem nodup_threads : (threads groups).Nodup := by
  refine List.nodup_flatMap.mpr ⟨fun batchProbe _ => ?_, ?_⟩
  · exact List.nodup_range.map fun _ _ same => (Prod.mk.inj same).2
  · refine List.nodup_range.imp fun different thread member member' => ?_
    obtain ⟨_, -, rfl⟩ := List.mem_map.mp member
    obtain ⟨_, -, same⟩ := List.mem_map.mp member'
    exact different (Prod.mk.inj same).1.symm

theorem mem_workers :
    thread ∈ workers volume pass active groups ↔
      (thread.1 < groups.y ∧ thread.2 < groups.x * Batch.traceGroupSize) ∧
        thread.2 < raysRead volume ∧ pass.probesOffset + thread.1 < active.count := by
  rw [workers, List.mem_filter, mem_threads, works_iff]

theorem raysRead_le : raysRead volume ≤ Batch.raysLimit := Nat.min_le_right ..

theorem traceIndex_eq_ok {batchProbe ray place : Nat} :
    Batch.traceIndex batchProbe ray = .ok place ↔ place = batchProbe * Batch.raysLimit + ray ∧
      batchProbe * Batch.raysLimit + ray < 4294967296 := by
  simp only [Batch.traceIndex, bind_eq_ok, Word.mul_eq_ok, Word.add_eq_ok]
  constructor
  · rintro ⟨_, ⟨rfl, -⟩, rfl, small⟩
    exact ⟨rfl, small⟩
  · rintro ⟨rfl, small⟩
    exact ⟨_, ⟨rfl, by omega⟩, rfl, small⟩

variable [Scalar α]

def seen (volume : Volume α) (probes : Array PackedProbe) (s : Surroundings α)
    (cascade index ray : Nat) : Except Fault (Vec4 α) := do
  let probe ← volume.readProbe probes cascade index
  let origin ← volume.relocatedPosition cascade index probe
  traceRay s ⟨origin, Ray.probeDirection ray volume.raysCount volume.raysRotation⟩
    volume.rayMaxDistance

def row (volume : Volume α) (probes : Array PackedProbe) (s : Surroundings α)
    (cascade index : Nat) : Except Fault (Array (Vec4 α)) := do
  return (← (List.range (raysRead volume)).mapM (seen volume probes s cascade index)).toArray

def edit (volume : Volume α) (pass : BatchPass) (probes : Array PackedProbe) (active : ActiveList)
    (s : Surroundings α) (thread : Nat × Nat) : Edit (Vec4 α) :=
  ⟨thread.1 * Batch.raysLimit + thread.2, fun _ => do
    seen volume probes s pass.cascade (← fetch active.entries (pass.probesOffset + thread.1))
      thread.2⟩

variable {probes : Array PackedProbe} {s : Surroundings α} {trace traced : Array (Vec4 α)}

theorem distinct_edits :
    (((workers volume pass active groups).map (edit volume pass probes active s)).map
      Edit.place).Nodup := by
  rw [List.map_map]
  refine List.Nodup.map_on ?_ (nodup_threads.filter _)
  rintro ⟨b, ray⟩ member ⟨b', ray'⟩ member' same
  have small := (mem_workers.mp member).2.1.trans_le raysRead_le
  have small' := (mem_workers.mp member').2.1.trans_le raysRead_le
  obtain ⟨rfl, rfl⟩ := mul_add_unique small small' same
  rfl

theorem traceProbe_eq (words : pass.probesOffset + thread.1 < 4294967296)
    (busy : works volume pass active thread = true) :
    traceProbe volume pass probes active s thread.2 thread.1 trace = (do
      let index ← fetch active.entries (pass.probesOffset + thread.1)
      let result ← seen volume probes s pass.cascade index thread.2
      store trace (← Batch.traceIndex thread.1 thread.2) result) := by
  have place : Word.add pass.probesOffset thread.1 = .ok (pass.probesOffset + thread.1) :=
    Word.add_eq_ok.mpr ⟨rfl, words⟩
  obtain ⟨ray, listed⟩ := works_iff.mp busy
  simp only [raysRead] at ray
  simp only [traceProbe, place, ok_bind, if_neg (Nat.not_le.mpr ray),
    if_neg (Nat.not_le.mpr listed), seen, bind_assoc]

theorem traceProbe_idle (words : pass.probesOffset + thread.1 < 4294967296)
    (idle : ¬works volume pass active thread = true) :
    traceProbe volume pass probes active s thread.2 thread.1 trace = .ok trace := by
  have place : Word.add pass.probesOffset thread.1 = .ok (pass.probesOffset + thread.1) :=
    Word.add_eq_ok.mpr ⟨rfl, words⟩
  simp only [works_iff, not_and_or, Nat.not_lt, raysRead] at idle
  simp only [traceProbe, place, ok_bind, pure_eq_ok]
  rcases idle with past | past
  · rw [if_pos past]
  · rw [if_pos past, ite_self]

theorem traceProbe_of_mem (member : thread ∈ threads groups)
    (words : pass.probesOffset + thread.1 < 4294967296) :
    traceProbe volume pass probes active s thread.2 thread.1 trace =
      if thread ∈ workers volume pass active groups then do
        let index ← fetch active.entries (pass.probesOffset + thread.1)
        let value ← seen volume probes s pass.cascade index thread.2
        store trace (← Batch.traceIndex thread.1 thread.2) value
      else .ok trace := by
  simp only [workers, List.mem_filter, member, true_and]
  split
  · rename_i busy
    exact traceProbe_eq words busy
  · rename_i idle
    exact traceProbe_idle words idle

theorem traceProbe_performs (inBatch : thread.1 < Batch.probesLimit)
    (words : pass.probesOffset + thread.1 < 4294967296) :
    Edit.Performs id (traceProbe volume pass probes active s thread.2 thread.1)
      (if works volume pass active thread then [edit volume pass probes active s thread]
        else []) := by
  split
  · rename_i busy
    have index : Batch.traceIndex thread.1 thread.2 =
        .ok (thread.1 * Batch.raysLimit + thread.2) := by
      have below := (works_iff.mp busy).1.trans_le raysRead_le
      simp only [Batch.raysLimit, Batch.probesLimit] at below inBatch
      refine traceIndex_eq_ok.mpr ⟨rfl, ?_⟩
      simp only [Batch.raysLimit]
      omega
    intro a t
    rw [Edit.foldlM_apply_singleton, id_eq, traceProbe_eq words busy]
    simp only [id_eq, exists_eq_right', Edit.apply_eq_ok, edit, bind_eq_ok, index, store_eq_ok,
      Except.ok.injEq]
    constructor
    · intro ran
      obtain ⟨probe, listed, value, sight, _, rfl, inside, rfl⟩ := ran
      exact ⟨a[_], value, Array.getElem?_eq_getElem inside, ⟨probe, listed, sight⟩, rfl⟩
    · intro ran
      obtain ⟨old, value, held, ⟨probe, listed, sight⟩, rfl⟩ := ran
      exact ⟨probe, listed, value, sight, _, rfl, (Array.getElem?_eq_some_iff.mp held).1, rfl⟩
  · rename_i idle
    exact Edit.performs_nil fun a => traceProbe_idle words idle

theorem run_eq_ok (inBatch : groups.y ≤ Batch.probesLimit)
    (words : pass.probesOffset + groups.y ≤ 4294967296) :
    run volume pass probes active s groups trace = .ok traced ↔
      Edit.Made ((workers volume pass active groups).map (edit volume pass probes active s))
        trace traced := by
  have all : (threads groups).foldlM (fun trace thread =>
      traceProbe volume pass probes active s thread.2 thread.1 trace) trace =
        run volume pass probes active s groups trace := by
    rw [threads, foldlM_flatMap, run]
    exact congrArg (fun f => (List.range groups.y).foldlM f trace)
      (funext fun _ => funext fun _ => List.foldlM_map)
  have performs : Edit.Performs id
      ((threads groups).foldlM fun trace thread =>
        traceProbe volume pass probes active s thread.2 thread.1 trace)
      ((threads groups).flatMap fun thread => if works volume pass active thread then
        [edit volume pass probes active s thread] else []) := by
    refine Edit.Performs.foldlM fun thread member => ?_
    have inside := (mem_threads.mp member).1
    exact traceProbe_performs (by omega) (by omega)
  rw [← all, ← Edit.run_eq_ok distinct_edits, workers, ← Edit.flatMap_ite]
  exact (performs trace traced).trans (by simp)

theorem row_eq_ok {cascade index : Nat} {rays : Array (Vec4 α)} :
    row volume probes s cascade index = .ok rays ↔ rays.size = raysRead volume ∧
      ∀ ray < raysRead volume, ∃ value,
        seen volume probes s cascade index ray = .ok value ∧ rays[ray]? = some value := by
  simp only [row, bind_eq_ok, mapM_range_eq_ok, pure_eq_ok, Except.ok.injEq]
  constructor
  · intro ran
    obtain ⟨results, all, rfl⟩ := ran
    simpa using all
  · intro all
    exact ⟨rays.toList, by simpa using all, by simp⟩

theorem fetch_traced {batchProbe index : Nat}
    (made : Edit.Made ((workers volume pass active groups).map (edit volume pass probes active s))
      trace traced)
    (held : fetch active.entries (pass.probesOffset + batchProbe) = .ok index)
    (busy : ∀ ray < raysRead volume, (batchProbe, ray) ∈ workers volume pass active groups) :
    ∃ rays, row volume probes s pass.cascade index = .ok rays ∧ ∀ ray < raysRead volume,
      fetch traced (batchProbe * Batch.raysLimit + ray) = fetch rays ray := by
  have stored : ∀ ray < raysRead volume, ∃ value,
      seen volume probes s pass.cascade index ray = .ok value ∧
        traced[batchProbe * Batch.raysLimit + ray]? = some value := by
    intro ray inside
    obtain ⟨_, value, -, sight, after⟩ := made.changed _ (List.mem_map_of_mem (busy ray inside))
    simp only [edit, held, ok_bind] at sight
    exact ⟨value, sight, after⟩
  choose! values sights entries using stored
  let rays := ((List.range (raysRead volume)).map values).toArray
  have listed : ∀ ray < raysRead volume, rays[ray]? = some (values ray) := by
    intro ray inside
    simp [rays, inside]
  refine ⟨rays, row_eq_ok.mpr ⟨by simp [rays], fun ray inside =>
    ⟨values ray, sights ray inside, listed ray inside⟩⟩, fun ray inside => ?_⟩
  rw [fetch_eq_ok.mpr (entries ray inside), fetch_eq_ok.mpr (listed ray inside)]

end IrradianceField.Tracing
