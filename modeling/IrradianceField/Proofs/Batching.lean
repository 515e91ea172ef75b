import IrradianceField.Proofs.Edits
import IrradianceField.Probe.Batch

/-!
Batching: the sizes of the dispatches as edits of their buffer, and the places of the active list
that belong to each batch.
-/

namespace IrradianceField

namespace Batch

def sizeOf (active batch : Nat) : Nat := min (active - batch * probesLimit) probesLimit

theorem probesOf_eq_ok {active batch probes : Nat} :
    probesOf active batch = .ok probes ↔
      probes = sizeOf active batch ∧ batch * probesLimit < 4294967296 := by
  simp only [probesOf, bind_eq_ok, Word.mul_eq_ok, pure_eq_ok, Except.ok.injEq, sizeOf]
  constructor
  · intro ran
    obtain ⟨_, ⟨rfl, small⟩, rfl⟩ := ran
    exact ⟨rfl, small⟩
  · intro ran
    obtain ⟨rfl, small⟩ := ran
    exact ⟨_, ⟨rfl, small⟩, rfl⟩

theorem flatMap_slices {β : Type} (l : List β) (capacity : Nat) :
    ((List.range capacity).flatMap fun batch =>
      (l.drop (batch * probesLimit)).take probesLimit) = l.take (capacity * probesLimit) := by
  induction capacity with
  | zero => simp
  | succ capacity ih =>
      rw [List.range_succ, List.flatMap_append, ih, List.flatMap_singleton, Nat.succ_mul,
        List.take_add]

theorem length_slice {β : Type} (l : List β) (batch : Nat) :
    ((l.drop (batch * probesLimit)).take probesLimit).length = sizeOf l.length batch := by
  rw [List.length_take, List.length_drop, sizeOf, Nat.min_comm]

end Batch

namespace BatchDispatch

def sizes (active traceGroups capacity : Nat) : List Nat :=
  (List.range capacity).flatMap fun batch =>
    (ofProbes traceGroups (Batch.sizeOf active batch)).words

variable {active traceGroups capacity rays batch : Nat} {args after : Array Nat}

theorem sizes_succ : sizes active traceGroups (capacity + 1) =
    sizes active traceGroups capacity ++
      (ofProbes traceGroups (Batch.sizeOf active capacity)).words := by
  rw [sizes, List.range_succ, List.flatMap_append, List.flatMap_singleton, sizes]

theorem length_sizes : (sizes active traceGroups capacity).length = capacity * Batch.stride := by
  induction capacity with
  | zero => rfl
  | succ capacity ih =>
      rw [sizes_succ, List.length_append, ih, Nat.succ_mul]
      rfl

theorem sizes_split (present : batch < capacity) : ∃ rest, sizes active traceGroups capacity =
    sizes active traceGroups batch ++
      (ofProbes traceGroups (Batch.sizeOf active batch)).words ++ rest := by
  induction capacity with
  | zero => exact absurd present (Nat.not_lt_zero batch)
  | succ capacity ih =>
      rcases Nat.lt_succ_iff_lt_or_eq.mp present with earlier | rfl
      · obtain ⟨rest, split⟩ := ih earlier
        exact ⟨rest ++ (ofProbes traceGroups (Batch.sizeOf active capacity)).words, by
          rw [sizes_succ, split, List.append_assoc]⟩
      · exact ⟨[], by rw [sizes_succ, List.append_nil]⟩

theorem storeWords_performs (base : Nat) (words : List Nat) :
    Edit.Performs id (storeWords · base words)
      (words.zipIdx.map fun (word, i) => ⟨base + i, fun _ => .ok word⟩) := by
  rw [← List.flatMap_singleton' (words.zipIdx.map _), List.flatMap_map]
  refine Edit.Performs.foldlM fun entry _ => ?_
  intro a t
  rw [Edit.foldlM_apply_singleton]
  simp only [id_eq, exists_eq_right', Edit.apply_eq_ok, store_eq_ok, Except.ok.injEq]
  constructor
  · intro ran
    obtain ⟨inside, rfl⟩ := ran
    exact ⟨a[_], _, Array.getElem?_eq_getElem inside, rfl, rfl⟩
  · intro ran
    obtain ⟨old, _, held, rfl, rfl⟩ := ran
    exact ⟨(Array.getElem?_eq_some_iff.mp held).1, rfl⟩

theorem flatMap_edits :
    ((List.range capacity).flatMap fun batch =>
      (ofProbes traceGroups (Batch.sizeOf active batch)).words.zipIdx.map fun (word, i) =>
        (⟨batch * Batch.stride + i, fun _ => .ok word⟩ : Edit Nat)) =
      Edit.filling (sizes active traceGroups capacity) := by
  induction capacity with
  | zero => rfl
  | succ capacity ih =>
      rw [List.range_succ, List.flatMap_append, ih, List.flatMap_singleton, Edit.filling,
        Edit.filling, sizes_succ, List.zipIdx_append, List.map_append, length_sizes, Nat.zero_add]
      rfl

theorem storeAll_performs (groups : Word.groups rays Batch.traceGroupSize = .ok traceGroups)
    (few : capacity * Batch.probesLimit ≤ 4294967296) :
    Edit.Performs id (storeAll active rays capacity)
      (Edit.filling (sizes active traceGroups capacity)) := by
  intro a t
  rw [storeAll, groups, ok_bind, ← flatMap_edits]
  refine Edit.Performs.foldlM (fun batch member => ?_) a t
  have below := List.mem_range.mp member
  simp only [Batch.probesLimit] at few
  have probes : Batch.probesOf active batch = .ok (Batch.sizeOf active batch) :=
    Batch.probesOf_eq_ok.mpr ⟨rfl, by simp only [Batch.probesLimit]; omega⟩
  have base : Word.mul batch Batch.stride = .ok (batch * Batch.stride) :=
    Word.mul_eq_ok.mpr ⟨rfl, by simp only [Batch.stride]; omega⟩
  intro a t
  simp only [ofBatch, probes, base, ok_bind, pure_eq_ok]
  exact storeWords_performs _ _ a t

theorem storeAll_ends (groups : Word.groups rays Batch.traceGroupSize = .ok traceGroups)
    (few : capacity * Batch.probesLimit ≤ 4294967296)
    (room : capacity * Batch.stride ≤ args.size) :
    ∃ after, storeAll active rays capacity args = .ok after := by
  obtain ⟨after, ran⟩ : ∃ after,
      (Edit.filling (sizes active traceGroups capacity)).foldlM Edit.apply args = .ok after :=
    Edit.filling_ends (length_sizes ▸ room)
  exact ⟨after, (storeAll_performs groups few args after).mpr ⟨after, ran, rfl⟩⟩

theorem storeAll_eq_ok (groups : Word.groups rays Batch.traceGroupSize = .ok traceGroups)
    (few : capacity * Batch.probesLimit ≤ 4294967296)
    (ran : storeAll active rays capacity args = .ok after) :
    after.toList = sizes active traceGroups capacity ++
      args.toList.drop (capacity * Batch.stride) := by
  obtain ⟨_, ran, rfl⟩ := (storeAll_performs groups few args after).mp ran
  rw [Edit.filling_eq_ok ran, length_sizes]

theorem load_eq {rest : List Nat} (few : capacity * Batch.probesLimit ≤ 4294967296)
    (stored : after.toList = sizes active traceGroups capacity ++ rest) (present : batch < capacity) :
    load after batch = .ok (ofProbes traceGroups (Batch.sizeOf active batch)) := by
  obtain ⟨others, split⟩ : ∃ others, sizes active traceGroups capacity =
      sizes active traceGroups batch ++
        (ofProbes traceGroups (Batch.sizeOf active batch)).words ++ others := sizes_split present
  have word : ∀ i value, (ofProbes traceGroups (Batch.sizeOf active batch)).words[i]? = some value →
      fetch after (batch * Batch.stride + i) = .ok value := by
    intro i value found
    have inside := (List.getElem?_eq_some_iff.mp found).1
    rw [fetch_eq_ok, ← Array.getElem?_toList, stored, split, List.append_assoc, List.append_assoc,
      List.getElem?_append_right (by rw [length_sizes]; omega), length_sizes, Nat.add_sub_cancel_left,
      List.getElem?_append_left inside, found]
  simp only [Batch.probesLimit] at few
  have base : Word.mul batch Batch.stride = .ok (batch * Batch.stride) :=
    Word.mul_eq_ok.mpr ⟨rfl, by simp only [Batch.stride]; omega⟩
  simp only [load, base, ok_bind, word 0 _ rfl, word 1 _ rfl, word 2 _ rfl, word 3 _ rfl,
    word 4 _ rfl, word 5 _ rfl, pure_eq_ok]

end BatchDispatch

end IrradianceField
