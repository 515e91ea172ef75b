import IrradianceField.Proofs.Collecting

/-!
The grid of chunks: each chunk is the business of one thread of one group, and has a place of its
own in memory.
-/

namespace IrradianceField.Culling

def Inside (side : Nat) (chunk : Vec3 Nat) : Prop :=
  chunk.x < side ∧ chunk.y < side ∧ chunk.z < side

instance {side : Nat} {chunk : Vec3 Nat} : Decidable (Inside side chunk) :=
  inferInstanceAs (Decidable (_ ∧ _ ∧ _))

/-- The group whose block a chunk belongs to, and the thread of the group that fills it. -/
def groupOf (chunk : Vec3 Nat) : Vec3 Nat := chunk.map (· / blockSide)
def threadOf (chunk : Vec3 Nat) : Nat :=
  (chunk.z % blockSide * blockSide + chunk.y % blockSide) * blockSide + chunk.x % blockSide

def placeOf (side : Nat) (chunk : Vec3 Nat) : Nat := (chunk.z * side + chunk.y) * side + chunk.x

def coordsAt (side i : Nat) : Vec3 Nat := ⟨i % side, i / side % side, i / (side * side)⟩

variable {side thread i : Nat} {chunk other group : Vec3 Nat}

section Places

theorem placeOf_inj (inside : Inside side chunk) (inside' : Inside side other)
    (same : placeOf side chunk = placeOf side other) : chunk = other := by
  obtain ⟨x, y, z⟩ := chunk
  obtain ⟨x', y', z'⟩ := other
  obtain ⟨rows, rfl⟩ := mul_add_unique inside.1 inside'.1 same
  obtain ⟨rfl, rfl⟩ := mul_add_unique inside.2.1 inside'.2.1 rows
  rfl

theorem placeOf_lt (inside : Inside side chunk) : placeOf side chunk < side * side * side := by
  obtain ⟨hx, hy, hz⟩ := inside
  calc (chunk.z * side + chunk.y) * side + chunk.x
      < (chunk.z * side + chunk.y) * side + side := by simpa using hx
    _ = (chunk.z * side + chunk.y + 1) * side := by ring
    _ ≤ side * side * side := by
      apply Nat.mul_le_mul_right
      calc chunk.z * side + chunk.y + 1 ≤ chunk.z * side + side := by simpa using hy
        _ = (chunk.z + 1) * side := by ring
        _ ≤ side * side := Nat.mul_le_mul_right side hz

theorem coordsAt_placeOf (inside : Inside side chunk) :
    coordsAt side (placeOf side chunk) = chunk := by
  obtain ⟨x, y, z⟩ := chunk
  obtain ⟨hx, hy, -⟩ := inside
  have positive : 0 < side := Nat.zero_lt_of_lt hx
  have row : ((z * side + y) * side + x) / side = z * side + y := by
    rw [Nat.add_comm, Nat.add_mul_div_right _ _ positive, Nat.div_eq_of_lt hx, Nat.zero_add]
  have layer : (z * side + y) / side = z := by
    rw [Nat.add_comm, Nat.add_mul_div_right _ _ positive, Nat.div_eq_of_lt hy, Nat.zero_add]
  rw [coordsAt, placeOf, ← Nat.div_div_eq_div_mul, row, layer, Nat.add_comm _ x,
    Nat.add_mul_mod_self_right, Nat.mod_eq_of_lt hx, Nat.add_comm _ y, Nat.add_mul_mod_self_right,
    Nat.mod_eq_of_lt hy]

theorem placeOf_coordsAt (side i : Nat) : placeOf side (coordsAt side i) = i := by
  simp only [placeOf, coordsAt]
  rw [← Nat.div_div_eq_div_mul, Nat.div_add_mod', Nat.div_add_mod']

theorem inside_coordsAt (below : i < side * side * side) : Inside side (coordsAt side i) := by
  have positive : 0 < side := Nat.pos_of_ne_zero fun zero => by simp [zero] at below
  refine ⟨Nat.mod_lt _ positive, Nat.mod_lt _ positive, ?_⟩
  exact Nat.div_lt_of_lt_mul below

end Places

section Threads

theorem threadOf_lt (chunk : Vec3 Nat) : threadOf chunk < groupThreads := by
  simp only [threadOf, groupThreads, blockSide]
  omega

theorem threadChunk_eq (group : Vec3 Nat) (thread : Nat) : threadChunk group thread =
    ⟨group.x * 4 + thread % 4, group.y * 4 + thread / 4 % 4, group.z * 4 + thread / 16⟩ := rfl

@[simp] theorem threadChunk_groupOf (chunk : Vec3 Nat) :
    threadChunk (groupOf chunk) (threadOf chunk) = chunk := by
  obtain ⟨x, y, z⟩ := chunk
  simp only [threadChunk_eq, groupOf, threadOf, Vec3.map, blockSide, Vec3.mk.injEq]
  omega

theorem groupOf_threadChunk (group : Vec3 Nat) (below : thread < groupThreads) :
    groupOf (threadChunk group thread) = group := by
  obtain ⟨x, y, z⟩ := group
  simp only [groupThreads, blockSide] at below
  simp only [threadChunk_eq, groupOf, Vec3.map, blockSide, Vec3.mk.injEq]
  omega

theorem threadOf_threadChunk (group : Vec3 Nat) (below : thread < groupThreads) :
    threadOf (threadChunk group thread) = thread := by
  simp only [groupThreads, blockSide] at below
  simp only [threadChunk_eq, threadOf, blockSide]
  omega

end Threads

section Blocks

variable (whole : blockSide ∣ side)
include whole

theorem inside_groupOf : Inside (side / blockSide) (groupOf chunk) ↔ Inside side chunk := by
  obtain ⟨blocks, rfl⟩ := whole
  simp only [Inside, groupOf, Vec3.map, blockSide]
  omega

theorem groups_eq : groups side = (List.range (side / blockSide * (side / blockSide) *
    (side / blockSide))).map (coordsAt (side / blockSide)) := by
  have rounded : (side + (blockSide - 1)) / blockSide = side / blockSide := by
    obtain ⟨blocks, rfl⟩ := whole
    simp only [blockSide]
    omega
  simp only [groups, rounded]
  rfl

theorem mem_groups : group ∈ groups side ↔ Inside (side / blockSide) group := by
  rw [groups_eq whole, List.mem_map]
  constructor
  · rintro ⟨i, below, rfl⟩
    exact inside_coordsAt (List.mem_range.mp below)
  · intro inside
    exact ⟨_, List.mem_range.mpr (placeOf_lt inside), coordsAt_placeOf inside⟩

theorem nodup_groups : (groups side).Nodup := by
  rw [groups_eq whole]
  refine List.nodup_range.map fun i j same => ?_
  rw [← placeOf_coordsAt (side / blockSide) i, same, placeOf_coordsAt]

end Blocks

theorem chunkAddress_of_lt {α : Type} {a : AtlasConstants α}
    (inside : Inside a.chunkResolution chunk)
    (words : a.chunkResolution * a.chunkResolution * a.chunkResolution < 4294967296) :
    a.chunkAddress chunk = .ok (placeOf a.chunkResolution chunk) := by
  have upper := placeOf_lt inside
  have split : placeOf a.chunkResolution chunk = chunk.z * a.chunkResolution * a.chunkResolution +
      chunk.y * a.chunkResolution + chunk.x := by
    rw [placeOf, Nat.add_mul]
  have one : chunk.z * a.chunkResolution ≤
      chunk.z * a.chunkResolution * a.chunkResolution :=
    Nat.le_mul_of_pos_right _ (Nat.zero_lt_of_lt inside.1)
  rw [AtlasConstants.chunkAddress]
  simp only [Word.mul_eq_ok.mpr ⟨rfl, show chunk.z * a.chunkResolution < 4294967296 by omega⟩,
    Word.mul_eq_ok.mpr
      ⟨rfl, show chunk.z * a.chunkResolution * a.chunkResolution < 4294967296 by omega⟩,
    Word.mul_eq_ok.mpr ⟨rfl, show chunk.y * a.chunkResolution < 4294967296 by omega⟩, ok_bind,
    Word.add_eq_ok.mpr ⟨rfl, show chunk.z * a.chunkResolution * a.chunkResolution +
      chunk.y * a.chunkResolution < 4294967296 by omega⟩]
  exact Word.add_eq_ok.mpr ⟨split, by omega⟩

/-- A chunk has an address if its grid is no larger than the largest one of whole blocks whose chunks
a word can count. -/
theorem chunkAddress_of_inside {α : Type} {a : AtlasConstants α}
    (inside : Inside a.chunkResolution chunk) (small : a.chunkResolution ≤ 1624) :
    a.chunkAddress chunk = .ok (placeOf a.chunkResolution chunk) := by
  apply chunkAddress_of_lt inside
  calc
    a.chunkResolution * a.chunkResolution * a.chunkResolution ≤ 1624 * 1624 * 1624 :=
      Nat.mul_le_mul (Nat.mul_le_mul small small) small
    _ < 4294967296 := by norm_num

theorem lowest_of_inside (inside : Inside (side / blockSide) group) (small : side ≤ 1624) :
    group.mapM (Word.mul · blockSide) = .ok (group.map (· * blockSide)) := by
  obtain ⟨hx, hy, hz⟩ := inside
  simp only [blockSide] at hx hy hz
  refine Vec3.mapM_eq_ok.mpr ⟨?_, ?_, ?_⟩ <;>
    exact Word.mul_eq_ok.mpr ⟨rfl, by simp only [blockSide]; omega⟩

section Orders

variable {s : Schedule}

def Schedule.chunks (s : Schedule) : List (Vec3 Nat) :=
  s.fills.map fun thread => threadChunk thread.1 thread.2

theorem mem_fills (complete : s.IsComplete side) (whole : blockSide ∣ side) :
    (group, thread) ∈ s.fills ↔ Inside (side / blockSide) group ∧ thread < groupThreads := by
  rw [complete.fills.mem_iff, List.mem_product, mem_groups whole, List.mem_range]

theorem mem_chunks (complete : s.IsComplete side) (whole : blockSide ∣ side) :
    chunk ∈ s.chunks ↔ Inside side chunk := by
  rw [Schedule.chunks, List.mem_map]
  constructor
  · rintro ⟨⟨group, thread⟩, member, rfl⟩
    obtain ⟨inside, below⟩ := (mem_fills complete whole).mp member
    rw [← inside_groupOf whole, groupOf_threadChunk group below]
    exact inside
  · intro inside
    refine ⟨(groupOf chunk, threadOf chunk), ?_, threadChunk_groupOf chunk⟩
    exact (mem_fills complete whole).mpr ⟨(inside_groupOf whole).mpr inside, threadOf_lt chunk⟩

theorem nodup_chunks (complete : s.IsComplete side) (whole : blockSide ∣ side) :
    s.chunks.Nodup := by
  have once : s.fills.Nodup := complete.fills.nodup_iff.mpr
    ((nodup_groups whole).product List.nodup_range)
  refine List.Nodup.map_on ?_ once
  rintro ⟨group, thread⟩ member ⟨group', thread'⟩ member' same
  dsimp only at same
  have below := ((mem_fills complete whole).mp member).2
  have below' := ((mem_fills complete whole).mp member').2
  rw [Prod.mk.injEq]
  constructor
  · rw [← groupOf_threadChunk group below, same, groupOf_threadChunk group' below']
  · rw [← threadOf_threadChunk group below, same, threadOf_threadChunk group' below']

end Orders

end IrradianceField.Culling
