import IrradianceField.Atlas.Sampling
import IrradianceField.Proofs.Allotting
import IrradianceField.Proofs.ChunkGrid
import IrradianceField.Scalar.Rational

/-!
Culling: whatever the order of the groups and of their threads, every chunk gets a list of its own
with the objects of its block that touch it, unless there are none or the list does not fit.
-/

namespace IrradianceField

def AtlasSampler.addLight {α : Type} [Scalar α] (s : AtlasSampler α) (pos normal : Vec3 α)
    (threshold : α) (total : Option (Vec4 α)) (address : Nat) : Except Fault (Option (Vec4 α)) := do
  let object ← ObjectRecord.read s.objects address
  if !isNear object pos threshold then return total
  let light ← s.sampleObject object address pos normal threshold
  return some (total.getD .zero + light)

namespace Culling

variable {α : Type} [Scalar α]

section Definitions

variable (s : Schedule) (input : CullInput α)

/-- A thread of the third phase, whose group has been through the first two; these started with
whatever the group found in its memory. -/
def Schedule.fill (stale : Vec3 Nat → CullCache) (lists : CulledLists) (thread : Vec3 Nat × Nat) :
    Except Fault CulledLists := do
  let cache ← s.gather input thread.1 (stale thread.1)
  fillChunk input cache (threadChunk thread.1 thread.2) lists

def Schedule.run (stale : Vec3 Nat → CullCache) (lists : CulledLists) : Except Fault CulledLists :=
  s.fills.foldlM (s.fill input stale) lists

def blockObjects (group : Vec3 Nat) : List Nat :=
  (List.range input.constants.objectsCount).filter (meets input (blockBounds input group))

/-- The cached objects that touch a chunk, and their addresses, which belong into its list. -/
def Schedule.members (chunk : Vec3 Nat) : List Nat :=
  (s.cached input (groupOf chunk)).filter (meets input (chunkBounds input chunk))
def Schedule.listed (chunk : Vec3 Nat) : List Nat := (s.members input chunk).map (addressOf input)

def Schedule.demand (chunk : Vec3 Nat) : Demand :=
  ⟨placeOf input.constants.chunkResolution chunk, s.listed input chunk⟩

def Schedule.asked (chunks : List (Vec3 Nat)) : Nat := demanded (chunks.map (s.demand input))

/-- The chunks whose lists are handed out earlier, and where that leaves the list of a chunk. -/
def Schedule.before (chunk : Vec3 Nat) : List (Vec3 Nat) := s.chunks.take (s.chunks.idxOf chunk)
def Schedule.base (chunk : Vec3 Nat) : Nat := s.asked input (s.before chunk) + 1

/-- What a group has in its cache when its threads turn to their chunks: all objects that touch its
block are counted, and as many of them are kept, each once, as there is room for. -/
structure Schedule.Gathers (stale : CullCache) (group : Vec3 Nat) : Prop where
  cache : ∃ cache, s.gather input group stale = .ok cache ∧
    cache.count = (blockObjects input group).length ∧
    cache.addresses.toList.take (min cache.count cacheSize) =
      (s.cached input group).map (addressOf input)
  once : (s.cached input group).Nodup
  touching : ∀ i ∈ s.cached input group, i ∈ blockObjects input group
  length : (s.cached input group).length = min cacheSize (blockObjects input group).length

/-- The objects in the list of a chunk are different ones from the cache that touch the chunk; if
the cache was large enough, none that touch both block and chunk are missing. -/
structure Schedule.Selects (chunk : Vec3 Nat) : Prop where
  once : (s.members input chunk).Nodup
  touching : ∀ i ∈ s.members input chunk,
    i ∈ s.cached input (groupOf chunk) ∧ meets input (chunkBounds input chunk) i = true
  all : (blockObjects input (groupOf chunk)).length ≤ cacheSize →
    ∀ i ∈ blockObjects input (groupOf chunk), meets input (chunkBounds input chunk) i = true →
      i ∈ s.members input chunk

/-- What culling leaves behind. Every chunk's entry is written; unless it is zero, the list of the
chunk is there, in words that no other chunk's list takes. It is zero only if the list is empty, or
would end past the capacity. -/
structure Schedule.Leaves (lists : CulledLists) : Prop where
  written : ∀ chunk, Inside input.constants.chunkResolution chunk →
    ∃ b, lists.chunks[placeOf input.constants.chunkResolution chunk]? = some b
  list : ∀ chunk b, Inside input.constants.chunkResolution chunk →
    lists.chunks[placeOf input.constants.chunkResolution chunk]? = some b → b ≠ 0 →
      b = s.base input chunk ∧ 1 ≤ (s.listed input chunk).length ∧
      b + (s.listed input chunk).length < input.constants.culledCapacity ∧
      lists.words[b]? = some (s.listed input chunk).length ∧
      ∀ k < (s.listed input chunk).length, lists.words[b + 1 + k]? = (s.listed input chunk)[k]?
  apart : ∀ chunk other b c, Inside input.constants.chunkResolution chunk →
    Inside input.constants.chunkResolution other → chunk ≠ other →
    lists.chunks[placeOf input.constants.chunkResolution chunk]? = some b → b ≠ 0 →
    lists.chunks[placeOf input.constants.chunkResolution other]? = some c → c ≠ 0 →
      b + (s.listed input chunk).length < c ∨ c + (s.listed input other).length < b
  none : ∀ chunk, Inside input.constants.chunkResolution chunk →
    lists.chunks[placeOf input.constants.chunkResolution chunk]? = some 0 →
      s.listed input chunk = [] ∨
        input.constants.culledCapacity < s.base input chunk + (s.listed input chunk).length + 1
  used : lists.words[0]? = some (s.asked input s.chunks)

/-- A sampler adds up the light of the objects that are listed for the chunk of its point, and of no
others. -/
def Schedule.SamplesListed (lists : CulledLists) : Prop :=
  ∀ sampler : AtlasSampler α, sampler.constants = input.constants → sampler.lists = lists →
    ∀ pos normal threshold chunk, input.constants.chunkCoords pos = .ok chunk →
      Inside input.constants.chunkResolution chunk →
      sampler.sample pos normal threshold =
        if lists.chunks[placeOf input.constants.chunkResolution chunk]? = some 0 then
          .ok .zero
        else do
          match ← (s.listed input chunk).foldlM (sampler.addLight pos normal threshold) none with
          | none => return .zero
          | some total => return AtlasSampler.resolve input.constants total

end Definitions

variable {s : Schedule} {input : CullInput α} {lists : CulledLists} {group chunk other : Vec3 Nat}

theorem listed_eq : s.listed input chunk =
    touching input (chunkBounds input chunk) (s.cached input (groupOf chunk)) := rfl

section Order

theorem chunks_split (member : chunk ∈ s.chunks) :
    s.chunks = s.before chunk ++ chunk :: s.chunks.drop (s.chunks.idxOf chunk + 1) := by
  have short := List.idxOf_lt_length_iff.mpr member
  have next := List.drop_eq_getElem_cons short
  rw [List.getElem_idxOf short] at next
  rw [← next, Schedule.before, List.take_append_drop]

theorem demands_split (member : chunk ∈ s.chunks) :
    s.chunks.map (s.demand input) = (s.before chunk).map (s.demand input) ++
      s.demand input chunk ::
        (s.chunks.drop (s.chunks.idxOf chunk + 1)).map (s.demand input) := by
  conv_lhs => rw [chunks_split member]
  rw [List.map_append, List.map_cons]

theorem base_add_le (member : chunk ∈ s.chunks) (nonempty : s.listed input chunk ≠ []) :
    s.base input chunk + (s.listed input chunk).length ≤ s.asked input s.chunks := by
  have size : listSize (s.demand input chunk).addresses = (s.listed input chunk).length + 1 :=
    if_neg nonempty
  rw [Schedule.base, Schedule.asked, Schedule.asked, demands_split member, List.append_cons,
    demanded_append, demanded_append, demanded_singleton, size]
  omega

theorem base_lt_of_idxOf_lt (member : chunk ∈ s.chunks) (nonempty : s.listed input chunk ≠ [])
    (earlier : s.chunks.idxOf chunk < s.chunks.idxOf other) :
    s.base input chunk + (s.listed input chunk).length < s.base input other := by
  have size : listSize (s.demand input chunk).addresses = (s.listed input chunk).length + 1 :=
    if_neg nonempty
  have split := List.take_append_drop (s.chunks.idxOf chunk + 1) (s.before other)
  have short := List.idxOf_lt_length_iff.mpr member
  rw [Schedule.before, List.take_take, Nat.min_eq_left earlier,
    List.take_succ_eq_append_getElem short, List.getElem_idxOf short] at split
  rw [Schedule.base, Schedule.base, Schedule.asked, Schedule.asked, Schedule.before,
    Schedule.before, ← split, List.map_append, List.map_append, demanded_append, demanded_append,
    List.map_singleton, demanded_singleton, size]
  omega

end Order

section Gathering

variable (small : input.constants.chunkResolution ≤ 1624)
  (few : input.constants.objectsCount ≤ 4294967232)
  (complete : s.IsComplete input.constants.chunkResolution)

include complete

theorem perm_blockObjects (group : Vec3 Nat) :
    (s.found input group).Perm (blockObjects input group) := found_perm complete

theorem selects (chunk : Vec3 Nat) : s.Selects input chunk := by
  refine ⟨(nodup_cached complete).filter _, ?_, ?_⟩
  · intro i member
    exact List.mem_filter.mp member
  · intro room i member touched
    rw [← (perm_blockObjects complete _).length_eq] at room
    refine List.mem_filter.mpr ⟨?_, touched⟩
    rw [Schedule.cached, List.take_of_length_le room]
    exact (perm_blockObjects complete _).mem_iff.mpr member

theorem length_listed_le (chunk : Vec3 Nat) :
    (s.listed input chunk).length ≤ input.constants.objectsCount := by
  calc (s.listed input chunk).length
      = (s.members input chunk).length := List.length_map _
    _ ≤ (s.cached input (groupOf chunk)).length := List.length_filter_le _ _
    _ ≤ (s.found input (groupOf chunk)).length := List.length_take_le' _ _
    _ = (blockObjects input (groupOf chunk)).length := (perm_blockObjects complete _).length_eq
    _ ≤ (List.range input.constants.objectsCount).length := List.length_filter_le _ _
    _ = input.constants.objectsCount := List.length_range

include small few

theorem gathers (readable : Readable input)
    (inside : Inside (input.constants.chunkResolution / blockSide) group)
    {stale : CullCache} (sized : stale.addresses.size = cacheSize) :
    s.Gathers input stale group := by
  have lowest := lowest_of_inside inside small
  have ran : s.gather input group stale = .ok _ :=
    (gather_eq_ok complete few lowest).mpr ⟨readable, rfl⟩
  have holds := holds_of_gather complete few lowest sized ran
  have perm : (s.found input group).Perm _ := perm_blockObjects complete group
  refine ⟨⟨_, ran, ?_, ?_⟩, nodup_cached complete, ?_, ?_⟩
  · rw [holds.count, List.length_map, perm.length_eq]
  · rw [holds.kept, Schedule.cached, List.map_take]
  · intro i listed
    exact perm.mem_iff.mp (List.mem_of_mem_take listed)
  · rw [Schedule.cached, List.length_take, perm.length_eq]

end Gathering

section Runs

variable (whole : blockSide ∣ input.constants.chunkResolution)
  (small : input.constants.chunkResolution ≤ 1624)
  (few : input.constants.objectsCount ≤ 4294967232)
  (complete : s.IsComplete input.constants.chunkResolution)
  {stale : Vec3 Nat → CullCache} (sized : ∀ group, (stale group).addresses.size = cacheSize)

include whole small few complete sized

theorem fill_eq (readable : Readable input) {thread : Vec3 Nat × Nat} (member : thread ∈ s.fills)
    (chunks : lists.chunks.size = input.constants.chunkResolution *
      input.constants.chunkResolution * input.constants.chunkResolution)
    (size : lists.words.size = input.constants.culledCapacity) (counted : 0 < lists.words.size)
    (words : usedWords lists + listSize (s.listed input (threadChunk thread.1 thread.2)) <
      4294967295) :
    s.fill input stale lists thread = .ok (allot input.constants.culledCapacity lists
      (s.demand input (threadChunk thread.1 thread.2))) := by
  obtain ⟨group, thread⟩ := thread
  obtain ⟨inside, below⟩ := (mem_fills complete whole).mp member
  have own : Inside input.constants.chunkResolution (threadChunk group thread) :=
    (mem_chunks complete whole).mp (List.mem_map_of_mem member)
  have lowest := lowest_of_inside inside small
  obtain ⟨cache, ran, -⟩ := (gathers small few complete readable inside (sized group)).cache
  have holds := holds_of_gather complete few lowest (sized group) ran
  have found : survivors input (threadChunk group thread) cache =
      .ok (s.demand input (threadChunk group thread)).addresses := by
    rw [survivors_of_holds _ holds fun i listed => readable i (mem_cached complete listed).1,
      Schedule.demand, listed_eq, groupOf_threadChunk group below]
  rw [Schedule.fill, ran, ok_bind]
  exact fillChunk_eq own found (chunkAddress_of_inside own small)
    (by rw [chunks]; exact placeOf_lt own) counted size words

omit small few sized in
theorem nodup_places : ((s.chunks.map (s.demand input)).map Demand.place).Nodup := by
  rw [List.map_map]
  refine (nodup_chunks complete whole).map_on ?_
  intro chunk member other member' same
  exact placeOf_inj ((mem_chunks complete whole).mp member)
    ((mem_chunks complete whole).mp member') same

theorem run_eq (readable : Readable input)
    (chunks : lists.chunks.size = input.constants.chunkResolution *
      input.constants.chunkResolution * input.constants.chunkResolution)
    (size : lists.words.size = input.constants.culledCapacity)
    (counted : lists.words[0]? = some 0) (words : s.asked input s.chunks < 4294967295) :
    s.run input stale lists =
      .ok ((s.chunks.map (s.demand input)).foldl (allot input.constants.culledCapacity) lists) := by
  have distinct := nodup_places whole complete
  have split : ∀ threads rest, s.fills = threads ++ rest → s.chunks.map (s.demand input) =
      threads.map (fun thread => s.demand input (threadChunk thread.1 thread.2)) ++
        rest.map (fun thread => s.demand input (threadChunk thread.1 thread.2)) := by
    intro threads rest split
    rw [Schedule.chunks, split, List.map_map, List.map_append]
    rfl
  -- Before each thread, those before it have been given what they ask for, and nothing else.
  have step : ∀ done thread rest now, s.fills = done ++ thread :: rest →
      now = (done.map fun thread => s.demand input (threadChunk thread.1 thread.2)).foldl
        (allot input.constants.culledCapacity) lists →
      ∃ next, s.fill input stale now thread = .ok next ∧
        next = ((done ++ [thread]).map fun thread =>
          s.demand input (threadChunk thread.1 thread.2)).foldl
            (allot input.constants.culledCapacity) lists := by
    intro done thread rest now here given
    have parts := split done (thread :: rest) here
    rw [parts, List.map_append, List.nodup_append] at distinct
    rw [Schedule.asked, parts, demanded_append, List.map_cons, ← List.singleton_append,
      demanded_append, demanded_singleton] at words
    have allotted : Allotted input.constants.culledCapacity lists _ _ :=
      allotted_foldl counted size distinct.1
    rw [← given] at allotted
    refine ⟨_, fill_eq whole small few complete sized readable ?_ ?_ allotted.words ?_ ?_, ?_⟩
    · rw [here]
      exact List.mem_append_right _ List.mem_cons_self
    · rw [allotted.chunks, chunks]
    · exact (Array.getElem?_eq_some_iff.mp allotted.used).1
    · rw [allotted.usedWords_eq]
      exact Nat.lt_of_le_of_lt (Nat.add_le_add_left (Nat.le_add_right _ _) _) words
    · rw [given, List.map_append, List.foldl_append]
      rfl
  obtain ⟨after, ran, rfl⟩ := foldlM_ends _ step rfl
  have all := split s.fills [] (List.append_nil _).symm
  rw [List.map_nil, List.append_nil] at all
  rw [Schedule.run, all]
  exact ran

omit sized in
theorem readable_of_run (nonempty : s.fills ≠ []) {after : CulledLists}
    (ran : s.run input stale lists = .ok after) : Readable input := by
  obtain ⟨⟨group, thread⟩, rest, split⟩ := List.exists_cons_of_ne_nil nonempty
  rw [Schedule.run, split, foldlM_cons_eq_ok] at ran
  obtain ⟨next, first, -⟩ := ran
  obtain ⟨cache, gathered, -⟩ := bind_eq_ok.mp first
  have member : (group, thread) ∈ s.fills := by
    rw [split]
    exact List.mem_cons_self
  have inside := ((mem_fills complete whole).mp member).1
  exact ((gather_eq_ok complete few (lowest_of_inside inside small)).mp gathered).1

end Runs

section Results

theorem entry_of_allotted (whole : blockSide ∣ input.constants.chunkResolution)
    (complete : s.IsComplete input.constants.chunkResolution) {start : CulledLists}
    (chunks : start.chunks.size = input.constants.chunkResolution *
      input.constants.chunkResolution * input.constants.chunkResolution)
    (allotted : Allotted input.constants.culledCapacity start (s.chunks.map (s.demand input)) lists)
    (inside : Inside input.constants.chunkResolution chunk) :
    lists.chunks[placeOf input.constants.chunkResolution chunk]? =
      some (if Fits input.constants.culledCapacity (s.asked input (s.before chunk))
        (s.listed input chunk) then s.base input chunk else 0) :=
  allotted.entry _ _ _ (demands_split ((mem_chunks complete whole).mpr inside))
    (by rw [chunks]; exact placeOf_lt inside)

theorem leaves_of_allotted (whole : blockSide ∣ input.constants.chunkResolution)
    (complete : s.IsComplete input.constants.chunkResolution) {start : CulledLists}
    (chunks : start.chunks.size = input.constants.chunkResolution *
      input.constants.chunkResolution * input.constants.chunkResolution)
    (allotted : Allotted input.constants.culledCapacity start (s.chunks.map (s.demand input))
      lists) : s.Leaves input lists := by
  have entry := fun (chunk : Vec3 Nat) (inside : Inside input.constants.chunkResolution chunk) =>
    entry_of_allotted whole complete chunks allotted inside
  -- A list that has been handed out begins at the base of its chunk.
  have own : ∀ chunk b, Inside input.constants.chunkResolution chunk →
      lists.chunks[placeOf input.constants.chunkResolution chunk]? = some b → b ≠ 0 →
        b = s.base input chunk ∧ Fits input.constants.culledCapacity
          (s.asked input (s.before chunk)) (s.listed input chunk) := by
    intro chunk b inside held nonzero
    rw [entry chunk inside, Option.some.injEq] at held
    by_cases fits : Fits input.constants.culledCapacity (s.asked input (s.before chunk))
        (s.listed input chunk)
    · rw [if_pos fits] at held
      exact ⟨held.symm, fits⟩
    · rw [if_neg fits] at held
      exact absurd held.symm nonzero
  refine ⟨fun chunk inside => ⟨_, entry chunk inside⟩, ?_, ?_, ?_, allotted.used⟩
  · intro chunk b inside held nonzero
    obtain ⟨rfl, fits⟩ := own chunk b inside held nonzero
    have list := allotted.list _ _ _ (demands_split ((mem_chunks complete whole).mpr inside)) fits
    refine ⟨rfl, List.length_pos_iff.mpr fits.1, fits.2, list 0 (Nat.zero_le _), ?_⟩
    intro k short
    have next := list (k + 1) short
    rw [← Nat.add_assoc, Nat.add_right_comm, List.getElem?_cons_succ] at next
    exact next
  · intro chunk other b c inside inside' different held nonzero held' nonzero'
    obtain ⟨rfl, fits⟩ := own chunk b inside held nonzero
    obtain ⟨rfl, fits'⟩ := own other c inside' held' nonzero'
    have member := (mem_chunks complete whole).mpr inside
    have member' := (mem_chunks complete whole).mpr inside'
    rcases Nat.lt_trichotomy (s.chunks.idxOf chunk) (s.chunks.idxOf other) with
      earlier | same | later
    · exact .inl (base_lt_of_idxOf_lt member fits.1 earlier)
    · exact absurd ((List.idxOf_inj member).mp same) different
    · exact .inr (base_lt_of_idxOf_lt member' fits'.1 later)
  · intro chunk inside held
    rw [entry chunk inside, Option.some.injEq] at held
    by_cases empty : s.listed input chunk = []
    · exact .inl empty
    · right
      by_cases fits : Fits input.constants.culledCapacity (s.asked input (s.before chunk))
          (s.listed input chunk)
      · rw [if_pos fits] at held
        exact absurd held (Nat.succ_ne_zero _)
      · rw [Schedule.base]
        by_contra! room
        exact fits ⟨empty, by omega⟩

theorem foldl_allot_congr (whole : blockSide ∣ input.constants.chunkResolution)
    (complete : s.IsComplete input.constants.chunkResolution) {chunks chunks' words : Array Nat}
    (size : chunks.size = input.constants.chunkResolution *
      input.constants.chunkResolution * input.constants.chunkResolution)
    (size' : chunks'.size = chunks.size) (words_size : words.size = input.constants.culledCapacity)
    (counted : words[0]? = some 0) :
    (s.chunks.map (s.demand input)).foldl (allot input.constants.culledCapacity) ⟨chunks', words⟩ =
      (s.chunks.map (s.demand input)).foldl (allot input.constants.culledCapacity)
        ⟨chunks, words⟩ := by
  have distinct : ((s.chunks.map (s.demand input)).map Demand.place).Nodup :=
    nodup_places whole complete
  have first : Allotted input.constants.culledCapacity ⟨chunks, words⟩ _ _ :=
    allotted_foldl counted words_size distinct
  have second : Allotted input.constants.culledCapacity ⟨chunks', words⟩ _ _ :=
    allotted_foldl counted words_size distinct
  have same := foldl_allot_words input.constants.culledCapacity ⟨chunks, words⟩
    (s.chunks.map (s.demand input)) chunks'
  refine (CulledLists.mk.injEq ..).mpr ⟨Array.ext_getElem? fun i => ?_, same⟩
  by_cases inside : i < input.constants.chunkResolution * input.constants.chunkResolution *
      input.constants.chunkResolution
  · have held := entry_of_allotted whole complete size first (inside_coordsAt inside)
    have held' := entry_of_allotted whole complete (size'.trans size) second
      (inside_coordsAt inside)
    rw [placeOf_coordsAt] at held held'
    rw [held, held']
  · rw [Array.getElem?_eq_none, Array.getElem?_eq_none]
    · rw [first.chunks, size]
      exact Nat.not_lt.mp inside
    · rw [second.chunks, size', size]
      exact Nat.not_lt.mp inside

theorem foldlM_addObject {sampler : AtlasSampler α} {place : Nat} {addresses : List Nat}
    {pos normal : Vec3 α} {threshold : α} {total : Option (Vec4 α)}
    (short : place + addresses.length < 4294967296)
    (held : ∀ k < addresses.length, sampler.lists.words[place + 1 + k]? = addresses[k]?) :
    (List.range addresses.length).foldlM (sampler.addObject place pos normal threshold) total =
      addresses.foldlM (sampler.addLight pos normal threshold) total := by
  have indices : addresses = (List.range addresses.length).map fun k => addresses[k]?.getD 0 := by
    refine List.ext_getElem (by simp) fun k inside _ => ?_
    simp [inside]
  conv_rhs => rw [indices, List.foldlM_map]
  refine foldlM_congr fun k member total => ?_
  have inside := List.mem_range.mp member
  have read : fetch sampler.lists.words (place + 1 + k) = .ok (addresses[k]?.getD 0) := by
    rw [fetch_eq_ok, held k inside, List.getElem?_eq_getElem inside]
    rfl
  rw [AtlasSampler.addObject, AtlasSampler.addLight,
    Word.add_eq_ok.mpr ⟨rfl, show place + 1 < 4294967296 by omega⟩, ok_bind,
    Word.add_eq_ok.mpr ⟨rfl, show place + 1 + k < 4294967296 by omega⟩, ok_bind, read, ok_bind]

theorem samplesListed_of_leaves (whole : blockSide ∣ input.constants.chunkResolution)
    (small : input.constants.chunkResolution ≤ 1624)
    (complete : s.IsComplete input.constants.chunkResolution)
    (words : s.asked input s.chunks < 4294967295) (leaves : s.Leaves input lists) :
    s.SamplesListed input lists := by
  intro sampler constants same pos normal threshold chunk coords inside
  obtain ⟨b, held⟩ := leaves.written chunk inside
  have entry : fetch lists.chunks (placeOf input.constants.chunkResolution chunk) = .ok b :=
    fetch_eq_ok.mpr held
  rw [AtlasSampler.sample, constants, coords, ok_bind, chunkAddress_of_inside inside small, ok_bind,
    same, entry, ok_bind, held]
  by_cases zero : b = 0
  · rw [if_pos zero]
    exact (if_pos (congrArg some zero)).symm
  · obtain ⟨rfl, nonempty, -, count, list⟩ := leaves.list chunk b inside held zero
    have few : (s.listed input chunk).length ≤ _ := length_listed_le complete chunk
    rw [if_neg zero, if_neg (mt Option.some.inj zero), fetch_eq_ok.mpr count, ok_bind,
      if_neg (Nat.not_lt.mpr few)]
    have ends := base_add_le ((mem_chunks complete whole).mpr inside)
      (List.length_pos_iff.mp nonempty)
    refine congrArg₂ bind (foldlM_addObject (by omega) (by rw [same]; exact list)) ?_
    funext total
    cases total <;> rfl

/-- Culling hands out its lists soundly, whichever order its threads run in and whatever the memory
of the groups and the entries of the chunks held before: unless an object cannot be read, each group
gathers its objects, each chunk selects some of these, and the lists are left behind for a sampler
to read. -/
theorem culls_in_any_order (s : Schedule) (input : CullInput α)
    (whole : blockSide ∣ input.constants.chunkResolution)
    (positive : 0 < input.constants.chunkResolution)
    (small : input.constants.chunkResolution ≤ 1624)
    (few : input.constants.objectsCount ≤ 4294967232)
    (complete : s.IsComplete input.constants.chunkResolution) (stale : Vec3 Nat → CullCache)
    (sized : ∀ group, (stale group).addresses.size = cacheSize) (words : Array Nat)
    (size : words.size = input.constants.culledCapacity) (counted : words[0]? = some 0)
    (short : s.asked input s.chunks < 4294967295) :
    (Readable input ∧
      (∀ group, Inside (input.constants.chunkResolution / blockSide) group →
        s.Gathers input (stale group) group) ∧
      (∀ chunk, s.Selects input chunk) ∧
      ∃ lists, (∀ chunks : Array Nat, chunks.size = input.constants.chunkResolution *
          input.constants.chunkResolution * input.constants.chunkResolution →
            s.run input stale ⟨chunks, words⟩ = .ok lists) ∧
        s.Leaves input lists ∧ s.SamplesListed input lists) ∨
    (¬Readable input ∧
      ∀ chunks, ∃ fault, s.run input stale ⟨chunks, words⟩ = .error fault) := by
  by_cases readable : Readable input
  · refine .inl ⟨readable, fun group inside => ?_, selects complete, ?_⟩
    · exact gathers small few complete readable inside (sized group)
    let chunks : Array Nat := .replicate (input.constants.chunkResolution *
      input.constants.chunkResolution * input.constants.chunkResolution) 0
    have chunks_size : chunks.size = input.constants.chunkResolution *
      input.constants.chunkResolution * input.constants.chunkResolution := Array.size_replicate
    have allotted : Allotted input.constants.culledCapacity ⟨chunks, words⟩ _ _ :=
      allotted_foldl counted size (nodup_places whole complete)
    have leaves := leaves_of_allotted whole complete chunks_size allotted
    refine ⟨_, fun chunks' size' => ?_, leaves,
      samplesListed_of_leaves whole small complete short leaves⟩
    rw [run_eq whole small few complete sized readable size' size counted short,
      foldl_allot_congr whole complete chunks_size (size'.trans chunks_size.symm) size counted]
  · refine .inr ⟨readable, fun chunks => ?_⟩
    have origin : (⟨0, 0, 0⟩, 0) ∈ s.fills := by
      have blocks : 0 < input.constants.chunkResolution / blockSide :=
        Nat.div_pos (Nat.le_of_dvd positive whole) (by decide)
      exact (mem_fills complete whole).mpr ⟨⟨blocks, blocks, blocks⟩, by decide⟩
    rcases ok_or_error (s.run input stale ⟨chunks, words⟩) with ⟨lists, ran⟩ | failed
    · exact absurd (readable_of_run whole small few complete (List.ne_nil_of_mem origin) ran)
        readable
    · exact failed

/-- A ball that touches the eight chunks in the middle, with room for the lists of three. -/
def ball : CullInput ℚ where
  constants := ⟨⟨0, 0, 0⟩, 1, 8, 4, 1, 7, false, false⟩
  objects := ((⟨⟨0, 0, 0, 1 / 2⟩, ⟨0, 0, 0⟩, .identity, ⟨1, 1, 1⟩⟩ : ObjectRecord ℚ).words 6).toArray
  addresses := #[0]

/-- The last threads first. -/
def backward : Schedule where
  resets _ := (List.range groupThreads).reverse
  collects _ := (List.range groupThreads).reverse
  fills := (groups 4 ×ˢ List.range groupThreads).reverse

theorem backward_isComplete : backward.IsComplete 4 :=
  ⟨fun _ => List.reverse_perm _, fun _ => List.reverse_perm _, List.reverse_perm _⟩

theorem asked_ball : backward.asked ball backward.chunks = 16 := by decide +kernel

theorem readable_ball : Readable ball := by
  intro i below
  obtain rfl : i = 0 := Nat.lt_one_iff.mp below
  exact ⟨_, rfl⟩

theorem culls_ball_backward : ∃ lists,
    backward.run ball (fun _ => staleCache) ⟨.replicate 64 9, .replicate 7 0⟩ = .ok lists ∧
      backward.Leaves ball lists ∧ lists.words[0]? = some 16 := by
  rcases culls_in_any_order backward ball (by decide) (by decide) (by decide) (by decide)
      backward_isComplete (fun _ => staleCache) (fun _ => Array.size_replicate)
      (.replicate 7 0) Array.size_replicate rfl (by rw [asked_ball]; decide) with
    ⟨-, -, -, lists, ran, leaves, -⟩ | ⟨unreadable, -⟩
  · refine ⟨lists, ran _ Array.size_replicate, leaves, ?_⟩
    rw [leaves.used, asked_ball]
  · exact absurd readable_ball unreadable

end Results

section InOrder

def inOrder (chunkResolution : Nat) : Schedule where
  resets _ := List.range groupThreads
  collects _ := List.range groupThreads
  fills := groups chunkResolution ×ˢ List.range groupThreads

theorem inOrder_isComplete (chunkResolution : Nat) :
    (inOrder chunkResolution).IsComplete chunkResolution :=
  ⟨fun _ => .refl _, fun _ => .refl _, .refl _⟩

theorem runGroup_eq_ok {chunkResolution : Nat} {cache : CullCache} {after : CulledLists} :
    (∃ gathered, runGroup input group lists cache = .ok (after, gathered)) ↔
      ((List.range groupThreads).map (group, ·)).foldlM
        ((inOrder chunkResolution).fill input fun _ => cache) lists = .ok after := by
  have phases : runGroup input group lists cache = do
      let gathered ← (inOrder chunkResolution).gather input group cache
      let lists ← (List.range groupThreads).foldlM (fun lists thread =>
        fillChunk input gathered (threadChunk group thread) lists) lists
      return (lists, gathered) := rfl
  rw [phases, List.foldlM_map]
  simp only [Schedule.fill]
  cases ran : (inOrder chunkResolution).gather input group cache with
  | ok gathered => simp [bind_eq_ok]
  | error fault =>
      have nonempty : List.range groupThreads = 0 :: (List.range 63).map Nat.succ :=
        List.range_succ_eq_map
      simp [nonempty, error_bind]

/-- One turn of `run`: the memory after a group, and how many objects each group so far gathered. -/
def runNext (input : CullInput α) (before : CulledLists × List Nat) (group : Vec3 Nat) :
    Except Fault (CulledLists × List Nat) := do
  let next ← runGroup input group before.1 staleCache
  return (next.1, before.2 ++ [next.2.count])

theorem run_eq_foldlM :
    run input lists = (groups input.constants.chunkResolution).foldlM (runNext input) (lists, []) :=
  bind_pure _

theorem run_eq_ok {after : CulledLists} : (∃ counts, run input lists = .ok (after, counts)) ↔
    (inOrder input.constants.chunkResolution).run input (fun _ => staleCache) lists =
      .ok after := by
  suffices general : ∀ (l : List (Vec3 Nat)) (lists : CulledLists) (counts : List Nat),
      (∃ counts', l.foldlM (runNext input) (lists, counts) = .ok (after, counts')) ↔
        (l ×ˢ List.range groupThreads).foldlM
          ((inOrder input.constants.chunkResolution).fill input fun _ => staleCache) lists =
            .ok after by
    rw [run_eq_foldlM]
    exact general (groups input.constants.chunkResolution) lists []
  intro l
  induction l with
  | nil => simp
  | cons group rest ih =>
      intro lists counts
      rw [List.product_cons, foldlM_append_eq_ok]
      simp only [foldlM_cons_eq_ok, runNext, bind_eq_ok, pure_eq_ok, Except.ok.injEq]
      constructor
      · rintro ⟨counts', _, ⟨⟨next, cache⟩, first, rfl⟩, later⟩
        exact ⟨next, runGroup_eq_ok.mp ⟨cache, first⟩, (ih _ _).mp ⟨counts', later⟩⟩
      · rintro ⟨next, first, later⟩
        obtain ⟨cache, first⟩ := runGroup_eq_ok.mpr first
        obtain ⟨counts', later⟩ := (ih next (counts ++ [cache.count])).mpr later
        exact ⟨counts', _, ⟨(next, cache), first, rfl⟩, later⟩

end InOrder

end Culling

end IrradianceField
