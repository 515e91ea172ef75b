import IrradianceField.Proofs.Bounding
import IrradianceField.Proofs.Culling
import IrradianceField.Proofs.Flushing

/-!
Visibility: culling never hides an object from a point inside of it, unless a cache or the memory of
the lists is too small; and what it takes for the pass to end at all.
-/

namespace IrradianceField.Culling

section Endings

variable {α : Type} [Scalar α] {s : Schedule} {input : CullInput α} {lists after : CulledLists}
  {stale : Vec3 Nat → CullCache} {chunk : Vec3 Nat}

theorem step_of_foldlM {σ ι : Type} {f : σ → ι → Except Fault σ} {l : List ι} {a b : σ} {i : ι}
    (ran : l.foldlM f a = .ok b) (member : i ∈ l) : ∃ u v, f u i = .ok v := by
  induction l generalizing a with
  | nil => exact absurd member List.not_mem_nil
  | cons first rest ih =>
      obtain ⟨next, step, ran⟩ := foldlM_cons_eq_ok.mp ran
      cases member with
      | head => exact ⟨a, next, step⟩
      | tail _ later => exact ih ran later

theorem read_of_collectFrom {bounds : Vec3 α × Vec3 α} {i : Nat} {cache gathered : CullCache}
    (ran : collectFrom input bounds i cache = .ok gathered) :
    ∀ j ∈ stride input.constants.objectsCount i,
      j + groupThreads < 4294967296 ∧ ∃ object, objectAt input j = .ok object := by
  induction i using stride.induct input.constants.objectsCount generalizing cache with
  | case1 i inside ih =>
      rw [collectFrom, dif_pos inside] at ran
      rw [stride, if_pos inside, List.forall_mem_cons]
      obtain ⟨address, held, ran⟩ := bind_eq_ok.mp ran
      obtain ⟨touched, tested, ran⟩ := bind_eq_ok.mp ran
      obtain ⟨object, read, -⟩ := bind_eq_ok.mp tested
      by_cases next : i + groupThreads < 4294967296
      · rw [if_pos next] at ran
        exact ⟨⟨next, object, by rw [objectAt, held, ok_bind, read]⟩, ih ran⟩
      · rw [if_neg next] at ran
        cases ran
  | case2 i outside =>
      rw [stride, if_neg outside]
      exact fun j member => absurd member List.not_mem_nil

theorem read_of_run (whole : blockSide ∣ input.constants.chunkResolution)
    (counted : 0 < input.constants.chunkResolution)
    (complete : s.IsComplete input.constants.chunkResolution)
    (ran : s.run input stale lists = .ok after) :
    Readable input ∧ input.constants.objectsCount ≤ 4294967232 := by
  have blocks : 0 < input.constants.chunkResolution / blockSide :=
    Nat.div_pos (Nat.le_of_dvd counted whole) (by decide)
  have origin : (⟨0, 0, 0⟩, 0) ∈ s.fills :=
    (mem_fills complete whole).mpr ⟨⟨blocks, blocks, blocks⟩, by decide⟩
  obtain ⟨now, next, filled⟩ := step_of_foldlM ran origin
  obtain ⟨cache, gathered, -⟩ := bind_eq_ok.mp filled
  have each : ∀ j < input.constants.objectsCount,
      j + groupThreads < 4294967296 ∧ ∃ object, objectAt input j = .ok object := by
    intro j below
    have listed := (strides_perm (complete.collects ⟨0, 0, 0⟩) _).mem_iff.mpr
      (List.mem_range.mpr below)
    obtain ⟨thread, member, strided⟩ := List.mem_flatMap.mp listed
    obtain ⟨first, second, collected⟩ := step_of_foldlM gathered member
    obtain ⟨lowest, -, tested⟩ := bind_eq_ok.mp collected
    exact read_of_collectFrom tested j strided
  refine ⟨fun j below => (each j below).2, ?_⟩
  by_contra! many
  have last := (each (input.constants.objectsCount - 1) (by omega)).1
  simp only [groupThreads, blockSide] at last
  omega

omit [Scalar α] in
theorem chunkAddress_eq_ok {a : AtlasConstants α} {place : Nat}
    (placed : a.chunkAddress chunk = .ok place) :
    place = placeOf a.chunkResolution chunk ∧ place < 4294967296 := by
  obtain ⟨row, rowed, placed⟩ := bind_eq_ok.mp placed
  obtain ⟨layers, stacked, placed⟩ := bind_eq_ok.mp placed
  obtain ⟨rows, counted, placed⟩ := bind_eq_ok.mp placed
  obtain ⟨sum, summed, placed⟩ := bind_eq_ok.mp placed
  obtain ⟨rfl, -⟩ := Word.mul_eq_ok.mp rowed
  obtain ⟨rfl, -⟩ := Word.mul_eq_ok.mp stacked
  obtain ⟨rfl, -⟩ := Word.mul_eq_ok.mp counted
  obtain ⟨rfl, -⟩ := Word.add_eq_ok.mp summed
  obtain ⟨rfl, short⟩ := Word.add_eq_ok.mp placed
  exact ⟨by rw [placeOf, Nat.add_mul], short⟩

/-- A thread that ends has found the address of its chunk, and the words that it asks for can be
counted together with those in use. -/
theorem ends_of_fillChunk {cache : CullCache}
    (inside : Inside input.constants.chunkResolution chunk)
    (ran : fillChunk input cache chunk lists = .ok after) :
    ∃ addresses place, survivors input chunk cache = .ok addresses ∧
      input.constants.chunkAddress chunk = .ok place ∧
      (usedWords lists < 4294967295 → usedWords lists + listSize addresses < 4294967295) := by
  obtain ⟨hx, hy, hz⟩ := inside
  rw [fillChunk] at ran
  simp only [decide_eq_false (Nat.not_le.mpr hx), decide_eq_false (Nat.not_le.mpr hy),
    decide_eq_false (Nat.not_le.mpr hz), Bool.or_false, Bool.false_eq_true, if_false] at ran
  obtain ⟨addresses, found, ran⟩ := bind_eq_ok.mp ran
  obtain ⟨place, placed, ran⟩ := bind_eq_ok.mp ran
  refine ⟨addresses, place, found, placed, fun used => ?_⟩
  by_cases empty : addresses = []
  · rwa [listSize, if_pos empty]
  · rw [if_neg (mt List.length_eq_zero_iff.mp empty)] at ran
    obtain ⟨counter, held, ran⟩ := bind_eq_ok.mp ran
    obtain ⟨words, -, ran⟩ := bind_eq_ok.mp ran
    obtain ⟨base, begun, ran⟩ := bind_eq_ok.mp ran
    obtain ⟨middle, longer, ran⟩ := bind_eq_ok.mp ran
    obtain ⟨last, ended, -⟩ := bind_eq_ok.mp ran
    obtain ⟨rfl, -⟩ := Word.add_eq_ok.mp begun
    obtain ⟨rfl, -⟩ := Word.add_eq_ok.mp longer
    obtain ⟨rfl, short⟩ := Word.add_eq_ok.mp ended
    have same : usedWords lists = counter := by rw [usedWords, fetch_eq_ok.mp held]; rfl
    rw [listSize, if_neg empty, same]
    omega

section Passes

def Schedule.demands (s : Schedule) (input : CullInput α) (threads : List (Vec3 Nat × Nat)) :
    List Demand :=
  threads.map fun thread => s.demand input (threadChunk thread.1 thread.2)

/-- Some threads have been given what they ask for, and all words in use can be counted. -/
structure Schedule.Counts (s : Schedule) (input : CullInput α) (start : CulledLists)
    (done : List (Vec3 Nat × Nat)) (now : CulledLists) : Prop where
  given : now = (s.demands input done).foldl (allot input.constants.culledCapacity) start
  used : demanded (s.demands input done) < 4294967295

theorem demands_append (first second : List (Vec3 Nat × Nat)) :
    s.demands input (first ++ second) = s.demands input first ++ s.demands input second :=
  List.map_append

theorem demands_fills : s.demands input s.fills = s.chunks.map (s.demand input) := by
  rw [Schedule.chunks, List.map_map]
  rfl

variable (whole : blockSide ∣ input.constants.chunkResolution)
  (complete : s.IsComplete input.constants.chunkResolution)
include whole complete

theorem small_of_run (ran : s.run input stale lists = .ok after) :
    input.constants.chunkResolution ≤ 1624 := by
  by_contra! large
  obtain ⟨blocks, side⟩ := whole
  rw [blockSide] at side
  have inside : Inside input.constants.chunkResolution
      ⟨input.constants.chunkResolution - 1, input.constants.chunkResolution - 1,
        input.constants.chunkResolution - 1⟩ := by
    refine ⟨?_, ?_, ?_⟩ <;> exact Nat.sub_lt (by omega) Nat.one_pos
  obtain ⟨thread, member, own⟩ := List.mem_map.mp ((mem_chunks complete ⟨blocks, side⟩).mpr inside)
  obtain ⟨now, next, filled⟩ := step_of_foldlM ran member
  obtain ⟨cache, -, filled⟩ := bind_eq_ok.mp filled
  rw [own] at filled
  obtain ⟨-, place, -, placed, -⟩ := ends_of_fillChunk inside filled
  obtain ⟨rfl, short⟩ := chunkAddress_eq_ok placed
  have corner : (1627 * 1628 + 1627) * 1628 + 1627 ≤ placeOf input.constants.chunkResolution
      ⟨input.constants.chunkResolution - 1, input.constants.chunkResolution - 1,
        input.constants.chunkResolution - 1⟩ := by
    have above : 1628 ≤ input.constants.chunkResolution := by omega
    have below : 1627 ≤ input.constants.chunkResolution - 1 := by omega
    exact Nat.add_le_add (Nat.mul_le_mul (Nat.add_le_add (Nat.mul_le_mul below above) below) above)
      below
  omega

theorem Schedule.Counts.step (small : input.constants.chunkResolution ≤ 1624)
    (few : input.constants.objectsCount ≤ 4294967232) (readable : Readable input)
    (sized : ∀ group, (stale group).addresses.size = cacheSize)
    (chunks : lists.chunks.size = input.constants.chunkResolution *
      input.constants.chunkResolution * input.constants.chunkResolution)
    (size : lists.words.size = input.constants.culledCapacity)
    (cleared : lists.words[0]? = some 0) {done rest : List (Vec3 Nat × Nat)}
    {thread : Vec3 Nat × Nat} {now next : CulledLists} (here : s.fills = done ++ thread :: rest)
    (counts : s.Counts input lists done now) (filled : s.fill input stale now thread = .ok next) :
    s.Counts input lists (done ++ [thread]) next := by
  have member : thread ∈ s.fills := by
    rw [here]
    exact List.mem_append_right _ List.mem_cons_self
  have distinct : ((s.chunks.map (s.demand input)).map Demand.place).Nodup :=
    nodup_places whole complete
  rw [← demands_fills, here, demands_append, List.map_append, List.nodup_append] at distinct
  have allotted : Allotted input.constants.culledCapacity lists _ _ :=
    allotted_foldl cleared size distinct.1
  rw [← counts.given] at allotted
  have words : usedWords now + listSize (s.listed input (threadChunk thread.1 thread.2)) <
      4294967295 := by
    obtain ⟨group, thread⟩ := thread
    obtain ⟨inside, below⟩ := (mem_fills complete whole).mp member
    have own : Inside input.constants.chunkResolution (threadChunk group thread) :=
      (mem_chunks complete whole).mp (List.mem_map_of_mem member)
    obtain ⟨cache, ran, ended⟩ := bind_eq_ok.mp filled
    have holds := holds_of_gather complete few (lowest_of_inside inside small) (sized group) ran
    have found := survivors_of_holds (threadChunk group thread) holds
      fun i listed => readable i (mem_cached complete listed).1
    obtain ⟨addresses, place, found', -, words⟩ := ends_of_fillChunk own ended
    rw [found, Except.ok.injEq] at found'
    rw [listed_eq, groupOf_threadChunk group below, found']
    apply words
    rw [allotted.usedWords_eq]
    exact counts.used
  have given := fill_eq whole small few complete sized readable member
    (allotted.chunks.trans chunks) allotted.words (Array.getElem?_eq_some_iff.mp allotted.used).1
    words
  rw [filled, Except.ok.injEq] at given
  constructor
  · rw [given, counts.given, demands_append, List.foldl_append]
    rfl
  · rw [demands_append, demanded_append, ← allotted.usedWords_eq]
    exact words

theorem asked_of_run (counted : 0 < input.constants.chunkResolution)
    (sized : ∀ group, (stale group).addresses.size = cacheSize)
    (chunks : lists.chunks.size = input.constants.chunkResolution *
      input.constants.chunkResolution * input.constants.chunkResolution)
    (size : lists.words.size = input.constants.culledCapacity)
    (cleared : lists.words[0]? = some 0) (ran : s.run input stale lists = .ok after) :
    s.asked input s.chunks < 4294967295 := by
  have small := small_of_run whole complete ran
  obtain ⟨readable, few⟩ := read_of_run whole counted complete ran
  have counts : s.Counts input lists s.fills after := by
    refine foldlM_tracks (s.Counts input lists) ?_ ⟨rfl, Nat.zero_lt_succ _⟩ ran
    intro done thread rest now next here counts filled
    exact counts.step whole complete small few readable sized chunks size cleared here filled
  rw [Schedule.asked, ← demands_fills]
  exact counts.used

theorem leaves_of_run (counted : 0 < input.constants.chunkResolution)
    (sized : ∀ group, (stale group).addresses.size = cacheSize)
    (chunks : lists.chunks.size = input.constants.chunkResolution *
      input.constants.chunkResolution * input.constants.chunkResolution)
    (size : lists.words.size = input.constants.culledCapacity)
    (cleared : lists.words[0]? = some 0) (ran : s.run input stale lists = .ok after) :
    s.Leaves input after := by
  obtain ⟨readable, few⟩ := read_of_run whole counted complete ran
  have asked := asked_of_run whole complete counted sized chunks size cleared ran
  have same := run_eq whole (small_of_run whole complete ran) few complete sized readable chunks
    size cleared asked
  rw [ran, Except.ok.injEq] at same
  apply leaves_of_allotted whole complete chunks
  rw [same]
  exact allotted_foldl cleared size (nodup_places whole complete)

end Passes

end Endings

section Points

variable {A : Type} {r : Registry A ℝ} {a : AtlasConstants ℝ} {s : Schedule}
  {stale : Vec3 Nat → CullCache} {lists after : CulledLists} {e : RegistryEntry ℝ} {i address : Nat}
  {p : Vec3 ℝ} {chunk : Vec3 Nat}

/-- Whether the list that the entry at a place points to has an address in it. -/
def Lists (lists : CulledLists) (place address : Nat) : Prop :=
  ∃ base count k, lists.chunks[place]? = some base ∧ base ≠ 0 ∧ lists.words[base]? = some count ∧
    k < count ∧ lists.words[base + 1 + k]? = some address

theorem Schedule.Leaves.lists_or_full {input : CullInput ℝ} (leaves : s.Leaves input after)
    (own : Inside input.constants.chunkResolution chunk) (listed : address ∈ s.listed input chunk) :
    (after.chunks[placeOf input.constants.chunkResolution chunk]? = some 0 ∧
        input.constants.culledCapacity <
          s.base input chunk + (s.listed input chunk).length + 1) ∨
      Lists after (placeOf input.constants.chunkResolution chunk) address := by
  obtain ⟨base, entry⟩ := leaves.written chunk own
  by_cases zero : base = 0
  · subst zero
    refine .inl ⟨entry, (leaves.none chunk own entry).resolve_left ?_⟩
    exact List.ne_nil_of_mem listed
  · obtain ⟨-, -, -, count, list⟩ := leaves.list chunk base own entry zero
    obtain ⟨k, found⟩ := List.getElem?_of_mem listed
    obtain ⟨below, -⟩ := List.getElem?_eq_some_iff.mp found
    exact .inr ⟨base, _, k, entry, zero, count, below, (list k below).trans found⟩

/-- The objects of a registry as they are culled. -/
noncomputable def ofRegistry (r : Registry A ℝ) (a : AtlasConstants ℝ) : CullInput ℝ where
  constants := { a with objectsCount := r.serialized.addresses.size }
  objects := r.serialized.objects
  addresses := r.serialized.addresses

theorem addressOf_ofRegistry (held : r.entries[i]? = some e) :
    addressOf (ofRegistry r a) i = Registry.addressIn r.entries i := by
  have laid := Registry.laidOut_serialized r
  obtain ⟨below, -⟩ := List.getElem?_eq_some_iff.mp held
  rw [addressOf, ofRegistry, ← Array.getElem?_toList, laid.addresses, List.getElem?_map,
    List.getElem?_range below]
  rfl

theorem objectAt_ofRegistry (readable : Readable (ofRegistry r a))
    (held : r.entries[i]? = some e) :
    objectAt (ofRegistry r a) i = .ok (Registry.objectRecord e) := by
  have laid := Registry.laidOut_serialized r
  obtain ⟨below, -⟩ := List.getElem?_eq_some_iff.mp held
  obtain ⟨object, found⟩ := readable i (below.trans_eq laid.addresses_size.symm)
  obtain ⟨fetched, read⟩ := objectAt_eq_ok.mp found
  refine objectAt_eq_ok.mpr ⟨fetched, ?_⟩
  rw [addressOf_ofRegistry held] at read ⊢
  have short : Registry.addressIn r.entries i + 5 < 4294967296 := by
    obtain ⟨_, -, read⟩ := bind_eq_ok.mp read
    obtain ⟨_, -, read⟩ := bind_eq_ok.mp read
    obtain ⟨_, -, read⟩ := bind_eq_ok.mp read
    obtain ⟨_, -, read⟩ := bind_eq_ok.mp read
    obtain ⟨_, -, read⟩ := bind_eq_ok.mp read
    obtain ⟨_, lane, -⟩ := bind_eq_ok.mp read
    obtain ⟨_, added, -⟩ := bind_eq_ok.mp lane
    exact (Word.add_eq_ok.mp added).2
  refine ObjectRecord.read_of_words (n := Registry.recordSize e) (fun k inside => ?_) short
  have whole : k < Registry.recordSize e :=
    inside.trans_le (Nat.le_add_right headerSize _)
  rw [ofRegistry, laid.getElem?_objects held whole, Registry.recordWords,
    List.getElem?_append_left inside]
  rfl

theorem readable_ofRegistry (short : r.serialized.objects.size < 4294967296) :
    Readable (ofRegistry r a) := by
  have laid := Registry.laidOut_serialized r
  intro i below
  have inside : i < r.entries.length := below.trans_eq laid.addresses_size
  have held : r.entries[i]? = some r.entries[i] := List.getElem?_eq_getElem inside
  have fetched : (ofRegistry r a).addresses[i]? = some (addressOf (ofRegistry r a) i) := by
    have inside : i < (ofRegistry r a).addresses.size := below
    rw [addressOf, Array.getElem?_eq_getElem inside]
    rfl
  refine ⟨Registry.objectRecord r.entries[i], objectAt_eq_ok.mpr ⟨fetch_eq_ok.mpr fetched, ?_⟩⟩
  rw [addressOf_ofRegistry held]
  exact (laid.readsBack short held).header

theorem meets_of_contains {bounds : Vec3 ℝ × Vec3 ℝ} (readable : Readable (ofRegistry r a))
    (held : r.entries[i]? = some e) (inside : e.desc.Contains p) (within : Between bounds p) :
    meets (ofRegistry r a) bounds i = true := by
  rw [meets, objectAt_ofRegistry readable held]
  exact touches_of_between within inside.near

theorem mem_listed_of_contains (complete : s.IsComplete a.chunkResolution)
    (readable : Readable (ofRegistry r a)) (held : r.entries[i]? = some e)
    (addressed : r.serialized.addresses[i]? = some address) (inside : e.desc.Contains p)
    (within : Between (a.chunksBounds chunk 1) p)
    (around : Between (a.chunksBounds ((groupOf chunk).map (· * blockSide)) blockSide) p)
    (room : (blockObjects (ofRegistry r a) (groupOf chunk)).length ≤ cacheSize) :
    address ∈ s.listed (ofRegistry r a) chunk := by
  obtain ⟨below, -⟩ := List.getElem?_eq_some_iff.mp held
  have laid := Registry.laidOut_serialized r
  have block : i ∈ blockObjects (ofRegistry r a) (groupOf chunk) :=
    List.mem_filter.mpr ⟨List.mem_range.mpr (below.trans_eq laid.addresses_size.symm),
      meets_of_contains readable held inside around⟩
  refine List.mem_map.mpr ⟨i, ?_, ?_⟩
  · exact (selects complete chunk).all room i block (meets_of_contains readable held inside within)
  · rw [addressOf, ofRegistry, addressed]
    rfl

theorem objectsCount_le (short : r.serialized.objects.size < 4294967296) :
    (ofRegistry r a).constants.objectsCount ≤ 4294967232 := by
  have laid := Registry.laidOut_serialized r
  have records : (r.entries.map Registry.recordSize).length • headerSize ≤
      (r.entries.map Registry.recordSize).sum := by
    apply List.card_nsmul_le_sum
    intro n member
    obtain ⟨e, -, rfl⟩ := List.mem_map.mp member
    exact Nat.le_add_right _ _
  rw [List.length_map, smul_eq_mul, headerSize, ← laid.size] at records
  calc r.serialized.addresses.size
      = r.entries.length := laid.addresses_size
    _ ≤ 4294967232 := by omega

/-- Culling never hides an object from a point in its box: the object is in the list of the point's
chunk, unless more objects touch the block of that chunk than a cache holds, or the list ends past
the capacity. The pass ends if its chunks and the words that they ask for can be counted. -/
theorem lists_objects_around_point (r : Registry A ℝ) (a : AtlasConstants ℝ) (s : Schedule)
    (positive : 0 < a.chunkSize) (counted : 0 < a.chunkResolution)
    (whole : blockSide ∣ a.chunkResolution) (complete : s.IsComplete a.chunkResolution)
    (stale : Vec3 Nat → CullCache) (sized : ∀ group, (stale group).addresses.size = cacheSize)
    (lists : CulledLists)
    (chunks : lists.chunks.size = a.chunkResolution * a.chunkResolution * a.chunkResolution)
    (size : lists.words.size = a.culledCapacity) (cleared : lists.words[0]? = some 0) :
    (∀ after, s.run (ofRegistry r a) stale lists = .ok after → ∀ p, a.Covers p →
      ∀ (i : Nat) (e : RegistryEntry ℝ) (address : Nat), r.entries[i]? = some e →
        e.desc.Contains p →
        r.serialized.addresses[i]? = some address →
          ∃ chunk place, a.chunkCoords p = .ok chunk ∧ a.chunkAddress chunk = .ok place ∧
            (cacheSize < (blockObjects (ofRegistry r a) (groupOf chunk)).length ∨
              (after.chunks[place]? = some 0 ∧ a.culledCapacity <
                s.base (ofRegistry r a) chunk + (s.listed (ofRegistry r a) chunk).length + 1) ∨
              Lists after place address)) ∧
      (r.serialized.objects.size < 4294967296 → a.chunkResolution ≤ 1624 →
        s.asked (ofRegistry r a) s.chunks < 4294967295 →
          ∃ after, s.run (ofRegistry r a) stale lists = .ok after) := by
  constructor
  · intro after ran p covered i e address held inside addressed
    have small : a.chunkResolution ≤ 1624 := small_of_run whole complete ran
    obtain ⟨readable, -⟩ := read_of_run whole counted complete ran
    have leaves : s.Leaves (ofRegistry r a) after :=
      leaves_of_run whole complete counted sized chunks size cleared ran
    obtain ⟨chunk, coords, own, within, around⟩ :=
      AtlasConstants.chunkCoords_of_covers positive counted (by omega) covered
    refine ⟨chunk, placeOf a.chunkResolution chunk, coords, chunkAddress_of_inside own small, ?_⟩
    by_cases crowded : cacheSize < (blockObjects (ofRegistry r a) (groupOf chunk)).length
    · exact .inl crowded
    · right
      apply leaves.lists_or_full own
      exact mem_listed_of_contains complete readable held addressed inside within around
        (Nat.not_lt.mp crowded)
  · intro short small asked
    exact ⟨_, run_eq whole small (objectsCount_le short) complete sized (readable_ofRegistry short)
      chunks size cleared asked⟩

theorem asked_le {α : Type} [Scalar α] (input : CullInput α)
    (complete : s.IsComplete input.constants.chunkResolution) (chunks : List (Vec3 Nat)) :
    s.asked input chunks ≤ chunks.length * (input.constants.objectsCount + 1) := by
  have each : ∀ n ∈ (chunks.map (s.demand input)).map (listSize ·.addresses),
      n ≤ input.constants.objectsCount + 1 := by
    intro n member
    obtain ⟨d, listed, rfl⟩ := List.mem_map.mp member
    obtain ⟨chunk, -, rfl⟩ := List.mem_map.mp listed
    have few : (s.listed input chunk).length ≤ _ := length_listed_le complete chunk
    rw [listSize]
    split
    · exact Nat.zero_le _
    · exact Nat.add_le_add_right few 1
  have total := List.sum_le_card_nsmul _ _ each
  rwa [List.length_map, List.length_map, smul_eq_mul] at total

noncomputable def crate : Registry Unit ℝ where
  allocator := ()
  resolution := 8
  maxObjects := 1
  entries := [⟨3, ⟨.identity, ⟨1, 1, 1⟩, .replicate directionsCount ⟨0, 0⟩⟩, Registry.noTiles⟩]
  dirtyTiles := []
  isDirty := true

noncomputable def ground : AtlasConstants ℝ := ⟨⟨0, 0, 0⟩, 1, 8, 4, 1, 200, false, false⟩

theorem crate_listed_around_view : ∃ after chunk place,
    (inOrder 4).run (ofRegistry crate ground) (fun _ => staleCache)
      ⟨.replicate 64 0, .replicate 200 0⟩ = .ok after ∧
    ground.chunkCoords ⟨0, 0, 0⟩ = .ok chunk ∧ ground.chunkAddress chunk = .ok place ∧
      Lists after place 0 := by
  have complete := inOrder_isComplete 4
  have laid := Registry.laidOut_serialized crate
  have few : (ofRegistry crate ground).constants.objectsCount = 1 := laid.addresses_size
  have covered : ground.Covers ⟨0, 0, 0⟩ := by
    norm_num [AtlasConstants.Covers, ground]
  have inside : (ObjectDesc.mk .identity ⟨1, 1, 1⟩ (.replicate directionsCount ⟨0, 0⟩)).Contains
      ⟨0, 0, 0⟩ := by
    refine ⟨⟨0, 0, 0⟩, by simp, by simp, by simp, ?_⟩
    simp [Affine.point, Affine.vector, Affine.identity, Vec3.add_eq, Vec3.scale_eq]
  have addressed : crate.serialized.addresses[0]? = some 0 := by
    rw [← Array.getElem?_toList, laid.addresses]
    rfl
  have chunks : (inOrder 4).chunks.length = 64 := by decide +kernel
  have asked := asked_le (ofRegistry crate ground) complete (inOrder 4).chunks
  rw [chunks, few] at asked
  obtain ⟨shows, ends⟩ := lists_objects_around_point crate ground (inOrder 4) one_pos (by decide)
    (by decide) complete (fun _ => staleCache) (fun _ => Array.size_replicate)
    ⟨.replicate 64 0, .replicate 200 0⟩ Array.size_replicate Array.size_replicate (by simp)
  obtain ⟨after, ran⟩ := ends (by rw [laid.size]; decide) (by decide) (by omega)
  obtain ⟨chunk, place, coords, placed, crowded | ⟨-, past⟩ | listed⟩ :=
    shows after ran _ covered 0 _ 0 rfl inside addressed
  · have block : (blockObjects (ofRegistry crate ground) (groupOf chunk)).length ≤ 1 := by
      refine (List.length_filter_le _ _).trans ?_
      rw [List.length_range, few]
    rw [cacheSize] at crowded
    omega
  · have earlier : ((inOrder 4).before chunk).length ≤ 64 :=
      (List.length_take_le' _ _).trans_eq chunks
    have base := asked_le (ofRegistry crate ground) complete ((inOrder 4).before chunk)
    have short : ((inOrder 4).listed (ofRegistry crate ground) chunk).length ≤ _ :=
      length_listed_le complete chunk
    rw [Schedule.base] at past
    rw [few] at base short
    have room : 200 < _ := past
    omega
  · exact ⟨after, chunk, place, ran, coords, placed, listed⟩

end Points

end IrradianceField.Culling
