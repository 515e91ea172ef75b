import IrradianceField.Atlas.Culling
import IrradianceField.Proofs.Checked

/-!
Collecting: what the cache of a group holds once its threads have tested all objects. Whatever the
order of the threads, each object is tested once, and those that touch the group's block are counted
and kept while there is room.
-/

namespace IrradianceField.Culling

/-- An order of the threads in each phase. The first two phases concern the memory of a group only;
in the third, where all groups share the lists, their threads may take turns in any way. -/
structure Schedule where
  resets : Vec3 Nat → List Nat
  collects : Vec3 Nat → List Nat
  fills : List (Vec3 Nat × Nat)

structure Schedule.IsComplete (s : Schedule) (chunkResolution : Nat) : Prop where
  resets : ∀ group, (s.resets group).Perm (List.range groupThreads)
  collects : ∀ group, (s.collects group).Perm (List.range groupThreads)
  fills : s.fills.Perm (groups chunkResolution ×ˢ List.range groupThreads)

section Strides

/-- The objects that a thread tests which starts with the `i`-th of `count`. -/
def stride (count i : Nat) : List Nat :=
  if i < count then i :: stride count (i + groupThreads) else []
termination_by count - i
decreasing_by simp only [groupThreads, blockSide]; omega

theorem mem_stride {count i j : Nat} :
    j ∈ stride count i ↔ i ≤ j ∧ j < count ∧ j % groupThreads = i % groupThreads := by
  induction i using stride.induct count with
  | case1 i inside ih =>
      rw [stride, if_pos inside, List.mem_cons, ih]
      simp only [groupThreads, blockSide]
      omega
  | case2 i outside =>
      rw [stride, if_neg outside]
      simp only [List.not_mem_nil, false_iff]
      omega

theorem nodup_stride (count i : Nat) : (stride count i).Nodup := by
  induction i using stride.induct count with
  | case1 i inside ih =>
      rw [stride, if_pos inside]
      refine List.nodup_cons.mpr ⟨fun member => ?_, ih⟩
      have above := (mem_stride.mp member).1
      simp only [groupThreads, blockSide] at above
      omega
  | case2 i outside =>
      rw [stride, if_neg outside]
      exact List.nodup_nil

theorem strides_perm {threads : List Nat} (complete : threads.Perm (List.range groupThreads))
    (count : Nat) : (threads.flatMap (stride count)).Perm (List.range count) := by
  have once : (threads.flatMap (stride count)).Nodup := by
    apply List.nodup_flatMap.mpr
    constructor
    · intro thread _
      exact nodup_stride count thread
    · have below : ∀ thread ∈ threads, thread < groupThreads := fun thread member =>
        List.mem_range.mp (complete.mem_iff.mp member)
      have distinct : threads.Nodup := complete.nodup_iff.mpr List.nodup_range
      refine distinct.imp_of_mem fun {thread other} member member' different i first second => ?_
      have low := below thread member
      have high := below other member'
      have same := (mem_stride.mp first).2.2.symm.trans (mem_stride.mp second).2.2
      rw [Nat.mod_eq_of_lt low, Nat.mod_eq_of_lt high] at same
      exact different same
  apply (List.perm_ext_iff_of_nodup once List.nodup_range).mpr
  intro i
  rw [List.mem_flatMap, List.mem_range]
  constructor
  · rintro ⟨thread, -, member⟩
    exact (mem_stride.mp member).2.1
  · intro inside
    have below : i % groupThreads < groupThreads := Nat.mod_lt i (by decide)
    refine ⟨i % groupThreads, complete.mem_iff.mpr (List.mem_range.mpr below), ?_⟩
    exact mem_stride.mpr ⟨Nat.mod_le i groupThreads, inside, (Nat.mod_mod i groupThreads).symm⟩

end Strides

section Caches

/-- A cache that has been given some addresses: it counts all of them and keeps the first ones. -/
structure Holds (cache : CullCache) (given : List Nat) : Prop where
  count : cache.count = given.length
  size : cache.addresses.size = cacheSize
  kept : cache.addresses.toList.take (min cache.count cacheSize) = given.take cacheSize

variable {cache : CullCache} {given : List Nat}

theorem Holds.push (holds : Holds cache given) (address : Nat)
    (short : given.length + 1 < 4294967296) :
    Holds (CullCache.push cache address) (given ++ [address]) := by
  have next : Word.wrappingAdd cache.count 1 = given.length + 1 := by
    rw [holds.count]
    exact Nat.mod_eq_of_lt short
  have kept := holds.kept
  rw [holds.count] at kept
  by_cases room : given.length < cacheSize
  · have inside : given.length < cache.addresses.toList.length := by
      simpa [holds.size] using room
    rw [Nat.min_eq_left room.le, List.take_of_length_le room.le] at kept
    refine ⟨?_, ?_, ?_⟩
    · simp [CullCache.push, next]
    · simp [CullCache.push, holds.count, room, holds.size]
    · simp only [CullCache.push, holds.count, room, if_true]
      rw [← holds.count, next, Nat.min_eq_left room, holds.count, Array.toList_setIfInBounds,
        List.take_succ_eq_append_getElem (by simpa using inside), List.take_set_of_le le_rfl, kept,
        List.take_of_length_le (by simpa using room)]
      simp
  · have full : cacheSize ≤ given.length := Nat.not_lt.mp room
    rw [Nat.min_eq_right full] at kept
    refine ⟨?_, ?_, ?_⟩
    · simp [CullCache.push, next]
    · simp [CullCache.push, holds.count, room, holds.size]
    · simp only [CullCache.push, holds.count, room, if_false]
      rw [← holds.count, next, Nat.min_eq_right (full.trans (Nat.le_succ _)), kept,
        List.take_append_of_le_length full]

theorem Holds.pushes (holds : Holds cache given) (addresses : List Nat)
    (short : given.length + addresses.length < 4294967296) :
    Holds (addresses.foldl CullCache.push cache) (given ++ addresses) := by
  induction addresses generalizing cache given with
  | nil => simpa using holds
  | cons address rest ih =>
      rw [List.length_cons] at short
      have next := ih (holds.push address (by omega)) (by simp; omega)
      simpa using next

theorem reset_size (threads : List Nat) (cache : CullCache) :
    (threads.foldl (fun cache thread => reset thread cache) cache).addresses =
      cache.addresses := by
  induction threads generalizing cache with
  | nil => rfl
  | cons thread rest ih =>
      rw [List.foldl_cons, ih]
      unfold reset
      split <;> rfl

theorem reset_count (threads : List Nat) (cache : CullCache) :
    (threads.foldl (fun cache thread => reset thread cache) cache).count =
      if 0 ∈ threads then 0 else cache.count := by
  induction threads generalizing cache with
  | nil => simp
  | cons thread rest ih =>
      rw [List.foldl_cons, ih]
      by_cases later : 0 ∈ rest
      · simp [later]
      · by_cases first : thread = 0
        · simp [reset, first]
        · simp [reset, first, later, Ne.symm first]

theorem holds_reset {threads : List Nat} (complete : threads.Perm (List.range groupThreads))
    (sized : cache.addresses.size = cacheSize) :
    Holds (threads.foldl (fun cache thread => reset thread cache) cache) [] := by
  have first : 0 ∈ threads := complete.mem_iff.mpr (List.mem_range.mpr (by decide))
  have clear := reset_count threads cache
  rw [if_pos first] at clear
  exact ⟨clear, by rw [reset_size, sized], by simp [clear]⟩

end Caches

variable {α : Type} [Scalar α]

section Objects

def objectAt (input : CullInput α) (i : Nat) : Except Fault (ObjectRecord α) := do
  ObjectRecord.read input.objects (← fetch input.addresses i)

def Readable (input : CullInput α) : Prop :=
  ∀ i < input.constants.objectsCount, ∃ object, objectAt input i = .ok object

def addressOf (input : CullInput α) (i : Nat) : Nat := input.addresses[i]?.getD 0

def meets (input : CullInput α) (bounds : Vec3 α × Vec3 α) (i : Nat) : Bool :=
  match objectAt input i with
  | .ok object => sphereTouchesBox object.center object.radius bounds.1 bounds.2
  | .error _ => false

def touching (input : CullInput α) (bounds : Vec3 α × Vec3 α) (indices : List Nat) : List Nat :=
  (indices.filter (meets input bounds)).map (addressOf input)

variable {input : CullInput α} {bounds : Vec3 α × Vec3 α} {i : Nat} {object : ObjectRecord α}

theorem objectAt_eq_ok : objectAt input i = .ok object ↔
    fetch input.addresses i = .ok (addressOf input i) ∧
      ObjectRecord.read input.objects (addressOf input i) = .ok object := by
  rw [objectAt, bind_eq_ok]
  constructor
  · rintro ⟨address, held, read⟩
    have same : addressOf input i = address := by rw [addressOf, fetch_eq_ok.mp held]; rfl
    rw [same]
    exact ⟨held, read⟩
  · rintro ⟨held, read⟩
    exact ⟨_, held, read⟩

theorem touches_of_read (read : objectAt input i = .ok object) (bounds : Vec3 α × Vec3 α) :
    touches input (addressOf input i) bounds = .ok (meets input bounds i) := by
  rw [touches, (objectAt_eq_ok.mp read).2, meets, read]
  rfl

theorem collectFrom_eq_ok {cache after : CullCache}
    (few : input.constants.objectsCount ≤ 4294967232) :
    collectFrom input bounds i cache = .ok after ↔
      (∀ j ∈ stride input.constants.objectsCount i, ∃ object, objectAt input j = .ok object) ∧
        after = (touching input bounds (stride input.constants.objectsCount i)).foldl
          CullCache.push cache := by
  induction i using stride.induct input.constants.objectsCount generalizing cache with
  | case1 i inside ih =>
      have next : i + groupThreads < 4294967296 := by
        simp only [groupThreads, blockSide]
        omega
      rw [collectFrom, dif_pos inside, stride, if_pos inside, List.forall_mem_cons]
      constructor
      · intro ran
        obtain ⟨address, held, ran⟩ := bind_eq_ok.mp ran
        obtain ⟨touched, tested, ran⟩ := bind_eq_ok.mp ran
        obtain ⟨object, read, -⟩ := bind_eq_ok.mp tested
        have found : objectAt input i = .ok object := by rw [objectAt, held, ok_bind, read]
        have same : addressOf input i = address := by rw [addressOf, fetch_eq_ok.mp held]; rfl
        rw [if_pos next] at ran
        obtain ⟨others, rfl⟩ := ih.mp ran
        refine ⟨⟨⟨object, found⟩, others⟩, ?_⟩
        have answer := touches_of_read found bounds
        rw [same, tested, Except.ok.injEq] at answer
        rw [answer, touching, touching, List.filter_cons]
        split <;> simp [same]
      · rintro ⟨⟨⟨object, found⟩, others⟩, rfl⟩
        rw [(objectAt_eq_ok.mp found).1, ok_bind, touches_of_read found, ok_bind, if_pos next]
        refine ih.mpr ⟨others, ?_⟩
        rw [touching, touching, List.filter_cons]
        split <;> simp
  | case2 i outside =>
      rw [collectFrom, dif_neg outside, stride, if_neg outside]
      simp [touching, eq_comm]

theorem filterM_touches {indices : List Nat}
    (readable : ∀ i ∈ indices, ∃ object, objectAt input i = .ok object) :
    (indices.map (addressOf input)).filterM (fun address => touches input address bounds) =
      .ok (touching input bounds indices) := by
  have loop : ∀ acc, List.filterAuxM (fun address => touches input address bounds)
      (indices.map (addressOf input)) acc =
        .ok ((touching input bounds indices).reverse ++ acc) := by
    induction indices with
    | nil => exact fun acc => rfl
    | cons i rest ih =>
        intro acc
        obtain ⟨object, found⟩ := readable i List.mem_cons_self
        rw [List.map_cons, List.filterAuxM, touches_of_read found, ok_bind,
          ih (fun j member => readable j (List.mem_cons_of_mem i member)), touching, touching,
          List.filter_cons]
        cases meets input bounds i <;> simp
  rw [List.filterM, loop]
  simp

end Objects

section Groups

variable (s : Schedule) (input : CullInput α) (group : Vec3 Nat)

def blockBounds : Vec3 α × Vec3 α :=
  input.constants.chunksBounds (group.map (· * blockSide)) blockSide
def chunkBounds (chunk : Vec3 Nat) : Vec3 α × Vec3 α := input.constants.chunksBounds chunk 1

def Schedule.gather (cache : CullCache) : Except Fault CullCache :=
  (s.collects group).foldlM (fun cache thread => collect input group thread cache)
    ((s.resets group).foldl (fun cache thread => reset thread cache) cache)

/-- The objects that touch a group's block, in the order in which they are found. -/
def Schedule.found : List Nat :=
  ((s.collects group).flatMap (stride input.constants.objectsCount)).filter
    (meets input (blockBounds input group))

def Schedule.cached : List Nat := (s.found input group).take cacheSize

variable {s input group} {cache after : CullCache}

theorem collects_eq_ok {threads : List Nat} (few : input.constants.objectsCount ≤ 4294967232)
    (lowest : group.mapM (Word.mul · blockSide) = .ok (group.map (· * blockSide))) :
    threads.foldlM (fun cache thread => collect input group thread cache) cache = .ok after ↔
      (∀ i ∈ threads.flatMap (stride input.constants.objectsCount),
        ∃ object, objectAt input i = .ok object) ∧
      after = (touching input (blockBounds input group)
        (threads.flatMap (stride input.constants.objectsCount))).foldl CullCache.push cache := by
  have each : ∀ thread cache after, collect input group thread cache = .ok after ↔
      (∀ j ∈ stride input.constants.objectsCount thread, ∃ object, objectAt input j = .ok object) ∧
        after = (touching input (blockBounds input group)
          (stride input.constants.objectsCount thread)).foldl CullCache.push cache := by
    intro thread cache after
    rw [collect, lowest, ok_bind]
    exact collectFrom_eq_ok few
  induction threads generalizing cache with
  | nil => simp [touching, eq_comm]
  | cons thread rest ih =>
      rw [foldlM_cons_eq_ok, List.flatMap_cons]
      constructor
      · rintro ⟨_, first, ran⟩
        obtain ⟨own, rfl⟩ := (each _ _ _).mp first
        obtain ⟨others, rfl⟩ := ih.mp ran
        refine ⟨fun i member => ?_, by simp [touching]⟩
        rcases List.mem_append.mp member with member | member
        · exact own i member
        · exact others i member
      · rintro ⟨all, rfl⟩
        refine ⟨_, (each _ _ _).mpr ⟨fun i member => all i (List.mem_append_left _ member), rfl⟩,
          ih.mpr ⟨fun i member => all i (List.mem_append_right _ member), by simp [touching]⟩⟩

section Complete

variable {chunkResolution : Nat} (complete : s.IsComplete chunkResolution)
include complete

theorem found_perm : (s.found input group).Perm
    ((List.range input.constants.objectsCount).filter (meets input (blockBounds input group))) :=
  (strides_perm (complete.collects group) _).filter _

theorem nodup_cached : (s.cached input group).Nodup := by
  have once : (s.found input group).Nodup :=
    (found_perm complete).nodup_iff.mpr (List.nodup_range.filter _)
  exact once.sublist (List.take_sublist _ _)

theorem mem_cached {i : Nat} (member : i ∈ s.cached input group) :
    i < input.constants.objectsCount ∧ meets input (blockBounds input group) i = true := by
  have listed := (found_perm complete).mem_iff.mp (List.mem_of_mem_take member)
  rw [List.mem_filter, List.mem_range] at listed
  exact listed

theorem gather_eq_ok (few : input.constants.objectsCount ≤ 4294967232)
    (lowest : group.mapM (Word.mul · blockSide) = .ok (group.map (· * blockSide))) :
    s.gather input group cache = .ok after ↔ Readable input ∧
      after = ((s.found input group).map (addressOf input)).foldl CullCache.push
        ((s.resets group).foldl (fun cache thread => reset thread cache) cache) := by
  have every : (∀ i ∈ (s.collects group).flatMap (stride input.constants.objectsCount),
      ∃ object, objectAt input i = .ok object) ↔ Readable input :=
    forall_congr' fun i => by
      rw [(strides_perm (complete.collects group) _).mem_iff, List.mem_range]
  rw [Schedule.gather, collects_eq_ok few lowest, every]
  rfl

theorem holds_of_gather (few : input.constants.objectsCount ≤ 4294967232)
    (lowest : group.mapM (Word.mul · blockSide) = .ok (group.map (· * blockSide)))
    (sized : cache.addresses.size = cacheSize) (ran : s.gather input group cache = .ok after) :
    Holds after ((s.found input group).map (addressOf input)) := by
  obtain ⟨-, rfl⟩ := (gather_eq_ok complete few lowest).mp ran
  have bound : (s.found input group).length ≤ input.constants.objectsCount := by
    rw [(found_perm complete).length_eq]
    exact (List.length_filter_le _ _).trans_eq List.length_range
  have holds := (holds_reset (complete.resets group) sized).pushes
    ((s.found input group).map (addressOf input)) (by simp; omega)
  simpa using holds

end Complete

theorem survivors_of_holds (chunk : Vec3 Nat)
    (holds : Holds cache ((s.found input group).map (addressOf input)))
    (readable : ∀ i ∈ s.cached input group, ∃ object, objectAt input i = .ok object) :
    survivors input chunk cache =
      .ok (touching input (chunkBounds input chunk) (s.cached input group)) := by
  have kept : cache.addresses.toList.take (min cache.count cacheSize) =
      (s.cached input group).map (addressOf input) := by
    rw [holds.kept, Schedule.cached, List.map_take]
  rw [survivors]
  simp only [kept]
  exact filterM_touches readable

end Groups

end IrradianceField.Culling
