import IrradianceField.Proofs.Collecting

/-!
Allotting: how the threads of culling share out the words of the lists. The first word counts what
has been asked for, so that each list gets a range of its own, in the order of the threads; a range
that ends past the capacity is never written.
-/

namespace IrradianceField.Culling

/-- What a thread asks for: the place of its chunk, and the addresses to be listed there. -/
structure Demand where
  place : Nat
  addresses : List Nat

/-- Words of a list, with its length in front; an empty one takes none. -/
def listSize (addresses : List Nat) : Nat :=
  if addresses = [] then 0 else addresses.length + 1

def demanded (demands : List Demand) : Nat := (demands.map (listSize ·.addresses)).sum

/-- Whether there is a list at all, and room for it once so many words are used. -/
def Fits (capacity used : Nat) (addresses : List Nat) : Prop :=
  addresses ≠ [] ∧ used + 1 + addresses.length < capacity

instance {capacity used : Nat} {addresses : List Nat} : Decidable (Fits capacity used addresses) :=
  inferInstanceAs (Decidable (_ ∧ _))

def copy (words : Array Nat) (base : Nat) : List Nat → Array Nat
  | [] => words
  | value :: rest => copy (words.setIfInBounds base value) (base + 1) rest

def usedWords (lists : CulledLists) : Nat := lists.words[0]?.getD 0

def allot (capacity : Nat) (lists : CulledLists) (d : Demand) : CulledLists where
  chunks := lists.chunks.setIfInBounds d.place
    (if Fits capacity (usedWords lists) d.addresses then usedWords lists + 1 else 0)
  words :=
    let words := lists.words.setIfInBounds 0 (usedWords lists + listSize d.addresses)
    if Fits capacity (usedWords lists) d.addresses then
      copy words (usedWords lists + 1) (d.addresses.length :: d.addresses)
    else words

section Copies

variable {words : Array Nat} {base : Nat} {values : List Nat}

theorem foldlM_store (words : Array Nat) (base : Nat) (values : List Nat) (start : Nat)
    (room : base + start + values.length ≤ words.size) :
    (values.zipIdx start).foldlM (fun words (value, i) => store words (base + i) value) words =
      .ok (copy words (base + start) values) := by
  induction values generalizing start words with
  | nil => rfl
  | cons value rest ih =>
      rw [List.length_cons] at room
      rw [List.zipIdx_cons, List.foldlM_cons]
      simp only [store_of_lt (show base + start < words.size by omega), ok_bind]
      exact ih (words.setIfInBounds (base + start) value) (start + 1) (by simp; omega)

theorem size_copy : (copy words base values).size = words.size := by
  induction values generalizing words base with
  | nil => rfl
  | cons value rest ih => rw [copy, ih, Array.size_setIfInBounds]

theorem getElem?_copy (room : base + values.length ≤ words.size) (i : Nat) :
    (copy words base values)[i]? =
      if base ≤ i ∧ i < base + values.length then values[i - base]? else words[i]? := by
  induction values generalizing words base with
  | nil =>
      rw [if_neg (by simp)]
      rfl
  | cons value rest ih =>
      rw [List.length_cons] at room
      rw [copy, ih (by simp; omega), List.length_cons]
      rcases Nat.lt_trichotomy i base with below | here | above
      · rw [if_neg (by omega), if_neg (by omega), Array.getElem?_setIfInBounds_ne (by omega)]
      · rw [if_neg (by omega), if_pos (by omega), here,
          Array.getElem?_setIfInBounds_self_of_lt (by omega), Nat.sub_self]
        rfl
      · have further : i - base = i - (base + 1) + 1 := by omega
        rw [Array.getElem?_setIfInBounds_ne (by omega), further, List.getElem?_cons_succ]
        by_cases inside : i < base + (rest.length + 1)
        · rw [if_pos (by omega), if_pos (by omega)]
        · rw [if_neg (by omega), if_neg (by omega)]

end Copies

section Fields

variable {capacity : Nat} {lists : CulledLists} {d : Demand}

@[simp] theorem size_allot_chunks : (allot capacity lists d).chunks.size = lists.chunks.size :=
  Array.size_setIfInBounds

@[simp] theorem size_allot_words : (allot capacity lists d).words.size = lists.words.size := by
  simp only [allot]
  split
  · rw [size_copy, Array.size_setIfInBounds]
  · exact Array.size_setIfInBounds

theorem getElem?_allot (capacity_eq : lists.words.size = capacity) (counted : 0 < capacity)
    (i : Nat) :
    (allot capacity lists d).words[i]? =
      if i = 0 then some (usedWords lists + listSize d.addresses)
      else if Fits capacity (usedWords lists) d.addresses ∧ usedWords lists + 1 ≤ i ∧
        i ≤ usedWords lists + 1 + d.addresses.length then
          (d.addresses.length :: d.addresses)[i - (usedWords lists + 1)]?
      else lists.words[i]? := by
  have first : (lists.words.setIfInBounds 0 (usedWords lists + listSize d.addresses))[i]? =
      if i = 0 then some (usedWords lists + listSize d.addresses) else lists.words[i]? := by
    by_cases zero : i = 0
    · rw [if_pos zero, zero, Array.getElem?_setIfInBounds_self_of_lt (by omega)]
    · rw [if_neg zero, Array.getElem?_setIfInBounds_ne (Ne.symm zero)]
  simp only [allot]
  by_cases fits : Fits capacity (usedWords lists) d.addresses
  · have room := fits.2
    rw [if_pos fits, getElem?_copy (by simp; omega), first, List.length_cons]
    by_cases inside : usedWords lists + 1 ≤ i ∧ i ≤ usedWords lists + 1 + d.addresses.length
    · rw [if_pos (by omega), if_neg (by omega), if_pos ⟨fits, inside⟩]
    · rw [if_neg (by omega)]
      by_cases zero : i = 0
      · rw [if_pos zero, if_pos zero]
      · rw [if_neg zero, if_neg zero, if_neg fun all => inside all.2]
  · rw [if_neg fits, first]
    by_cases zero : i = 0
    · rw [if_pos zero, if_pos zero]
    · rw [if_neg zero, if_neg zero, if_neg fun all => fits all.1]

theorem foldl_allot_words (capacity : Nat) (lists : CulledLists) (demands : List Demand)
    (chunks : Array Nat) :
    (demands.foldl (allot capacity) ⟨chunks, lists.words⟩).words =
      (demands.foldl (allot capacity) lists).words := by
  induction demands generalizing lists chunks with
  | nil => rfl
  | cons d rest ih => exact ih (allot capacity lists d) _

end Fields

section Runs

/-- The lists after some demands: each demand has a range of words of its own, from the number of
words asked for before it on, and has got it if it ends within the capacity. -/
structure Allotted (capacity : Nat) (start : CulledLists) (done : List Demand)
    (lists : CulledLists) : Prop where
  chunks : lists.chunks.size = start.chunks.size
  words : lists.words.size = capacity
  used : lists.words[0]? = some (demanded done)
  entry : ∀ earlier d later, done = earlier ++ d :: later → d.place < start.chunks.size →
    lists.chunks[d.place]? =
      some (if Fits capacity (demanded earlier) d.addresses then demanded earlier + 1 else 0)
  list : ∀ earlier d later, done = earlier ++ d :: later →
    Fits capacity (demanded earlier) d.addresses → ∀ k ≤ d.addresses.length,
      lists.words[demanded earlier + 1 + k]? = (d.addresses.length :: d.addresses)[k]?

variable {capacity : Nat} {start lists : CulledLists} {done demands : List Demand}

@[simp] theorem demanded_append (first second : List Demand) :
    demanded (first ++ second) = demanded first + demanded second := by
  simp [demanded]

@[simp] theorem demanded_singleton (d : Demand) : demanded [d] = listSize d.addresses := by
  simp [demanded]

theorem Allotted.usedWords_eq (allotted : Allotted capacity start done lists) :
    usedWords lists = demanded done := by
  rw [usedWords, allotted.used]
  rfl

theorem Allotted.step (allotted : Allotted capacity start done lists) {d : Demand}
    (counted : 0 < capacity) (fresh : ∀ e ∈ done, e.place ≠ d.place) :
    Allotted capacity start (done ++ [d]) (allot capacity lists d) := by
  have used := allotted.usedWords_eq
  have held := getElem?_allot (d := d) allotted.words counted
  rw [used] at held
  refine ⟨?_, ?_, ?_, ?_, ?_⟩
  · rw [size_allot_chunks, allotted.chunks]
  · rw [size_allot_words, allotted.words]
  · rw [held, if_pos rfl, demanded_append, demanded_singleton]
  · intro earlier e later split inside
    rcases List.eq_nil_or_concat later with rfl | ⟨later, last, rfl⟩
    · obtain ⟨rfl, same⟩ := List.append_inj' split rfl
      obtain rfl : d = e := (List.cons.inj same).1
      simp only [allot, used]
      exact Array.getElem?_setIfInBounds_self_of_lt (by rw [allotted.chunks]; exact inside)
    · have shifted : done ++ [d] = (earlier ++ e :: later) ++ [last] := by simpa using split
      obtain ⟨before, -⟩ := List.append_inj' shifted rfl
      have other : d.place ≠ e.place := (fresh e (by rw [before]; simp)).symm
      simp only [allot]
      rw [Array.getElem?_setIfInBounds_ne other]
      exact allotted.entry earlier e later before inside
  · intro earlier e later split fits k short
    rw [held, if_neg (by omega)]
    rcases List.eq_nil_or_concat later with rfl | ⟨later, last, rfl⟩
    · obtain ⟨rfl, same⟩ := List.append_inj' split rfl
      obtain rfl : d = e := (List.cons.inj same).1
      rw [if_pos ⟨fits, by omega, by omega⟩, Nat.add_sub_cancel_left]
    · have shifted : done ++ [d] = (earlier ++ e :: later) ++ [last] := by simpa using split
      obtain ⟨before, -⟩ := List.append_inj' shifted rfl
      -- The new range begins where all earlier ones have ended.
      have size : listSize e.addresses = e.addresses.length + 1 := if_neg fits.1
      have total : demanded done =
          demanded earlier + (listSize e.addresses + demanded later) := by
        rw [before, List.append_cons, demanded_append, demanded_append, demanded_singleton,
          Nat.add_assoc]
      rw [if_neg (by omega)]
      exact allotted.list earlier e later before fits k short

theorem allotted_foldl (counted : start.words[0]? = some 0) (size : start.words.size = capacity)
    (distinct : (demands.map Demand.place).Nodup) :
    Allotted capacity start demands (demands.foldl (allot capacity) start) := by
  have positive : 0 < capacity := size ▸ (Array.getElem?_eq_some_iff.mp counted).1
  induction demands using List.reverseRecOn with
  | nil => exact ⟨rfl, size, counted, by simp, by simp⟩
  | append_singleton done d ih =>
      rw [List.map_append, List.nodup_append] at distinct
      rw [List.foldl_append]
      refine (ih distinct.1).step positive fun e member => ?_
      exact distinct.2.2 e.place (List.mem_map_of_mem member) d.place (by simp)

end Runs

section Threads

variable {α : Type} [Scalar α] {input : CullInput α} {cache : CullCache} {chunk : Vec3 Nat}
  {lists : CulledLists} {d : Demand}

theorem fillChunk_eq (inside : chunk.x < input.constants.chunkResolution ∧
      chunk.y < input.constants.chunkResolution ∧ chunk.z < input.constants.chunkResolution)
    (found : survivors input chunk cache = .ok d.addresses)
    (placed : input.constants.chunkAddress chunk = .ok d.place)
    (within : d.place < lists.chunks.size) (counted : 0 < lists.words.size)
    (size : lists.words.size = input.constants.culledCapacity)
    (words : usedWords lists + listSize d.addresses < 4294967295) :
    fillChunk input cache chunk lists =
      .ok (allot input.constants.culledCapacity lists d) := by
  obtain ⟨hx, hy, hz⟩ := inside
  have used : fetch lists.words 0 = .ok (usedWords lists) := by
    rw [fetch_eq_ok, usedWords, Array.getElem?_eq_getElem counted]
    rfl
  rw [fillChunk]
  simp only [decide_eq_false (Nat.not_le.mpr hx), decide_eq_false (Nat.not_le.mpr hy),
    decide_eq_false (Nat.not_le.mpr hz), Bool.or_false, Bool.false_eq_true, if_false, found, placed,
    ok_bind]
  by_cases empty : d.addresses = []
  · have unfit : ¬Fits input.constants.culledCapacity (usedWords lists) d.addresses :=
      fun fits => fits.1 empty
    have same : lists.words.setIfInBounds 0 (usedWords lists) = lists.words := by
      refine Array.ext_getElem? fun i => ?_
      by_cases zero : i = 0
      · rw [zero, Array.getElem?_setIfInBounds_self_of_lt counted, fetch_eq_ok.mp used]
      · rw [Array.getElem?_setIfInBounds_ne (Ne.symm zero)]
    simp [empty, store_of_lt within, allot, Fits, listSize, same]
  · have size' : listSize d.addresses = d.addresses.length + 1 := if_neg empty
    rw [size'] at words
    have sum : Word.wrappingAdd (usedWords lists) (d.addresses.length + 1) =
        usedWords lists + (d.addresses.length + 1) := Nat.mod_eq_of_lt (by omega)
    have base : Word.add 1 (usedWords lists) = .ok (usedWords lists + 1) :=
      Word.add_eq_ok.mpr ⟨by omega, by omega⟩
    have middle : Word.add (usedWords lists + 1) d.addresses.length =
        .ok (usedWords lists + 1 + d.addresses.length) := Word.add_eq_ok.mpr ⟨rfl, by omega⟩
    have last : Word.add (usedWords lists + 1 + d.addresses.length) 1 =
        .ok (usedWords lists + 1 + d.addresses.length + 1) := Word.add_eq_ok.mpr ⟨rfl, by omega⟩
    simp only [if_neg (mt List.length_eq_zero_iff.mp empty), used, ok_bind, sum,
      store_of_lt counted, base, middle, last, allot, size', store_of_lt within]
    by_cases fits : Fits input.constants.culledCapacity (usedWords lists) d.addresses
    · have room := fits.2
      rw [if_neg (by omega), if_pos fits, if_pos fits]
      have copied := foldlM_store
        (lists.words.setIfInBounds 0 (usedWords lists + (d.addresses.length + 1)))
        (usedWords lists + 1) (d.addresses.length :: d.addresses) 0 (by simp; omega)
      rw [copied]
      rfl
    · rw [if_pos (Nat.lt_succ_of_le (Nat.not_lt.mp fun room => fits ⟨empty, room⟩)),
        if_neg fits, if_neg fits]
      rfl

end Threads

end IrradianceField.Culling
