import IrradianceField.Proofs.Registering
import IrradianceField.Scalar.Rational

/-!
Serializing: the records of the registry are laid out one after the other, and the kernels read from
them what the registry has put there.
-/

namespace IrradianceField

section Blocks

variable {β γ : Type} {f : β → List γ} {size : Nat} {l : List β}

theorem length_flatMap_block (block : ∀ b ∈ l, (f b).length = size) :
    (l.flatMap f).length = size * l.length := by
  induction l with
  | nil => simp
  | cons b rest ih =>
      rw [List.flatMap_cons, List.length_append, block b List.mem_cons_self,
        ih fun c member => block c (List.mem_cons_of_mem _ member), List.length_cons]
      ring

theorem length_flatMap_le (block : ∀ b ∈ l, (f b).length ≤ size) :
    (l.flatMap f).length ≤ size * l.length := by
  induction l with
  | nil => exact Nat.zero_le _
  | cons b rest ih =>
      rw [List.flatMap_cons, List.length_append, List.length_cons]
      calc (f b).length + (rest.flatMap f).length
          ≤ size + size * rest.length := Nat.add_le_add (block b List.mem_cons_self)
            (ih fun c member => block c (List.mem_cons_of_mem _ member))
        _ = size * (rest.length + 1) := by ring

theorem getElem?_flatMap_block (block : ∀ b ∈ l, (f b).length = size) {i k : Nat} {b : β}
    (held : l[i]? = some b) (inside : k < size) :
    (l.flatMap f)[size * i + k]? = (f b)[k]? := by
  induction l generalizing i with
  | nil => simp at held
  | cons c rest ih =>
      have first := block c List.mem_cons_self
      rw [List.flatMap_cons]
      cases i with
      | zero =>
          obtain rfl : c = b := by simpa using held
          rw [Nat.mul_zero, Nat.zero_add, List.getElem?_append_left (first ▸ inside)]
      | succ i =>
          rw [List.getElem?_append_right (by rw [first, Nat.mul_succ]; omega), first]
          have shifted : size * (i + 1) + k - size = size * i + k := by
            rw [Nat.mul_succ]
            omega
          rw [shifted]
          exact ih (fun d member => block d (List.mem_cons_of_mem _ member)) held

end Blocks

variable {A α : Type}

section Words

variable [Scalar α]

@[simp] theorem length_objectWords (o : ObjectRecord α) (n : Nat) : (o.words n).length = 6 := rfl

@[simp] theorem length_tileWords (t : TileRecord α) : t.words.length = 5 := rfl

variable {buffer : Array (RecordWord α)} {address : Nat}

theorem ObjectRecord.read_of_words {o : ObjectRecord α} {n : Nat}
    (held : ∀ k < 6, buffer[address + k]? = (o.words n)[k]?) (short : address + 5 < 4294967296) :
    ObjectRecord.read buffer address = .ok o := by
  have lane : ∀ k < 6, ∀ word, (o.words n)[k]? = some word →
      (do fetch buffer (← Word.add address k)) = Except.ok word := by
    intro k inside word same
    rw [Word.add_eq_ok.mpr ⟨rfl, by omega⟩, ok_bind, fetch_eq_ok, held k inside, same]
  rw [ObjectRecord.read]
  simp only [lane 0 (by decide) _ rfl, lane 1 (by decide) _ rfl, lane 2 (by decide) _ rfl,
    lane 3 (by decide) _ rfl, lane 4 (by decide) _ rfl, lane 5 (by decide) _ rfl, ok_bind]
  rfl

theorem TileRecord.read_of_words {t : TileRecord α}
    (held : ∀ k < 5, buffer[address + k]? = t.words[k]?) (short : address + 4 < 4294967296) :
    TileRecord.read buffer address = .ok t := by
  have lane : ∀ k < 5, ∀ word, t.words[k]? = some word →
      (do return (← fetch buffer (← Word.add address k)).toScalars) = Except.ok word.toScalars := by
    intro k inside word same
    have found : fetch buffer (address + k) = .ok word := by
      rw [fetch_eq_ok, held k inside, same]
    rw [Word.add_eq_ok.mpr ⟨rfl, by omega⟩, ok_bind, found]
    rfl
  rw [TileRecord.read]
  simp only [lane 0 (by decide) _ rfl, lane 1 (by decide) _ rfl, lane 2 (by decide) _ rfl,
    lane 3 (by decide) _ rfl, lane 4 (by decide) _ rfl, ok_bind]
  rfl

end Words

namespace Registry

section Offsets

variable {e : RegistryEntry α} {dir i : Nat} {tile : Allocation}

theorem mem_heldTiles : (dir, tile) ∈ heldTiles e ↔ tileIn e.tiles dir = some tile := by
  rw [heldTiles, List.mem_filterMap]
  constructor
  · rintro ⟨other, -, held⟩
    obtain ⟨tile', found, same⟩ := Option.map_eq_some_iff.mp held
    obtain ⟨rfl, rfl⟩ := Prod.mk.inj same
    exact found
  · intro found
    exact ⟨dir, List.mem_range.mpr (lt_of_tileIn found),
      Option.map_eq_some_iff.mpr ⟨tile, found, rfl⟩⟩

theorem map_fst_heldTiles (e : RegistryEntry α) :
    (heldTiles e).map Prod.fst = heldDirections e.tiles := by
  have each : ∀ dir : Nat, ((e.tiles[dir]?.getD none).map (dir, ·)).map Prod.fst =
      Option.guard (fun dir => (e.tiles[dir]?.getD none).isSome) dir := by
    intro dir
    cases held : e.tiles[dir]?.getD none with
    | none => simp [Option.guard, held]
    | some tile => simp [Option.guard, held]
  rw [heldTiles, List.map_filterMap, heldDirections, ← List.filterMap_eq_filter]
  exact List.filterMap_congr fun dir _ => each dir

theorem nodup_heldTiles (e : RegistryEntry α) : ((heldTiles e).map Prod.fst).Nodup := by
  rw [map_fst_heldTiles]
  exact List.nodup_range.filter _

theorem length_heldTiles (e : RegistryEntry α) :
    (heldTiles e).length = (heldDirections e.tiles).length := by
  rw [← map_fst_heldTiles, List.length_map]

theorem length_heldTiles_le (e : RegistryEntry α) : (heldTiles e).length ≤ 6 :=
  (List.length_filterMap_le _ _).trans_eq List.length_range

theorem foldl_offsets_of_notMem (l : List (Nat × Allocation)) (n : Nat)
    (offsets : Vector Nat directionsCount) (other : dir ∉ l.map Prod.fst) :
    ((l.zipIdx n).foldl (fun offsets ((dir, _), i) =>
      offsets.setIfInBounds dir (tileOffsetOf i)) offsets)[dir]? = offsets[dir]? := by
  induction l generalizing n offsets with
  | nil => rfl
  | cons held rest ih =>
      rw [List.map_cons, List.mem_cons, not_or] at other
      rw [List.zipIdx_cons, List.foldl_cons, ih _ _ other.2, Vector.getElem?_setIfInBounds,
        if_neg (Ne.symm other.1)]

theorem foldl_offsets_of_getElem? (l : List (Nat × Allocation)) (n : Nat)
    (offsets : Vector Nat directionsCount) (once : (l.map Prod.fst).Nodup)
    (inside : dir < directionsCount) (held : l[i]? = some (dir, tile)) :
    ((l.zipIdx n).foldl (fun offsets ((dir, _), i) =>
      offsets.setIfInBounds dir (tileOffsetOf i)) offsets)[dir]? = some (tileOffsetOf (n + i)) := by
  induction l generalizing n i offsets with
  | nil => simp at held
  | cons first rest ih =>
      rw [List.map_cons, List.nodup_cons] at once
      rw [List.zipIdx_cons, List.foldl_cons]
      cases i with
      | zero =>
          obtain rfl : first = (dir, tile) := by simpa using held
          rw [foldl_offsets_of_notMem _ _ _ once.1, Vector.getElem?_setIfInBounds, if_pos rfl,
            if_pos inside, Nat.add_zero]
      | succ i =>
          rw [ih _ _ once.2 held, Nat.add_assoc, Nat.add_comm 1 i]

def offsetOf (e : RegistryEntry α) (dir : Nat) : Nat := (tileOffsets e)[dir]?.getD 0

theorem offsetOf_eq (held : (heldTiles e)[i]? = some (dir, tile)) :
    offsetOf e dir = tileOffsetOf i := by
  have inside := lt_of_tileIn (mem_heldTiles.mp (List.mem_of_getElem? held))
  rw [offsetOf, tileOffsets, foldl_offsets_of_getElem? _ _ _ (nodup_heldTiles e) inside held,
    Nat.zero_add]
  rfl

theorem offsetOf_eq_zero (free : tileIn e.tiles dir = none) : offsetOf e dir = 0 := by
  have other : dir ∉ (heldTiles e).map Prod.fst := by
    rw [map_fst_heldTiles, mem_heldDirections, free]
    exact Bool.false_ne_true
  rw [offsetOf, tileOffsets, foldl_offsets_of_notMem _ _ _ other, Vector.getElem?_replicate]
  split <;> rfl

theorem offsetOf_lt (e : RegistryEntry α) (dir : Nat) : offsetOf e dir < 65536 := by
  cases held : tileIn e.tiles dir with
  | none =>
      rw [offsetOf_eq_zero held]
      decide
  | some tile =>
      obtain ⟨i, found⟩ := List.getElem?_of_mem (mem_heldTiles.mpr held)
      have below := (List.getElem?_eq_some_iff.mp found).1
      have few := length_heldTiles_le e
      rw [offsetOf_eq found, tileOffsetOf, headerSize, tileSize]
      omega

theorem halves_ofHalves {lo hi : Nat} (hlo : lo < 65536) (hhi : hi < 65536) :
    Word.halves (Word.ofHalves lo hi) = (lo, hi) := by
  rw [Word.halves_ofHalves, Nat.mod_eq_of_lt hlo, Nat.mod_eq_of_lt hhi]

theorem tileOffset_objectRecord [Scalar α] (inside : dir < directionsCount) :
    (objectRecord e).tileOffset dir = offsetOf e dir := by
  have each : ∀ dir (h : dir < directionsCount), (tileOffsets e)[dir] = offsetOf e dir := by
    intro dir h
    rw [offsetOf, Vector.getElem?_eq_getElem h]
    rfl
  have bound := offsetOf_lt e
  rw [directionsCount] at inside
  rw [ObjectRecord.tileOffset, objectRecord, ObjectRecord.packOffsets]
  simp only [each]
  interval_cases dir <;> simp [Vec3.axis, halves_ofHalves, bound]

end Offsets

section Layout

def recordSize (e : RegistryEntry α) : Nat := tileOffsetOf (heldTiles e).length
def addressIn (entries : List (RegistryEntry α)) (i : Nat) : Nat :=
  ((entries.take i).map recordSize).sum

variable [Scalar α]

def tileAddresses (address : Nat) (e : RegistryEntry α) : List Nat :=
  (heldDirections e.tiles).map fun dir => address + (objectRecord e).tileOffset dir

variable {entries : List (RegistryEntry α)} {e : RegistryEntry α} {dir i j k resolution : Nat}
  {tile : Allocation} {out : SerializedAtlas α}

theorem length_recordWords : (recordWords resolution e).length = recordSize e := by
  have block : ∀ held ∈ heldTiles e,
      (tileRecord resolution e.desc held.1 held.2.rect.origin).words.length = tileSize :=
    fun _ _ => rfl
  rw [recordWords, List.length_append, length_flatMap_block block]
  rfl

theorem length_flatMap_recordWords : (entries.flatMap (recordWords resolution)).length =
    (entries.map recordSize).sum := by
  rw [List.length_flatMap]
  simp [length_recordWords]

omit [Scalar α] in
theorem addressIn_append_of_le (inside : i ≤ entries.length) :
    addressIn (entries ++ [e]) i = addressIn entries i := by
  rw [addressIn, List.take_append_of_le_length inside, addressIn]

omit [Scalar α] in
theorem addressIn_length : addressIn entries entries.length = (entries.map recordSize).sum := by
  rw [addressIn, List.take_length]

theorem tileAddresses_eq (address : Nat) (e : RegistryEntry α) : tileAddresses address e =
    (List.range (heldTiles e).length).map (address + tileOffsetOf ·) := by
  rw [tileAddresses, ← map_fst_heldTiles, List.map_map]
  refine List.ext_getElem (by simp) fun i inside _ => ?_
  rw [List.length_map] at inside
  have held : (heldTiles e)[i]? = some ((heldTiles e)[i].1, (heldTiles e)[i].2) :=
    List.getElem?_eq_getElem inside
  have below := lt_of_tileIn (mem_heldTiles.mp (List.mem_of_getElem? held))
  simp [tileOffset_objectRecord below, offsetOf_eq held]

/-- The buffers after some objects: their records one after the other, where each of these and of
their tiles begins, and the largest side of a tile. -/
structure LaidOut (resolution : Nat) (entries : List (RegistryEntry α)) (out : SerializedAtlas α) :
    Prop where
  objects : out.objects.toList = entries.flatMap (recordWords resolution)
  addresses : out.addresses.toList = (List.range entries.length).map (addressIn entries)
  tiles : out.tiles.toList =
    entries.zipIdx.flatMap fun placed => tileAddresses (addressIn entries placed.2) placed.1
  below : ∀ address ∈ out.tiles.toList, address < out.objects.size
  once : out.tiles.toList.Nodup
  above : ∀ e ∈ entries, ∀ dir tile, tileIn e.tiles dir = some tile →
    max (e.desc.tileSize dir).x (e.desc.tileSize dir).y ≤ out.maxTileSize
  reached : out.maxTileSize = 0 ∨ ∃ e ∈ entries, ∃ dir tile, tileIn e.tiles dir = some tile ∧
    out.maxTileSize = max (e.desc.tileSize dir).x (e.desc.tileSize dir).y

omit [Scalar α] in
theorem foldl_max {β : Type} (f : β → Nat) (l : List β) (a : Nat) :
    a ≤ l.foldl (fun a b => max a (f b)) a ∧ (∀ b ∈ l, f b ≤ l.foldl (fun a b => max a (f b)) a) ∧
      (l.foldl (fun a b => max a (f b)) a = a ∨
        ∃ b ∈ l, l.foldl (fun a b => max a (f b)) a = f b) := by
  induction l generalizing a with
  | nil => simp
  | cons b rest ih =>
      obtain ⟨start, above, reached⟩ := ih (max a (f b))
      rw [List.foldl_cons]
      refine ⟨le_trans (le_max_left _ _) start, fun c member => ?_, ?_⟩
      · rcases List.mem_cons.mp member with rfl | member
        · exact le_trans (le_max_right _ _) start
        · exact above c member
      · rcases reached with same | ⟨c, member, same⟩
        · rw [same]
          rcases max_choice a (f b) with same | same
          · exact .inl same
          · exact .inr ⟨b, List.mem_cons_self, same⟩
        · exact .inr ⟨c, List.mem_cons_of_mem _ member, same⟩

theorem LaidOut.size (laid : LaidOut resolution entries out) :
    out.objects.size = (entries.map recordSize).sum := by
  rw [← Array.length_toList, laid.objects, length_flatMap_recordWords]

theorem LaidOut.step (laid : LaidOut resolution entries out) (e : RegistryEntry α) :
    LaidOut resolution (entries ++ [e]) (serializeEntry resolution out e) := by
  have address : out.objects.size = addressIn entries entries.length := by
    rw [laid.size, addressIn_length]
  have own : addressIn (entries ++ [e]) entries.length = out.objects.size := by
    rw [address, addressIn_append_of_le le_rfl]
  have tiles : (serializeEntry resolution out e).tiles.toList =
      out.tiles.toList ++ tileAddresses out.objects.size e := by
    rw [tileAddresses_eq]
    exact Array.toList_append
  obtain ⟨start, above, reached⟩ := foldl_max (fun held : Nat × Allocation =>
    max (e.desc.tileSize held.1).x (e.desc.tileSize held.1).y) (heldTiles e) out.maxTileSize
  refine ⟨?_, ?_, ?_, ?_, ?_, ?_, ?_⟩
  · rw [List.flatMap_append, List.flatMap_singleton, ← laid.objects]
    exact Array.toList_append
  · rw [List.length_append, List.length_singleton, List.range_succ, List.map_append,
      List.map_singleton, own]
    refine Array.toList_push.trans (congrArg (· ++ _) (laid.addresses.trans ?_))
    exact List.map_congr_left fun i inside =>
      (addressIn_append_of_le (List.mem_range.mp inside).le).symm
  · rw [tiles, laid.tiles, List.zipIdx_append, List.flatMap_append]
    congr 1
    · refine List.flatMap_congr fun placed listed => ?_
      rw [addressIn_append_of_le (List.snd_lt_of_mem_zipIdx listed).le]
    · simp [own]
  · intro address listed
    have size : (serializeEntry resolution out e).objects.size =
        out.objects.size + recordSize e := by
      simp [serializeEntry, length_recordWords]
    rw [tiles, tileAddresses_eq] at listed
    rw [size]
    rcases List.mem_append.mp listed with listed | added
    · exact (laid.below address listed).trans_le (Nat.le_add_right _ _)
    · obtain ⟨i, inside, rfl⟩ := List.mem_map.mp added
      have short := List.mem_range.mp inside
      simp only [recordSize, tileOffsetOf, tileSize]
      omega
  · rw [tiles]
    refine List.nodup_append.mpr ⟨laid.once, ?_, fun address listed other member => ?_⟩
    · rw [tileAddresses_eq]
      refine List.nodup_range.map fun i j same => ?_
      simp only [tileOffsetOf, tileSize] at same
      omega
    · rw [tileAddresses_eq] at member
      obtain ⟨i, -, rfl⟩ := List.mem_map.mp member
      have below := laid.below address listed
      omega
  · intro other member dir tile held
    rcases List.mem_append.mp member with member | own
    · exact (laid.above other member dir tile held).trans start
    · obtain rfl := List.mem_singleton.mp own
      exact above (dir, tile) (mem_heldTiles.mpr held)
  · rcases reached with same | ⟨⟨dir, tile⟩, held, same⟩
    · rcases laid.reached with zero | ⟨other, member, dir, tile, held, same'⟩
      · exact .inl (same.trans zero)
      · exact .inr ⟨other, List.mem_append_left _ member, dir, tile, held, same.trans same'⟩
    · exact .inr ⟨e, by simp, dir, tile, mem_heldTiles.mp held, same⟩

theorem laidOut_serialized (r : Registry A α) : LaidOut r.resolution r.entries r.serialized := by
  rw [serialized]
  induction r.entries using List.reverseRecOn with
  | nil => exact ⟨rfl, rfl, rfl, by simp, List.nodup_nil, by simp, .inl rfl⟩
  | append_singleton entries e ih =>
      rw [List.foldl_append]
      exact ih.step e

end Layout

section Reading

variable [Scalar α] {entries : List (RegistryEntry α)} {e : RegistryEntry α}
  {dir i j k resolution : Nat} {tile : Allocation} {out : SerializedAtlas α}

omit [Scalar α] in
theorem split_of_getElem? (held : entries[i]? = some e) :
    entries = entries.take i ++ e :: entries.drop (i + 1) := by
  obtain ⟨short, same⟩ := List.getElem?_eq_some_iff.mp held
  rw [← same, ← List.drop_eq_getElem_cons short, List.take_append_drop]

theorem LaidOut.getElem?_objects (laid : LaidOut resolution entries out)
    (held : entries[i]? = some e) (inside : k < recordSize e) :
    out.objects[addressIn entries i + k]? = (recordWords resolution e)[k]? := by
  have split := split_of_getElem? held
  have start : ((entries.take i).flatMap (recordWords resolution)).length = addressIn entries i :=
    length_flatMap_recordWords
  have records : out.objects.toList = (entries.take i).flatMap (recordWords resolution) ++
      (recordWords resolution e ++ (entries.drop (i + 1)).flatMap (recordWords resolution)) := by
    rw [laid.objects, ← List.flatMap_cons, ← List.flatMap_append, ← split]
  rw [← Array.getElem?_toList, records,
    List.getElem?_append_right (by rw [start]; exact Nat.le_add_right _ _), start,
    Nat.add_sub_cancel_left, List.getElem?_append_left (by rw [length_recordWords]; exact inside)]

theorem getElem?_recordWords_tile (held : (heldTiles e)[j]? = some (dir, tile))
    (inside : k < tileSize) : (recordWords resolution e)[tileOffsetOf j + k]? =
      (tileRecord resolution e.desc dir tile.rect.origin).words[k]? := by
  have further : tileOffsetOf j + k - headerSize = tileSize * j + k := by
    rw [tileOffsetOf, Nat.add_assoc, Nat.add_sub_cancel_left]
  rw [recordWords, List.getElem?_append_right (by
    rw [length_objectWords, tileOffsetOf, headerSize]; omega), length_objectWords]
  rw [headerSize] at further
  have block : ∀ held ∈ heldTiles e,
      (tileRecord resolution e.desc held.1 held.2.rect.origin).words.length = tileSize :=
    fun _ _ => rfl
  rw [further]
  exact getElem?_flatMap_block block held inside

/-- What the kernels read of an object at an address: its bounds, its map and its extent, the size of
its record, and for each direction its tile. -/
structure ReadsBack (objects : Array (RecordWord α)) (resolution address : Nat)
    (e : RegistryEntry α) : Prop where
  header : ObjectRecord.read objects address = .ok (objectRecord e)
  content : (objectRecord e).bounds = e.desc.boundingSphere ∧
    (objectRecord e).worldToLocal = .ofAffine e.desc.transform.inverse ∧
    (objectRecord e).extent = e.desc.extent
  absent : ∀ dir < directionsCount,
    (objectRecord e).tileOffset dir = 0 ↔ tileIn e.tiles dir = none
  tiles : ∀ dir tile, tileIn e.tiles dir = some tile →
    TileRecord.read objects (address + (objectRecord e).tileOffset dir) =
      .ok (tileRecord resolution e.desc dir tile.rect.origin)
  size : ∃ word, fetch objects (address + 1) = .ok word ∧
    word.toWords.w = headerSize + tileSize * (heldDirections e.tiles).length

theorem LaidOut.readsBack (laid : LaidOut resolution entries out)
    (short : out.objects.size < 4294967296) (held : entries[i]? = some e) :
    ReadsBack out.objects resolution (addressIn entries i) e := by
  have whole : headerSize ≤ recordSize e := Nat.le_add_right _ _
  have ends : addressIn entries i + recordSize e ≤ out.objects.size := by
    rw [laid.size]
    conv_rhs => rw [split_of_getElem? held]
    rw [List.map_append, List.map_cons, List.sum_append, List.sum_cons, ← Nat.add_assoc]
    exact Nat.le_add_right _ _
  have word : ∀ k < headerSize, out.objects[addressIn entries i + k]? =
      ((objectRecord e).words (recordSize e))[k]? := by
    intro k inside
    rw [laid.getElem?_objects held (inside.trans_le whole), recordWords,
      List.getElem?_append_left inside]
    rfl
  rw [headerSize] at whole word
  refine ⟨ObjectRecord.read_of_words word (by omega), ⟨rfl, rfl, rfl⟩, fun dir inside => ?_,
    fun dir tile present => ?_, ⟨_, fetch_eq_ok.mpr (word 1 (by decide)), ?_⟩⟩
  · rw [tileOffset_objectRecord inside]
    cases free : tileIn e.tiles dir with
    | none => simp [offsetOf_eq_zero free]
    | some tile =>
        obtain ⟨j, listed⟩ := List.getElem?_of_mem (mem_heldTiles.mpr free)
        simp [offsetOf_eq listed, tileOffsetOf, headerSize]
  · obtain ⟨j, listed⟩ := List.getElem?_of_mem (mem_heldTiles.mpr present)
    have below := (List.getElem?_eq_some_iff.mp listed).1
    have room : tileOffsetOf j + 5 ≤ recordSize e := by
      simp only [recordSize, tileOffsetOf, tileSize]
      omega
    rw [tileOffset_objectRecord (lt_of_tileIn present), offsetOf_eq listed]
    refine TileRecord.read_of_words (fun k inside => ?_) (by omega)
    rw [Nat.add_assoc, laid.getElem?_objects held (by omega),
      getElem?_recordWords_tile listed inside]
  · rw [← length_heldTiles]
    rfl

end Reading

section Results

/-- What the registry serializes is what the kernels read back: the records lie one after the other,
one for each object; each of them reads back as what the object and its tiles are; each tile is
listed once; and the largest side of a tile is known. -/
theorem reads_back_of_serialize [Scalar α] {r after : Registry A α} {out : SerializedAtlas α}
    {log : List RegistryMessage} (done : r.serialize = (out, after, log))
    (short : out.objects.size < 4294967296) :
    out.objects.size = (r.entries.map recordSize).sum ∧
    out.addresses.toList = (List.range r.entries.length).map (addressIn r.entries) ∧
    (∀ i e, r.entries[i]? = some e →
      ReadsBack out.objects r.resolution (addressIn r.entries i) e) ∧
    out.tiles.toList =
      r.entries.zipIdx.flatMap (fun placed => tileAddresses (addressIn r.entries placed.2) placed.1) ∧
    out.tiles.toList.Nodup ∧
    (∀ e ∈ r.entries, ∀ dir tile, tileIn e.tiles dir = some tile →
      max (e.desc.tileSize dir).x (e.desc.tileSize dir).y ≤ out.maxTileSize) ∧
    (out.maxTileSize = 0 ∨ ∃ e ∈ r.entries, ∃ dir tile, tileIn e.tiles dir = some tile ∧
      out.maxTileSize = max (e.desc.tileSize dir).x (e.desc.tileSize dir).y) := by
  obtain rfl : r.serialized = out := congrArg Prod.fst done
  have laid := laidOut_serialized r
  exact ⟨laid.size, laid.addresses, fun i e held => laid.readsBack short held, laid.tiles,
    laid.once, laid.above, laid.reached⟩

def shelf : Registry Unit ℚ where
  allocator := ()
  resolution := 16
  maxObjects := 2
  entries :=
    [⟨7, ⟨.identity, ⟨1, 2, 3⟩, #v[⟨4, 4⟩, ⟨0, 0⟩, ⟨0, 0⟩, ⟨2, 8⟩, ⟨0, 0⟩, ⟨16, 16⟩]⟩,
        #v[some ⟨1, ⟨⟨0, 0⟩, ⟨4, 4⟩⟩⟩, none, none, some ⟨2, ⟨⟨4, 0⟩, ⟨2, 8⟩⟩⟩, none, none]⟩,
      ⟨9, ⟨.identity, ⟨1, 1, 1⟩, .replicate directionsCount ⟨0, 0⟩⟩, noTiles⟩]
  dirtyTiles := []
  isDirty := true

theorem shelf_reads_back : ∃ out : SerializedAtlas ℚ, shelf.serialize.1 = out ∧
    out.addresses.toList = [0, 16] ∧ ∀ i e, shelf.entries[i]? = some e →
      ReadsBack out.objects 16 (addressIn shelf.entries i) e := by
  have short : shelf.serialize.1.objects.size < 4294967296 := by decide +kernel
  obtain ⟨-, addresses, reads, -⟩ := reads_back_of_serialize (r := shelf) rfl short
  exact ⟨_, rfl, addresses.trans rfl, reads⟩

end Results

end Registry

end IrradianceField
