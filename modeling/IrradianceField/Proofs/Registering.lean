import IrradianceField.Proofs.Checked
import IrradianceField.Proofs.Ledgers

/-!
Registering: what each operation of the registry does to the tiles of the objects and to the marks
of those that have to be drawn again.
-/

namespace IrradianceField.Registry

variable {A α : Type}

section Entries

/-- The entry of an object among others, and the tile that it has for a direction. -/
def entryOf (entries : List (RegistryEntry α)) (id : Nat) : Option (RegistryEntry α) :=
  entries.find? (·.id = id)
def heldIn (entries : List (RegistryEntry α)) (key : Nat × Nat) : Option Allocation :=
  (entryOf entries key.1).bind fun e => tileIn e.tiles key.2

def tileAt (r : Registry A α) : Nat × Nat → Option Allocation := heldIn r.entries

variable {entries : List (RegistryEntry α)} {entry e : RegistryEntry α} {id other : Nat}
  {held : Nat × Nat → Option Allocation} {tiles tiles' : HeldTiles}

theorem find?_eq (r : Registry A α) (id : Nat) : r.find? id = entryOf r.entries id := rfl

theorem id_of_entryOf (found : entryOf entries id = some e) : e.id = id := by
  simpa using List.find?_some found

theorem mem_of_entryOf (found : entryOf entries id = some e) : e ∈ entries :=
  List.mem_of_find?_eq_some found

theorem entryOf_eq_none : entryOf entries id = none ↔ id ∉ entries.map (·.id) := by
  simp [entryOf, List.find?_eq_none]

@[simp] theorem map_id_replace : (replace entries entry).map (·.id) = entries.map (·.id) := by
  rw [replace, List.map_map]
  refine List.map_congr_left fun e _ => ?_
  by_cases own : e.id = entry.id
  · simp [own]
  · simp [own]

theorem mem_replace (member : e ∈ replace entries entry) :
    e = entry ∨ e ∈ entries ∧ e.id ≠ entry.id := by
  obtain ⟨old, listed, rfl⟩ := List.mem_map.mp member
  by_cases own : old.id = entry.id
  · exact .inl (if_pos own)
  · right
    rw [if_neg own]
    exact ⟨listed, own⟩

theorem entryOf_replace_of_ne (different : other ≠ entry.id) :
    entryOf (replace entries entry) other = entryOf entries other := by
  induction entries with
  | nil => rfl
  | cons e rest ih =>
      rw [entryOf, replace, List.map_cons, List.find?_cons, entryOf, List.find?_cons]
      by_cases own : e.id = entry.id
      · have away : ¬entry.id = other := Ne.symm different
        rw [if_pos own, own]
        simp only [away, decide_false]
        exact ih
      · rw [if_neg own]
        cases decide (e.id = other) with
        | true => rfl
        | false => exact ih

theorem entryOf_replace_self (listed : entry.id ∈ entries.map (·.id)) :
    entryOf (replace entries entry) entry.id = some entry := by
  have listed' : entry.id ∈ (replace entries entry).map (·.id) := by rwa [map_id_replace]
  cases found : entryOf (replace entries entry) entry.id with
  | none => exact absurd listed' (entryOf_eq_none.mp found)
  | some e =>
      rcases mem_replace (mem_of_entryOf found) with rfl | ⟨-, different⟩
      · rfl
      · exact absurd (id_of_entryOf found) different

theorem entryOf_append (fresh : entryOf entries entry.id = none) :
    entryOf (entries ++ [entry]) other =
      if other = entry.id then some entry else entryOf entries other := by
  rw [entryOf, List.find?_append]
  by_cases own : other = entry.id
  · have none : entries.find? (·.id = entry.id) = Option.none := fresh
    rw [if_pos own, own, none]
    simp
  · rw [if_neg own]
    simp [entryOf, Ne.symm own]

theorem entryOf_filter : entryOf (entries.filter (·.id ≠ id)) other =
    if other = id then none else entryOf entries other := by
  by_cases own : other = id
  · rw [if_pos own, entryOf_eq_none, own]
    simp
  · rw [if_neg own, entryOf, List.find?_filter, entryOf]
    congr 1
    funext e
    by_cases found : e.id = other
    · simp [found, own]
    · simp [found]

end Entries

section Holding

variable {entries : List (RegistryEntry α)} {entry e : RegistryEntry α} {id : Nat}
  {held : Nat × Nat → Option Allocation} {tiles tiles' : HeldTiles}

theorem assign_heldIn (found : entryOf entries id = some e) :
    assign (heldIn entries) id e.tiles = heldIn entries := by
  funext key
  by_cases own : key.1 = id
  · simp [assign, own, heldIn, found]
  · simp [assign, own]

theorem assign_noTiles (free : ∀ dir, held (id, dir) = none) : assign held id noTiles = held := by
  funext key
  obtain ⟨object, dir⟩ := key
  by_cases own : object = id
  · rw [assign, if_pos own, tileIn_noTiles, own, free]
  · rw [assign, if_neg own]

theorem assign_heldIn_none (fresh : entryOf entries id = none) :
    assign (heldIn entries) id noTiles = heldIn entries :=
  assign_noTiles fun dir => by rw [heldIn, fresh]; rfl

theorem listed_of_heldIn {key : Nat × Nat} (holds : (heldIn entries key).isSome = true) :
    key.1 ∈ entries.map (·.id) := by
  by_contra absent
  rw [heldIn, entryOf_eq_none.mpr absent] at holds
  exact absurd holds Bool.false_ne_true

theorem heldIn_replace (listed : entry.id ∈ entries.map (·.id)) :
    heldIn (replace entries entry) = assign (heldIn entries) entry.id entry.tiles := by
  funext key
  by_cases own : key.1 = entry.id
  · rw [heldIn, assign, if_pos own, own, entryOf_replace_self listed]
    rfl
  · rw [heldIn, assign, if_neg own, entryOf_replace_of_ne own]
    rfl

theorem heldIn_append (fresh : entryOf entries entry.id = none) :
    heldIn (entries ++ [entry]) = assign (heldIn entries) entry.id entry.tiles := by
  funext key
  rw [heldIn, entryOf_append fresh, assign]
  by_cases own : key.1 = entry.id
  · rw [if_pos own, if_pos own]
    rfl
  · rw [if_neg own, if_neg own]
    rfl

theorem heldIn_filter :
    heldIn (entries.filter (·.id ≠ id)) = assign (heldIn entries) id noTiles := by
  funext key
  rw [heldIn, entryOf_filter, assign]
  by_cases own : key.1 = id
  · rw [if_pos own, if_pos own, tileIn_noTiles]
    rfl
  · rw [if_neg own, if_neg own]
    rfl

end Holding

section Marks

variable {dirty : List (Nat × Nat)} {id : Nat} {tiles : HeldTiles} {key : Nat × Nat}

theorem mem_heldDirections {dir : Nat} :
    dir ∈ heldDirections tiles ↔ (tileIn tiles dir).isSome = true := by
  rw [heldDirections, List.mem_filter, List.mem_range]
  constructor
  · exact And.right
  · intro holds
    obtain ⟨tile, held⟩ := Option.isSome_iff_exists.mp holds
    exact ⟨lt_of_tileIn held, holds⟩

theorem mem_markTiles : key ∈ markTiles dirty id tiles ↔
    if key.1 = id then (tileIn tiles key.2).isSome = true else key ∈ dirty := by
  obtain ⟨object, dir⟩ := key
  rw [markTiles, List.mem_append, List.mem_filter, List.mem_map]
  by_cases own : object = id
  · simp [own, mem_heldDirections]
  · simp [own, Ne.symm own]

theorem nodup_markTiles (once : dirty.Nodup) : (markTiles dirty id tiles).Nodup := by
  have directions : (heldDirections tiles).Nodup := List.nodup_range.filter _
  apply List.nodup_append.mpr
  refine ⟨once.filter _, directions.map fun _ _ same => (Prod.mk.inj same).2, ?_⟩
  rintro key member _ marked rfl
  obtain ⟨dir, -, rfl⟩ := List.mem_map.mp marked
  simp at member

theorem filter_markTiles :
    (markTiles dirty id tiles).filter (·.1 ≠ id) = dirty.filter (·.1 ≠ id) := by
  have own : ((heldDirections tiles).map (id, ·)).filter (·.1 ≠ id) = [] :=
    List.filter_eq_nil_iff.mpr (by simp)
  rw [markTiles, List.filter_append, own, List.append_nil, List.filter_filter]
  simp

end Marks

section Soundness

variable [RectAllocator A]

/-- Who holds what in a registry: an object is listed once, its tiles have the sizes that it asks for,
and the ledger shows which object holds what. -/
structure Holds (laws : RectAllocator.Laws A) (r : Registry A α) : Prop where
  unique : (r.entries.map (·.id)).Nodup
  sized : ∀ e ∈ r.entries, AreSized e.desc.tileSizes e.tiles
  ledger : Ledger laws r.allocator r.resolution r.tileAt

/-- The state of a registry: an object is listed once, and its tiles have the sizes that it asks
for; the ledger shows which object holds what; the marks are those of the tiles of the objects that
have been renewed. -/
structure IsSound (laws : RectAllocator.Laws A) (r : Registry A α) (renewed : Nat → Prop) :
    Prop where
  unique : (r.entries.map (·.id)).Nodup
  small : ∀ e ∈ r.entries, AreSmall e.desc.tileSizes
  sized : ∀ e ∈ r.entries, AreSized e.desc.tileSizes e.tiles
  ledger : Ledger laws r.allocator r.resolution r.tileAt
  once : r.dirtyTiles.Nodup
  marked : ∀ key, key ∈ r.dirtyTiles ↔ (r.tileAt key).isSome = true ∧ renewed key.1

variable {laws : RectAllocator.Laws A} {r r' : Registry A α} {renewed : Nat → Prop} {id : Nat}
  {desc : ObjectDesc α} {e : RegistryEntry α} {tiles : HeldTiles}

theorem IsSound.holds (sound : IsSound laws r renewed) : Holds laws r :=
  ⟨sound.unique, sound.sized, sound.ledger⟩

theorem IsSound.congr {renewed' : Nat → Prop} (sound : IsSound laws r renewed)
    (same : ∀ id, renewed id ↔ renewed' id) : IsSound laws r renewed' :=
  ⟨sound.unique, sound.small, sound.sized, sound.ledger, sound.once, fun key => by
    rw [sound.marked, same]⟩

theorem holds_create {resolution maxObjects : Nat}
    (made : (create resolution maxObjects : Except Fault (Registry A α)) = .ok r) :
    Holds laws r ∧ r.resolution = resolution ∧ r.entries = [] ∧ r.dirtyTiles = [] := by
  obtain ⟨allocator, created, ended⟩ := bind_eq_ok.mp made
  obtain rfl := Except.ok.inj ended
  exact ⟨⟨List.nodup_nil, by simp, Ledger.create created⟩, rfl, rfl, rfl⟩

theorem isSound_create {resolution maxObjects : Nat}
    (made : (create resolution maxObjects : Except Fault (Registry A α)) = .ok r) :
    IsSound laws r fun _ => False := by
  obtain ⟨holds, -, empty, clean⟩ := holds_create made
  exact ⟨holds.unique, by simp [empty], holds.sized, holds.ledger, by simp [clean], by simp [clean]⟩

theorem marked_assign (sound : IsSound laws r renewed)
    (held : r'.tileAt = assign r.tileAt id tiles)
    (dirty : r'.dirtyTiles = markTiles r.dirtyTiles id tiles) (key : Nat × Nat) :
    key ∈ r'.dirtyTiles ↔ (r'.tileAt key).isSome = true ∧ (key.1 = id ∨ renewed key.1) := by
  rw [dirty, mem_markTiles, held, assign]
  by_cases own : key.1 = id
  · simp [own]
  · simp [own, sound.marked]

theorem Holds.retile (holds : Holds laws r) (found : entryOf r.entries e.id = some e)
    (answered : AreAnswered laws desc.tileSizes) :
    ∃ (allocator : A) (tiles : HeldTiles) (log : List RegistryMessage),
      (if e.desc.tileSizes = desc.tileSizes then (r.allocator, e.tiles, [])
        else allocateTiles (releaseTiles r.allocator e.tiles) e.id desc.tileSizes) =
          (allocator, tiles, log) ∧
        Ledger laws allocator r.resolution (assign r.tileAt e.id tiles) ∧
        AreSized desc.tileSizes tiles := by
  have before : Ledger laws r.allocator r.resolution (assign r.tileAt e.id e.tiles) := by
    rw [tileAt, assign_heldIn found]
    exact holds.ledger
  by_cases same : e.desc.tileSizes = desc.tileSizes
  · rw [if_pos same]
    exact ⟨_, _, _, rfl, before, same ▸ holds.sized e (mem_of_entryOf found)⟩
  · rw [if_neg same]
    obtain ⟨after, sized⟩ := ledger_allocateTiles answered (ledger_releaseTiles before)
    exact ⟨_, _, _, rfl, after, sized⟩

theorem Holds.updateObject (holds : Holds laws r) (found : entryOf r.entries id = some e)
    (answered : AreAnswered laws desc.tileSizes) :
    ∃ allocator tiles, (r.updateObject e desc).1 =
        { r with
          allocator
          entries := replace r.entries ⟨id, desc, tiles⟩
          dirtyTiles := markTiles r.dirtyTiles id tiles
          isDirty := true } ∧
      (r.updateObject e desc).1.tileAt = assign r.tileAt id tiles ∧
      Holds laws (r.updateObject e desc).1 := by
  obtain rfl := id_of_entryOf found
  have listed : e.id ∈ r.entries.map (·.id) := List.mem_map_of_mem (mem_of_entryOf found)
  obtain ⟨allocator, tiles, log, kept, ledger, sized⟩ := holds.retile found answered
  have changed : (r.updateObject e desc).1 =
      { r with
        allocator
        entries := replace r.entries ⟨e.id, desc, tiles⟩
        dirtyTiles := markTiles r.dirtyTiles e.id tiles
        isDirty := true } := by
    simp only [Registry.updateObject, kept]
  have held : heldIn (replace r.entries ⟨e.id, desc, tiles⟩) = assign r.tileAt e.id tiles :=
    heldIn_replace listed
  refine ⟨allocator, tiles, changed, ?_, ?_⟩
  · rw [changed]
    exact held
  · rw [changed]
    refine ⟨?_, fun other member => ?_, ?_⟩
    · rw [map_id_replace]
      exact holds.unique
    · rcases mem_replace member with rfl | ⟨member, -⟩
      · exact sized
      · exact holds.sized other member
    · rw [tileAt, held]
      exact ledger

theorem IsSound.updateObject (sound : IsSound laws r renewed)
    (found : entryOf r.entries id = some e) (small : AreSmall desc.tileSizes) :
    IsSound laws (r.updateObject e desc).1 (fun i => i = id ∨ renewed i) := by
  obtain ⟨allocator, tiles, changed, held, holds⟩ := sound.holds.updateObject found small.answered
  have dirty : (r.updateObject e desc).1.dirtyTiles = markTiles r.dirtyTiles id tiles := by
    rw [changed]
  refine ⟨holds.unique, fun other member => ?_, holds.sized, holds.ledger, ?_,
    marked_assign sound held dirty⟩
  · rw [changed] at member
    rcases mem_replace member with rfl | ⟨member, -⟩
    · exact small
    · exact sound.small other member
  · rw [dirty]
    exact nodup_markTiles sound.once

theorem tileAt_addObject (fresh : entryOf r.entries id = none) :
    (r.addObject id desc).1.tileAt =
      assign r.tileAt id (allocateTiles r.allocator id desc.tileSizes).2.1 :=
  heldIn_append fresh

theorem Holds.addObject (holds : Holds laws r) (fresh : entryOf r.entries id = none)
    (answered : AreAnswered laws desc.tileSizes) : Holds laws (r.addObject id desc).1 := by
  have before : Ledger laws r.allocator r.resolution (assign r.tileAt id noTiles) := by
    rw [tileAt, assign_heldIn_none fresh]
    exact holds.ledger
  obtain ⟨ledger, sized⟩ := ledger_allocateTiles answered before
  refine ⟨?_, fun other member => ?_, ?_⟩
  · have distinct := List.nodup_append.mpr ⟨holds.unique, List.nodup_singleton id, ?_⟩
    · simpa [Registry.addObject] using distinct
    · intro other member _ own same
      rw [List.mem_singleton.mp own] at same
      exact entryOf_eq_none.mp fresh (same ▸ member)
  · rcases List.mem_append.mp member with member | own
    · exact holds.sized other member
    · exact List.mem_singleton.mp own ▸ sized
  · rw [tileAt_addObject fresh]
    exact ledger

theorem IsSound.addObject (sound : IsSound laws r renewed)
    (fresh : entryOf r.entries id = none) (small : AreSmall desc.tileSizes) :
    IsSound laws (r.addObject id desc).1 (fun i => i = id ∨ renewed i) := by
  have holds := sound.holds.addObject fresh small.answered
  refine ⟨holds.unique, fun other member => ?_, holds.sized, holds.ledger,
    nodup_markTiles sound.once, marked_assign sound (tileAt_addObject fresh) rfl⟩
  rcases List.mem_append.mp member with member | own
  · exact sound.small other member
  · exact List.mem_singleton.mp own ▸ small

theorem Holds.removeObject (holds : Holds laws r) (id : Nat) :
    Holds laws (r.removeObject id).1 := by
  rw [Registry.removeObject, find?_eq]
  cases found : entryOf r.entries id with
  | none => exact holds
  | some e =>
      obtain rfl := id_of_entryOf found
      have before : Ledger laws r.allocator r.resolution (assign r.tileAt e.id e.tiles) := by
        rw [tileAt, assign_heldIn found]
        exact holds.ledger
      refine ⟨?_, fun other member => holds.sized other (List.mem_of_mem_filter member), ?_⟩
      · exact holds.unique.sublist (List.filter_sublist.map _)
      · rw [tileAt, heldIn_filter]
        exact ledger_releaseTiles before

theorem IsSound.removeObject (sound : IsSound laws r renewed) (id : Nat) :
    IsSound laws (r.removeObject id).1 renewed := by
  have holds := sound.holds.removeObject id
  rw [Registry.removeObject, find?_eq] at holds ⊢
  cases found : entryOf r.entries id with
  | none => exact sound
  | some e =>
      rw [found] at holds
      obtain rfl := id_of_entryOf found
      refine ⟨holds.unique, fun other member => sound.small other (List.mem_of_mem_filter member),
        holds.sized, holds.ledger, sound.once.filter _, fun key => ?_⟩
      change key ∈ r.dirtyTiles.filter (·.1 ≠ e.id) ↔
        (heldIn (r.entries.filter (·.id ≠ e.id)) key).isSome = true ∧ renewed key.1
      rw [List.mem_filter, sound.marked, heldIn_filter, tileAt, assign]
      by_cases own : key.1 = e.id
      · simp [own]
      · simp [own]

def Accepts [Scalar α] (r : Registry A α) (id : Nat) (desc : ObjectDesc α) : Prop :=
  match r.find? id with
  | some e => e.desc.same desc = false
  | none => r.entries.length < r.maxObjects

theorem setObject_cases [Scalar α] (r : Registry A α) (id : Nat) (desc : ObjectDesc α) :
    (∃ e, entryOf r.entries id = some e ∧ r.Accepts id desc ∧
      r.setObject id desc = r.updateObject e desc) ∨
    (entryOf r.entries id = none ∧ r.entries.length < r.maxObjects ∧ r.Accepts id desc ∧
      r.setObject id desc = r.addObject id desc) ∨
    (¬r.Accepts id desc ∧ (r.setObject id desc).1 = r) := by
  rw [setObject, Accepts, find?_eq]
  cases entryOf r.entries id with
  | none =>
      dsimp only
      by_cases room : r.entries.length < r.maxObjects
      · exact .inr (.inl ⟨rfl, room, room, if_neg (Nat.not_le.mpr room)⟩)
      · exact .inr (.inr ⟨room, congrArg Prod.fst (if_pos (Nat.not_lt.mp room))⟩)
  | some e =>
      dsimp only
      cases e.desc.same desc with
      | false => exact .inl ⟨e, rfl, rfl, rfl⟩
      | true => exact .inr (.inr ⟨Bool.noConfusion, rfl⟩)

theorem Holds.setObject [Scalar α] (holds : Holds laws r)
    (answered : AreAnswered laws desc.tileSizes) : Holds laws (r.setObject id desc).1 := by
  rcases setObject_cases r id desc with ⟨e, found, -, changed⟩ | ⟨fresh, -, -, added⟩ | ⟨-, same⟩
  · obtain ⟨_, _, -, -, updated⟩ := holds.updateObject found answered
    rw [changed]
    exact updated
  · rw [added]
    exact holds.addObject fresh answered
  · rw [same]
    exact holds

theorem IsSound.setObject [Scalar α] (sound : IsSound laws r renewed)
    (small : AreSmall desc.tileSizes) :
    IsSound laws (r.setObject id desc).1 (fun i => (i = id ∧ r.Accepts id desc) ∨ renewed i) := by
  rcases setObject_cases r id desc with
    ⟨e, found, accepted, changed⟩ | ⟨fresh, -, accepted, added⟩ | ⟨refused, same⟩
  · rw [changed]
    exact (sound.updateObject found small).congr fun i => by simp [accepted]
  · rw [added]
    exact (sound.addObject fresh small).congr fun i => by simp [accepted]
  · rw [same]
    exact sound.congr fun i => by simp [refused]

theorem IsSound.takeDirtyTiles [Scalar α] (sound : IsSound laws r renewed) :
    IsSound laws r.takeDirtyTiles.2 fun _ => False :=
  ⟨sound.unique, sound.small, sound.sized, sound.ledger, List.nodup_nil, fun key => by
    simp [Registry.takeDirtyTiles]⟩

end Soundness

section Others

variable [RectAllocator A]

/-- Nothing has happened to the objects other than one: neither to their entries, nor to their
marks. -/
structure LeavesOthers (id : Nat) (r r' : Registry A α) : Prop where
  entries : ∀ other, other ≠ id → r'.find? other = r.find? other
  marks : r'.dirtyTiles.filter (·.1 ≠ id) = r.dirtyTiles.filter (·.1 ≠ id)

theorem leavesOthers_setObject [Scalar α] (r : Registry A α) (id : Nat) (desc : ObjectDesc α) :
    LeavesOthers id r (r.setObject id desc).1 := by
  rcases setObject_cases r id desc with ⟨e, found, -, changed⟩ | ⟨fresh, -, -, added⟩ | ⟨-, same⟩
  · obtain rfl := id_of_entryOf found
    rw [changed]
    refine ⟨fun other different => ?_, filter_markTiles⟩
    exact entryOf_replace_of_ne different
  · rw [added]
    refine ⟨fun other different => ?_, filter_markTiles⟩
    exact (entryOf_append fresh).trans (if_neg different)
  · rw [same]
    exact ⟨fun _ _ => rfl, rfl⟩

theorem leavesOthers_removeObject (r : Registry A α) (id : Nat) :
    LeavesOthers id r (r.removeObject id).1 := by
  rw [removeObject, find?_eq]
  cases found : entryOf r.entries id with
  | none => exact ⟨fun _ _ => rfl, rfl⟩
  | some e =>
      refine ⟨fun other different => ?_, ?_⟩
      · exact entryOf_filter.trans (if_neg different)
      · exact (List.filter_filter ..).trans (by simp)

end Others

section Reallocation

variable [RectAllocator A] {laws : RectAllocator.Laws A} {start r : Registry A α} {done : List Nat}
  {resolution maxObjects : Nat}

/-- The objects of a resized atlas, some of which have their new tiles already. -/
structure Reallocating (laws : RectAllocator.Laws A) (start : Registry A α) (resolution : Nat)
    (done : List Nat) (r : Registry A α) : Prop where
  listed : r.entries.map (·.id) = start.entries.map (·.id)
  asked : ∀ e ∈ r.entries, ∃ old ∈ start.entries, e.desc = old.desc
  sized : ∀ e ∈ r.entries, e.id ∈ done → AreSized e.desc.tileSizes e.tiles
  size : r.resolution = resolution
  ledger : Ledger laws r.allocator resolution fun key => if key.1 ∈ done then r.tileAt key else none
  once : r.dirtyTiles.Nodup
  marked : ∀ key, key ∈ r.dirtyTiles ↔ key.1 ∈ done ∧ (r.tileAt key).isSome = true

theorem Reallocating.step (before : Reallocating laws start resolution done r)
    (log : List RegistryMessage) {e : RegistryEntry α} (answered : AreAnswered laws e.desc.tileSizes)
    (present : e ∈ start.entries) (fresh : e.id ∉ done) :
    Reallocating laws start resolution (done ++ [e.id]) (reallocate (r, log) e).1 := by
  have free : assign (fun key => if key.1 ∈ done then r.tileAt key else none) e.id noTiles =
      fun key => if key.1 ∈ done then r.tileAt key else none :=
    assign_noTiles fun dir => if_neg fresh
  obtain ⟨ledger, sized⟩ := ledger_allocateTiles answered (free.symm ▸ before.ledger)
  generalize served : allocateTiles r.allocator e.id e.desc.tileSizes = result at ledger sized
  obtain ⟨allocator, tiles, messages⟩ := result
  have changed : (reallocate (r, log) e).1 =
      { r with
        allocator
        entries := replace r.entries { e with tiles }
        dirtyTiles := markTiles r.dirtyTiles e.id tiles } := by
    simp only [reallocate, served]
  have listed : e.id ∈ r.entries.map (·.id) := before.listed ▸ List.mem_map_of_mem present
  have held : heldIn (replace r.entries { e with tiles }) = assign r.tileAt e.id tiles :=
    heldIn_replace listed
  rw [changed]
  refine ⟨?_, fun other member => ?_, fun other member finished => ?_, before.size, ?_,
    nodup_markTiles before.once, fun key => ?_⟩
  · rw [← before.listed]
    exact map_id_replace
  · rcases mem_replace member with rfl | ⟨member, -⟩
    · exact ⟨e, present, rfl⟩
    · exact before.asked other member
  · rcases mem_replace member with rfl | ⟨member, different⟩
    · exact sized
    · rcases List.mem_append.mp finished with finished | own
      · exact before.sized other member finished
      · exact absurd (List.mem_singleton.mp own) different
  · convert ledger using 1
    funext key
    rw [tileAt, held]
    by_cases own : key.1 = e.id
    · simp [assign, own]
    · simp [assign, own]
  · rw [tileAt, held]
    refine mem_markTiles.trans ?_
    by_cases own : key.1 = e.id
    · simp [assign, own]
    · simp [assign, own, before.marked]

theorem Holds.reallocated {result : Registry A α × List RegistryMessage} (holds : Holds laws r)
    (answered : ∀ e ∈ r.entries, AreAnswered laws e.desc.tileSizes)
    (changed : r.reconfigure resolution maxObjects = .ok result) :
    Reallocating laws r resolution (r.entries.map (·.id)) result.1 := by
  obtain ⟨allocator, made, ended⟩ := bind_eq_ok.mp changed
  rw [← Except.ok.inj ended]
  have loop : ∀ (rest : List (RegistryEntry α)) (done : List Nat) (r' : Registry A α)
      (log : List RegistryMessage), (∀ e ∈ rest, e ∈ r.entries) →
      r.entries.map (·.id) = done ++ rest.map (·.id) →
      Reallocating laws r resolution done r' →
      Reallocating laws r resolution (r.entries.map (·.id)) (rest.foldl reallocate (r', log)).1 := by
    intro rest
    induction rest with
    | nil =>
        intro done r' log _ split before
        rw [List.map_nil, List.append_nil] at split
        exact split ▸ before
    | cons e rest ih =>
        intro done r' log present split before
        have distinct := holds.unique
        rw [split, List.map_cons, List.nodup_append] at distinct
        have fresh : e.id ∉ done := fun member =>
          distinct.2.2 e.id member e.id List.mem_cons_self rfl
        have own := present e List.mem_cons_self
        rw [List.foldl_cons]
        apply ih (done ++ [e.id])
        · exact fun other member => present other (List.mem_cons_of_mem _ member)
        · rw [split, List.map_cons, List.append_assoc]
          rfl
        · exact before.step log (answered e own) own fresh
  apply loop r.entries [] { r with
      allocator
      resolution
      maxObjects
      dirtyTiles := []
      isDirty := true } []
  · exact fun e member => member
  · rfl
  · exact ⟨rfl, fun e member => ⟨e, member, rfl⟩, by simp, rfl, by simpa using Ledger.create made,
      List.nodup_nil, by simp⟩

theorem Reallocating.holds (after : Reallocating laws start resolution (start.entries.map (·.id)) r)
    (unique : (start.entries.map (·.id)).Nodup) : Holds laws r := by
  have every : ∀ key, (r.tileAt key).isSome = true → key.1 ∈ start.entries.map (·.id) := by
    intro key holds
    rw [← after.listed]
    exact listed_of_heldIn holds
  refine ⟨after.listed ▸ unique, fun e member => ?_, ?_⟩
  · exact after.sized e member (after.listed ▸ List.mem_map_of_mem member)
  · rw [after.size]
    convert after.ledger using 1
    funext key
    cases held : r.tileAt key with
    | none => simp
    | some tile => rw [if_pos (every key (by rw [held]; rfl))]

theorem IsSound.reconfigure {renewed : Nat → Prop} {result : Registry A α × List RegistryMessage}
    (sound : IsSound laws r renewed) (changed : r.reconfigure resolution maxObjects = .ok result) :
    IsSound laws result.1 fun _ => True := by
  have after := sound.holds.reallocated (fun e member => (sound.small e member).answered) changed
  have holds := after.holds sound.unique
  refine ⟨holds.unique, fun e member => ?_, holds.sized, holds.ledger, after.once, fun key => ?_⟩
  · obtain ⟨old, listed, same⟩ := after.asked e member
    rw [same]
    exact sound.small old listed
  · rw [after.marked, and_true, and_iff_right_iff_imp]
    intro held
    rw [← after.listed]
    exact listed_of_heldIn held

end Reallocation

end IrradianceField.Registry
