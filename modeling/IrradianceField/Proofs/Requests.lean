import IrradianceField.Atlas.Guillotine
import IrradianceField.Proofs.Registering
import IrradianceField.Scalar.Rational

/-!
Requests: a registry that has followed any requests holds all of its tiles, each once, and knows
which of them have to be drawn again.
-/

namespace IrradianceField.Registry

variable {A α : Type} [RectAllocator A] [Scalar α]

section Requests

inductive Request (α : Type) where
  | set (id : Nat) (desc : ObjectDesc α)
  | remove (id : Nat)
  | reconfigure (resolution maxObjects : Nat)
  | takeDirtyTiles
  | serialize

def Request.IsSmall : Request α → Prop
  | .set _ desc => AreSmall desc.tileSizes
  | _ => True

def follow (r : Registry A α) : Request α → Except Fault (Registry A α)
  | .set id desc => return (r.setObject id desc).1
  | .remove id => return (r.removeObject id).1
  | .reconfigure resolution maxObjects => return (← r.reconfigure resolution maxObjects).1
  | .takeDirtyTiles => return r.takeDirtyTiles.2
  | .serialize => return r.serialize.2.1
def followAll (r : Registry A α) (requests : List (Request α)) : Except Fault (Registry A α) :=
  requests.foldlM follow r

/-- Whether a request adds an object or changes it, or has the tiles of all objects allocated
anew. -/
def Renews (r : Registry A α) (id : Nat) : Request α → Prop
  | .set other desc => id = other ∧ r.Accepts other desc
  | .reconfigure .. => True
  | _ => False

/-- Whether an object has been renewed since the tiles to be drawn were last taken. -/
def RenewedSince (start : Registry A α) (requests : List (Request α)) (id : Nat) : Prop :=
  ∃ before request after r, requests = before ++ request :: after ∧
    start.followAll before = .ok r ∧ r.Renews id request ∧ .takeDirtyTiles ∉ after

end Requests

section Runs

variable {laws : RectAllocator.Laws A} {start r r' : Registry A α} {renewed : Nat → Prop}
  {request : Request α} {requests : List (Request α)} {id : Nat}

theorem IsSound.follow (sound : IsSound laws r renewed) (small : request.IsSmall)
    (done : r.follow request = .ok r') : IsSound laws r' fun id =>
      r.Renews id request ∨ (request ≠ .takeDirtyTiles ∧ renewed id) := by
  cases request with
  | set id desc =>
      obtain rfl := Except.ok.inj done
      exact (sound.setObject small).congr fun i => by simp [Renews]
  | remove id =>
      obtain rfl := Except.ok.inj done
      exact (sound.removeObject id).congr fun i => by simp [Renews]
  | reconfigure resolution maxObjects =>
      obtain ⟨result, resized, ended⟩ := bind_eq_ok.mp done
      obtain rfl := Except.ok.inj ended
      exact (sound.reconfigure resized).congr fun i => by simp [Renews]
  | takeDirtyTiles =>
      obtain rfl := Except.ok.inj done
      exact sound.takeDirtyTiles.congr fun i => by simp [Renews]
  | serialize =>
      obtain rfl := Except.ok.inj done
      have same : IsSound laws r.serialize.2.1 renewed :=
        ⟨sound.unique, sound.small, sound.sized, sound.ledger, sound.once, sound.marked⟩
      exact same.congr fun i => by simp [Renews]

theorem renewedSince_concat (before : start.followAll requests = .ok r) :
    RenewedSince start (requests ++ [request]) id ↔
      r.Renews id request ∨ (request ≠ .takeDirtyTiles ∧ RenewedSince start requests id) := by
  constructor
  · rintro ⟨first, renewing, after, r', split, reached, renews, untaken⟩
    rcases List.eq_nil_or_concat after with rfl | ⟨after, last, rfl⟩
    · obtain ⟨rfl, same⟩ := List.append_inj' split rfl
      obtain rfl := (List.cons.inj same).1
      rw [before, Except.ok.injEq] at reached
      exact .inl (reached ▸ renews)
    · have shifted : requests ++ [request] = (first ++ renewing :: after) ++ [last] := by
        simpa using split
      obtain ⟨rfl, same⟩ := List.append_inj' shifted rfl
      obtain rfl := (List.cons.inj same).1
      refine .inr ⟨fun taken => untaken (by simp [taken]), first, renewing, after, r', rfl, reached,
        renews, fun taken => untaken (by simp [taken])⟩
  · rintro (renews | ⟨kept, first, renewing, after, r', rfl, reached, renews, untaken⟩)
    · exact ⟨requests, request, [], r, rfl, before, renews, by simp⟩
    · refine ⟨first, renewing, after ++ [request], r', by simp, reached, renews, ?_⟩
      simp [untaken, Ne.symm kept]

theorem follow_ends (created : ∀ resolution maxObjects,
      request = .reconfigure resolution maxObjects →
        ∃ a : A, RectAllocator.create resolution = .ok a) :
    ∃ r', r.follow request = .ok r' := by
  cases request with
  | reconfigure resolution maxObjects =>
      obtain ⟨a, made⟩ := created resolution maxObjects rfl
      exact ⟨_, by rw [Registry.follow, Registry.reconfigure, made]; rfl⟩
  | set | remove | takeDirtyTiles | serialize => exact ⟨_, rfl⟩

theorem isSound_followAll (fresh : IsSound laws start fun _ => False)
    (small : ∀ request ∈ requests, request.IsSmall)
    (created : ∀ resolution maxObjects, .reconfigure resolution maxObjects ∈ requests →
      ∃ a : A, RectAllocator.create resolution = .ok a) :
    ∃ r, start.followAll requests = .ok r ∧ IsSound laws r (RenewedSince start requests) := by
  induction requests using List.reverseRecOn with
  | nil => exact ⟨start, rfl, fresh.congr fun id => by simp [RenewedSince]⟩
  | append_singleton requests request ih =>
      obtain ⟨r, before, sound⟩ := ih
        (fun earlier member => small earlier (List.mem_append_left _ member))
        (fun resolution maxObjects member =>
          created resolution maxObjects (List.mem_append_left _ member))
      obtain ⟨r', done⟩ : ∃ r', r.follow request = .ok r' :=
        follow_ends fun resolution maxObjects same => created resolution maxObjects (by simp [same])
      refine ⟨r', ?_, ?_⟩
      · exact foldlM_append_eq_ok.mpr ⟨r, before, foldlM_cons_eq_ok.mpr ⟨r', done, rfl⟩⟩
      · exact (sound.follow (small request (by simp)) done).congr fun id =>
          (renewedSince_concat before).symm

end Runs

section Drawing

variable {laws : RectAllocator.Laws A} {r : Registry A α} {renewed : Nat → Prop}
  {key : Nat × Nat} {tile : Allocation}

omit [RectAllocator A] in
theorem dirtyTile?_eq_some (sized : ∀ e ∈ r.entries, AreSized e.desc.tileSizes e.tiles)
    (holds : r.tileAt key = some tile) :
    ∃ t, r.dirtyTile? key = some t ∧ (t.object, t.direction) = key ∧ t.rect = tile.rect := by
  obtain ⟨e, found, own⟩ := Option.bind_eq_some_iff.mp holds
  have size : tile.rect.size = e.desc.tileSize key.2 :=
    (sized e (mem_of_entryOf found) key.2 tile own).1
  have held : e.tiles[key.2]?.getD none = some tile := own
  refine ⟨⟨key.1, key.2, ⟨tile.rect.origin, e.desc.tileSize key.2⟩, (e.desc.tileView key.2).1,
    (e.desc.tileView key.2).2⟩, ?_, rfl, by rw [← size]⟩
  rw [dirtyTile?, find?_eq, found]
  simp [held]

theorem takeDirtyTiles_keys (sound : IsSound laws r renewed) :
    r.takeDirtyTiles.1.map (fun t => (t.object, t.direction)) = r.dirtyTiles := by
  have each : ∀ key ∈ r.dirtyTiles,
      (r.dirtyTile? key).map (fun t => (t.object, t.direction)) = some key := by
    intro key marked
    obtain ⟨tile, holds⟩ := Option.isSome_iff_exists.mp ((sound.marked key).mp marked).1
    obtain ⟨t, drawn, own, -⟩ := dirtyTile?_eq_some sound.sized holds
    rw [drawn, Option.map_some, own]
  rw [takeDirtyTiles, List.map_filterMap, List.filterMap_congr each, List.filterMap_some]

theorem takeDirtyTiles_held (sound : IsSound laws r renewed) {t : DirtyTile α}
    (taken : t ∈ r.takeDirtyTiles.1) :
    ∃ tile, r.tileAt (t.object, t.direction) = some tile ∧ t.rect = tile.rect := by
  obtain ⟨key, marked, drawn⟩ := List.mem_filterMap.mp taken
  obtain ⟨tile, holds⟩ := Option.isSome_iff_exists.mp ((sound.marked key).mp marked).1
  obtain ⟨t', drawn', rfl, same⟩ := dirtyTile?_eq_some sound.sized holds
  obtain rfl : t' = t := Option.some.inj (drawn'.symm.trans drawn)
  exact ⟨tile, holds, same⟩

end Drawing

section Results

/-- The registry neither leaks tiles nor lets two objects own one, and it never forgets one that has
to be drawn again: after any requests it is sound, taking the tiles to be drawn drops none of the
marks, and setting or removing an object concerns no other one. -/
theorem sound_of_requests (laws : RectAllocator.Laws A) (resolution maxObjects : Nat)
    (requests : List (Request α)) (small : ∀ request ∈ requests, request.IsSmall)
    (created : ∃ a : A, RectAllocator.create resolution = .ok a)
    (recreated : ∀ resolution maxObjects, .reconfigure resolution maxObjects ∈ requests →
      ∃ a : A, RectAllocator.create resolution = .ok a) :
    ∃ start r : Registry A α, create resolution maxObjects = .ok start ∧
      start.followAll requests = .ok r ∧ IsSound laws r (RenewedSince start requests) ∧
      r.takeDirtyTiles.1.map (fun t => (t.object, t.direction)) = r.dirtyTiles ∧
      (∀ t ∈ r.takeDirtyTiles.1,
        ∃ tile, r.tileAt (t.object, t.direction) = some tile ∧ t.rect = tile.rect) ∧
      ∀ id, (∀ desc, LeavesOthers id r (r.setObject id desc).1) ∧
        LeavesOthers id r (r.removeObject id).1 := by
  obtain ⟨a, made⟩ := created
  have started : (create resolution maxObjects : Except Fault (Registry A α)) =
      .ok ⟨a, resolution, maxObjects, [], [], true⟩ := by
    rw [create, made]
    rfl
  obtain ⟨r, ran, sound⟩ := isSound_followAll (isSound_create started) small recreated
  exact ⟨_, r, started, ran, sound, takeDirtyTiles_keys sound,
    fun _ => takeDirtyTiles_held sound,
    fun id => ⟨leavesOthers_setObject r id, leavesOthers_removeObject r id⟩⟩

end Results

section Example

def isBeside (r s : Rect) : Bool :=
  r.origin.x + r.size.x ≤ s.origin.x || s.origin.x + s.size.x ≤ r.origin.x ||
    r.origin.y + r.size.y ≤ s.origin.y || s.origin.y + s.size.y ≤ r.origin.y

theorem apart_of_isBeside {r s : Rect} (beside : isBeside r s = true) : r.Apart s := by
  intro p first second
  simp only [isBeside, Bool.or_eq_true, decide_eq_true_eq] at beside
  simp only [Rect.Contains] at first second
  omega

structure Guarded where
  tree : Guillotine
  side : Nat
  held : List Allocation

namespace Guarded

def accepts (g : Guarded) (size : Vec2 Nat) (t : Allocation) : Bool :=
  t.rect.size = size && t.rect.origin.x + size.x ≤ g.side && t.rect.origin.y + size.y ≤ g.side &&
    g.held.all fun u => u.id ≠ t.id && isBeside u.rect t.rect

def allocate (g : Guarded) (size : Vec2 Nat) : Option Allocation × Guarded :=
  match g.tree.allocate size with
  | (some t, tree) =>
    if g.accepts size t then (some t, { g with tree, held := t :: g.held })
    else (none, { g with tree })
  | (none, tree) => (none, { g with tree })

instance : RectAllocator Guarded where
  create side := do return ⟨← Guillotine.create side, side, []⟩
  allocate := allocate
  release g id := { g with tree := g.tree.release id, held := g.held.filter (·.id ≠ id) }

theorem allocate_cases (g : Guarded) (size : Vec2 Nat) :
    (∃ t tree, g.accepts size t = true ∧
      g.allocate size = (some t, { g with tree, held := t :: g.held })) ∨
    ∃ tree, g.allocate size = (none, { g with tree }) := by
  rw [allocate]
  rcases g.tree.allocate size with ⟨_ | t, tree⟩
  · exact .inr ⟨tree, rfl⟩
  · by_cases accepted : g.accepts size t = true
    · exact .inl ⟨t, tree, accepted, if_pos accepted⟩
    · exact .inr ⟨tree, if_neg accepted⟩

def laws : RectAllocator.Laws Guarded where
  Valid _ := True
  side := side
  live g := {t | t ∈ g.held}
  create made := by
    obtain ⟨tree, -, ended⟩ := bind_eq_ok.mp made
    obtain rfl := Except.ok.inj ended
    simp
  serve {g g'} size t _ _ served := by
    rcases allocate_cases g size with ⟨t', tree, accepted, ended⟩ | ⟨tree, ended⟩
    · have same := ended.symm.trans served
      obtain rfl : t' = t := Option.some.inj (congrArg Prod.fst same)
      obtain rfl := congrArg Prod.snd same
      simp only [accepts, Bool.and_eq_true, decide_eq_true_eq, List.all_eq_true] at accepted
      obtain ⟨⟨⟨rfl, hx⟩, hy⟩, others⟩ := accepted
      refine ⟨trivial, rfl, Set.ext fun u => by simp, rfl, ⟨hx, hy⟩, fun u member => ?_⟩
      exact ⟨(others u member).1, apart_of_isBeside (others u member).2⟩
    · have same := congrArg Prod.fst (ended.symm.trans served)
      exact absurd same (by simp)
  refuse {g g'} size _ _ refused := by
    rcases allocate_cases g size with ⟨t, tree, -, ended⟩ | ⟨tree, ended⟩
    · have same := congrArg Prod.fst (ended.symm.trans refused)
      exact absurd same (by simp)
    · obtain rfl := congrArg Prod.snd (ended.symm.trans refused)
      exact ⟨trivial, rfl, rfl⟩
  release {g t} _ _ := by
    refine ⟨trivial, rfl, Set.ext fun u => ?_⟩
    simp [RectAllocator.release]

end Guarded

def cube (side : Nat) : ObjectDesc ℚ :=
  ⟨.identity, ⟨1, 1, 1⟩, .replicate directionsCount ⟨side, side⟩⟩

/-- An atlas that is too small for all tiles of two objects, until it is resized. -/
def crowded : List (Request ℚ) :=
  [.set 1 (cube 4), .set 2 (cube 8), .takeDirtyTiles, .set 1 (cube 5), .remove 2, .set 3 (cube 4),
    .serialize, .reconfigure 32 2, .takeDirtyTiles, .set 3 (cube 6), .set 2 (cube 4)]

theorem areSmall_cube {side : Nat} (short : side < 2147483648) : AreSmall (cube side).tileSizes := by
  intro dir
  rw [sizeIn, cube, Vector.getElem?_replicate]
  by_cases inside : dir < directionsCount
  · rw [if_pos inside]
    exact ⟨short, short⟩
  · rw [if_neg inside]
    decide

/-- The tiles of a registry, in the order of its objects, along with its marks. -/
def content (r : Registry A ℚ) : List (Nat × List (Option Rect)) × List (Nat × Nat) :=
  (r.entries.map fun e => (e.id, e.tiles.toList.map (·.map (·.rect))), r.dirtyTiles)

def crowdedContent (A : Type) [RectAllocator A] :
    Except Fault (List (Nat × List (Option Rect)) × List (Nat × Nat)) := do
  let start : Registry A ℚ ← create 16 2
  return content (← start.followAll crowded)

/-- The guard never interferes here. -/
theorem crowded_sound : crowdedContent Guarded = crowdedContent Guillotine ∧
    ∃ start r : Registry Guarded ℚ, create 16 2 = .ok start ∧ start.followAll crowded = .ok r ∧
      IsSound Guarded.laws r (RenewedSince start crowded) := by
  refine ⟨by decide +kernel, ?_⟩
  have small : ∀ request ∈ crowded, request.IsSmall := by
    simp [crowded, Request.IsSmall, areSmall_cube]
  have recreated : ∀ resolution maxObjects, .reconfigure resolution maxObjects ∈ crowded →
      ∃ a : Guarded, RectAllocator.create resolution = .ok a := by
    intro resolution maxObjects asked
    obtain ⟨rfl, -⟩ : resolution = 32 ∧ maxObjects = 2 := by simpa [crowded] using asked
    exact ⟨_, rfl⟩
  obtain ⟨start, r, made, ran, sound, -⟩ :=
    sound_of_requests Guarded.laws 16 2 crowded small ⟨_, rfl⟩ recreated
  exact ⟨start, r, made, ran, sound⟩

end Example

end IrradianceField.Registry
