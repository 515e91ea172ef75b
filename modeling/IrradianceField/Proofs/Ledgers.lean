import IrradianceField.Atlas.Registry
import Mathlib.Data.Set.Insert
import Mathlib.Tactic

/-!
Ledgers: who holds what an allocator has handed out. The registry takes the tiles of an object one
by one and gives all of them back; each step is checked against the ledger.
-/

namespace IrradianceField

namespace Rect

def Within (r : Rect) (side : Nat) : Prop :=
  r.origin.x + r.size.x ≤ side ∧ r.origin.y + r.size.y ≤ side

def Apart (r s : Rect) : Prop := ∀ p, r.Contains p → ¬s.Contains p

theorem Apart.symm {r s : Rect} (apart : r.Apart s) : s.Apart r := fun p second first =>
  apart p first second

end Rect

/-- A size that can be asked for. -/
def IsTileSize (size : Vec2 Nat) : Prop :=
  0 < size.x ∧ 0 < size.y ∧ size.x < 2147483648 ∧ size.y < 2147483648

/-- What is relied on of an allocator whose states show what has been handed out and not been given
back: a request is served with a number that nobody holds and a free rectangle of the atlas, or it
is refused; giving back a number frees what was handed out under it, and nothing else. -/
structure RectAllocator.Laws (A : Type) [RectAllocator A] where
  Valid : A → Prop
  side : A → Nat
  live : A → Set Allocation
  create : ∀ {n : Nat} {a : A}, RectAllocator.create n = .ok a →
    Valid a ∧ side a = n ∧ live a = ∅
  serve : ∀ {a b : A} {size : Vec2 Nat} {t : Allocation}, Valid a → IsTileSize size →
    RectAllocator.allocate a size = (some t, b) →
      Valid b ∧ side b = side a ∧ live b = insert t (live a) ∧ t.rect.size = size ∧
        t.rect.Within (side a) ∧ ∀ u ∈ live a, u.id ≠ t.id ∧ u.rect.Apart t.rect
  refuse : ∀ {a b : A} {size : Vec2 Nat}, Valid a → IsTileSize size →
    RectAllocator.allocate a size = (none, b) → Valid b ∧ side b = side a ∧ live b = live a
  release : ∀ {a : A} {t : Allocation}, Valid a → t ∈ live a →
    Valid (RectAllocator.release a t.id) ∧ side (RectAllocator.release a t.id) = side a ∧
      live (RectAllocator.release a t.id) = {u ∈ live a | u.id ≠ t.id}

variable {A : Type} [RectAllocator A] {laws : RectAllocator.Laws A}

/-- A size that can be asked for, or one that is refused whenever it is. -/
def RectAllocator.Laws.Answers (laws : RectAllocator.Laws A) (size : Vec2 Nat) : Prop :=
  IsTileSize size ∨ ∀ a, laws.Valid a → RectAllocator.allocate a size = (none, a)

/-- A holder, by the number of its object and the direction, with what it holds. The allocator has
handed out just that, to each holder something of its own. -/
structure Ledger (laws : RectAllocator.Laws A) (a : A) (side : Nat)
    (held : Nat × Nat → Option Allocation) : Prop where
  valid : laws.Valid a
  whole : laws.side a = side
  live : ∀ t, t ∈ laws.live a ↔ ∃ key, held key = some t
  within : ∀ key t, held key = some t → t.rect.Within side
  once : ∀ key other t u, held key = some t → held other = some u → key ≠ other →
    t.id ≠ u.id ∧ t.rect.Apart u.rect

section Steps

variable {a b : A} {side : Nat} {held : Nat × Nat → Option Allocation} {key : Nat × Nat}

theorem Ledger.create (made : RectAllocator.create side = .ok a) :
    Ledger laws a side fun _ => none := by
  obtain ⟨valid, same, empty⟩ := laws.create made
  refine ⟨valid, same, fun t => ?_, fun _ _ held => ?_, fun _ _ _ _ held => ?_⟩
  · simp [empty]
  · exact absurd held (by simp)
  · exact absurd held (by simp)

theorem Ledger.allocate (ledger : Ledger laws a side held) (free : held key = none)
    {size : Vec2 Nat} (proper : IsTileSize size) {tile : Option Allocation}
    (done : RectAllocator.allocate a size = (tile, b)) :
    Ledger laws b side (Function.update held key tile) ∧
      ∀ t, tile = some t → t.rect.size = size := by
  cases tile with
  | none =>
      obtain ⟨valid, same, live⟩ := laws.refuse ledger.valid proper done
      rw [← free, Function.update_eq_self]
      refine ⟨⟨valid, same.trans ledger.whole, fun t => ?_, ledger.within, ledger.once⟩, ?_⟩
      · rw [live, ledger.live]
      · intro t none
        exact absurd (free.symm.trans none) (by simp)
  | some t =>
      obtain ⟨valid, same, live, sized, within, apart⟩ := laws.serve ledger.valid proper done
      rw [ledger.whole] at same within
      have others : ∀ other u, other ≠ key → held other = some u →
          u.id ≠ t.id ∧ u.rect.Apart t.rect := fun other u _ holds =>
        apart u ((ledger.live u).mpr ⟨other, holds⟩)
      refine ⟨⟨valid, same, fun u => ?_, fun other u holds => ?_, ?_⟩, ?_⟩
      · rw [live, Set.mem_insert_iff, ledger.live]
        constructor
        · rintro (rfl | ⟨other, holds⟩)
          · exact ⟨key, Function.update_self ..⟩
          · refine ⟨other, ?_⟩
            have different : other ≠ key := by
              rintro rfl
              exact absurd (free.symm.trans holds) (by simp)
            rw [Function.update_of_ne different, holds]
        · rintro ⟨other, holds⟩
          by_cases own : other = key
          · rw [own, Function.update_self, Option.some.injEq] at holds
            exact .inl holds.symm
          · rw [Function.update_of_ne own] at holds
            exact .inr ⟨other, holds⟩
      · by_cases own : other = key
        · rw [own, Function.update_self, Option.some.injEq] at holds
          exact holds ▸ within
        · rw [Function.update_of_ne own] at holds
          exact ledger.within other u holds
      · intro first second u v holds holds' different
        by_cases own : first = key
        · have other : second ≠ key := fun same => different (own.trans same.symm)
          rw [own, Function.update_self, Option.some.injEq] at holds
          rw [Function.update_of_ne other] at holds'
          obtain ⟨fresh, away⟩ := others second v other holds'
          exact holds ▸ ⟨fresh.symm, away.symm⟩
        · rw [Function.update_of_ne own] at holds
          by_cases own' : second = key
          · rw [own', Function.update_self, Option.some.injEq] at holds'
            exact holds' ▸ others first u own holds
          · rw [Function.update_of_ne own'] at holds'
            exact ledger.once first second u v holds holds' different
      · intro u same
        exact Option.some.inj same ▸ sized

theorem Ledger.request (ledger : Ledger laws a side held) (free : held key = none)
    {size : Vec2 Nat} (answered : laws.Answers size) {tile : Option Allocation}
    (done : RectAllocator.allocate a size = (tile, b)) :
    Ledger laws b side (Function.update held key tile) ∧
      ∀ t, tile = some t → t.rect.size = size ∧ IsTileSize size := by
  rcases answered with proper | refused
  · obtain ⟨next, sized⟩ := ledger.allocate free proper done
    exact ⟨next, fun t same => ⟨sized t same, proper⟩⟩
  · rw [refused a ledger.valid] at done
    obtain ⟨rfl, rfl⟩ := Prod.mk.inj done
    rw [← free, Function.update_eq_self]
    exact ⟨ledger, fun t same => absurd (free.symm.trans same) (by simp)⟩

theorem Ledger.release (ledger : Ledger laws a side held) {t : Allocation}
    (holds : held key = some t) :
    Ledger laws (RectAllocator.release a t.id) side (Function.update held key none) := by
  obtain ⟨valid, same, live⟩ := laws.release ledger.valid ((ledger.live t).mpr ⟨key, holds⟩)
  have still : ∀ other u, Function.update held key none other = some u ↔
      other ≠ key ∧ held other = some u := by
    intro other u
    by_cases own : other = key
    · simp [own]
    · simp [own]
  refine ⟨valid, same.trans ledger.whole, fun u => ?_, fun other u kept => ?_, ?_⟩
  · simp only [live, ledger.live, still, Set.mem_ofPred_eq]
    constructor
    · rintro ⟨⟨other, kept⟩, different⟩
      refine ⟨other, ?_, kept⟩
      rintro rfl
      exact different (congrArg Allocation.id (Option.some.inj (kept.symm.trans holds)))
    · rintro ⟨other, different, kept⟩
      exact ⟨⟨other, kept⟩, (ledger.once other key u t kept holds different).1⟩
  · exact ledger.within other u ((still other u).mp kept).2
  · intro first second u v kept kept' different
    exact ledger.once first second u v ((still first u).mp kept).2 ((still second v).mp kept').2
      different

end Steps

namespace Registry

/-- What an object has for a direction: a tile, and the size that it asks for. -/
def tileIn (tiles : HeldTiles) (dir : Nat) : Option Allocation := tiles[dir]?.getD none
def sizeIn (sizes : Vector (Vec2 Nat) directionsCount) (dir : Nat) : Vec2 Nat :=
  sizes[dir]?.getD ⟨0, 0⟩

def assign (held : Nat × Nat → Option Allocation) (id : Nat) (tiles : HeldTiles)
    (key : Nat × Nat) : Option Allocation :=
  if key.1 = id then tileIn tiles key.2 else held key

def noTiles : HeldTiles := .replicate directionsCount none

@[simp] theorem tileIn_noTiles (dir : Nat) : tileIn noTiles dir = none := by
  rw [tileIn, noTiles, Vector.getElem?_replicate]
  split <;> rfl

theorem tileIn_set {tiles : HeldTiles} {dir : Nat} (inside : dir < directionsCount)
    (tile : Option Allocation) (i : Nat) :
    tileIn (tiles.setIfInBounds dir tile) i = if dir = i then tile else tileIn tiles i := by
  rw [tileIn, Vector.getElem?_setIfInBounds, if_pos inside]
  split <;> rfl

theorem tileIn_eq_none {tiles : HeldTiles} {dir : Nat} (outside : directionsCount ≤ dir) :
    tileIn tiles dir = none := by
  rw [tileIn, Vector.getElem?_eq_none outside]
  rfl

theorem lt_of_tileIn {tiles : HeldTiles} {dir : Nat} {tile : Allocation}
    (held : tileIn tiles dir = some tile) : dir < directionsCount := by
  by_contra outside
  rw [tileIn_eq_none (Nat.not_lt.mp outside)] at held
  exact absurd held (by simp)

variable {a : A} {side id : Nat} {held : Nat × Nat → Option Allocation} {tiles : HeldTiles}
  {sizes : Vector (Vec2 Nat) directionsCount}

theorem assign_set {dir : Nat} (inside : dir < directionsCount) (tile : Option Allocation) :
    assign held id (tiles.setIfInBounds dir tile) =
      Function.update (assign held id tiles) (id, dir) tile := by
  funext key
  obtain ⟨object, i⟩ := key
  rw [Function.update_apply, assign, assign, tileIn_set inside]
  by_cases own : object = id
  · by_cases here : dir = i
    · simp [own, here]
    · simp [own, here, Ne.symm here]
  · simp [own]

/-- Words to be said of the tiles that an object gets: each has the size that was asked for. -/
def AreSized (sizes : Vector (Vec2 Nat) directionsCount) (tiles : HeldTiles) : Prop :=
  ∀ dir t, tileIn tiles dir = some t → t.rect.size = sizeIn sizes dir ∧ IsTileSize t.rect.size

def AreSmall (sizes : Vector (Vec2 Nat) directionsCount) : Prop :=
  ∀ dir, (sizeIn sizes dir).x < 2147483648 ∧ (sizeIn sizes dir).y < 2147483648

def AreAnswered (laws : RectAllocator.Laws A) (sizes : Vector (Vec2 Nat) directionsCount) : Prop :=
  ∀ dir, min (sizeIn sizes dir).x (sizeIn sizes dir).y ≠ 0 → laws.Answers (sizeIn sizes dir)

theorem AreSmall.answered (small : AreSmall sizes) : AreAnswered laws sizes := by
  intro dir present
  obtain ⟨hx, hy⟩ := small dir
  exact .inl ⟨by omega, by omega, hx, hy⟩

/-- The tiles of an object for the first few directions have been dealt with. -/
structure Allocating (laws : RectAllocator.Laws A) (side : Nat)
    (held : Nat × Nat → Option Allocation) (id : Nat) (sizes : Vector (Vec2 Nat) directionsCount)
    (count : Nat) (state : A × HeldTiles × List RegistryMessage) : Prop where
  ledger : Ledger laws state.1 side (assign held id state.2.1)
  sized : AreSized sizes state.2.1
  later : ∀ dir, count ≤ dir → tileIn state.2.1 dir = none

theorem Allocating.step (answered : AreAnswered laws sizes) {dir : Nat} (inside : dir < directionsCount)
    {state : A × HeldTiles × List RegistryMessage}
    (before : Allocating laws side held id sizes dir state) :
    Allocating laws side held id sizes (dir + 1) (allocateTile id sizes state dir) := by
  obtain ⟨a, tiles, log⟩ := state
  obtain ⟨ledger, sized, later⟩ := before
  have skip : Allocating laws side held id sizes (dir + 1) (a, tiles, log) :=
    ⟨ledger, sized, fun i above => later i (Nat.le_of_succ_le above)⟩
  rw [allocateTile]
  change Allocating laws side held id sizes (dir + 1)
    (if min (sizeIn sizes dir).x (sizeIn sizes dir).y = 0 then (a, tiles, log) else _)
  by_cases empty : min (sizeIn sizes dir).x (sizeIn sizes dir).y = 0
  · rw [if_pos empty]
    exact skip
  rw [if_neg empty]
  have free : assign held id tiles (id, dir) = none := by
    rw [assign, if_pos rfl, later dir le_rfl]
  generalize served : RectAllocator.allocate a (sizes[dir]?.getD ⟨0, 0⟩) = result
  obtain ⟨tile, b⟩ := result
  obtain ⟨next, tile_size⟩ := ledger.request free (answered dir empty) served
  cases tile with
  | none =>
      rw [← free, Function.update_eq_self] at next
      exact ⟨next, skip.sized, skip.later⟩
  | some t =>
      refine ⟨?_, fun i u holds => ?_, fun i above => ?_⟩
      · rw [assign_set inside]
        exact next
      · rw [tileIn_set inside] at holds
        by_cases here : dir = i
        · rw [if_pos here, Option.some.injEq] at holds
          obtain ⟨same, proper⟩ := tile_size t rfl
          rw [← here, ← holds, same]
          exact ⟨rfl, proper⟩
        · rw [if_neg here] at holds
          exact sized i u holds
      · rw [tileIn_set inside, if_neg (Nat.ne_of_lt above)]
        exact skip.later i above

theorem ledger_allocateTiles (answered : AreAnswered laws sizes)
    (ledger : Ledger laws a side (assign held id noTiles)) :
    Ledger laws (allocateTiles a id sizes).1 side (assign held id (allocateTiles a id sizes).2.1) ∧
      AreSized sizes (allocateTiles a id sizes).2.1 := by
  have loop : ∀ count ≤ directionsCount, Allocating laws side held id sizes count
      ((List.range count).foldl (allocateTile id sizes) (a, noTiles, [])) := by
    intro count
    induction count with
    | zero =>
        intro _
        exact ⟨ledger, fun dir t none => absurd none (by simp), fun dir _ => tileIn_noTiles dir⟩
    | succ dir ih =>
        intro inside
        rw [List.range_succ, List.foldl_append]
        exact (ih (Nat.le_of_succ_le inside)).step answered inside
  exact ⟨(loop directionsCount le_rfl).ledger, (loop directionsCount le_rfl).sized⟩

/-- The ledger when an object has given back the tiles for the directions below `dir`; `rest` are
the others. -/
def remaining (held : Nat × Nat → Option Allocation) (id dir : Nat)
    (rest : List (Option Allocation)) (key : Nat × Nat) : Option Allocation :=
  if key.1 = id then if key.2 < dir then none else rest[key.2 - dir]?.getD none else held key

theorem remaining_zero : remaining held id 0 tiles.toList = assign held id tiles := by
  funext key
  simp [remaining, assign, tileIn]

theorem remaining_nil (dir : Nat) : remaining held id dir [] = assign held id noTiles := by
  funext key
  simp [remaining, assign]

theorem remaining_cons (dir : Nat) (tile : Option Allocation) (rest : List (Option Allocation)) :
    remaining held id (dir + 1) rest =
      Function.update (remaining held id dir (tile :: rest)) (id, dir) none := by
  funext key
  obtain ⟨object, i⟩ := key
  rw [Function.update_apply, remaining, remaining]
  by_cases own : object = id
  · rcases Nat.lt_trichotomy i dir with below | here | above
    · simp [own, below, Nat.lt_succ_of_lt below, Nat.ne_of_lt below]
    · simp [own, here]
    · have further : i - dir = i - (dir + 1) + 1 := by omega
      simp [own, further, Nat.not_lt.mpr above.le, Nat.not_lt.mpr (Nat.succ_le_of_lt above),
        Nat.ne_of_gt above]
  · simp [own]

def releaseTile (a : A) : Option Allocation → A
  | some t => RectAllocator.release a t.id
  | none => a

theorem releaseTiles_eq : releaseTiles a tiles = tiles.toList.foldl releaseTile a := by
  refine congrArg (fun turn => tiles.toList.foldl turn a) ?_
  funext a tile
  cases tile <;> rfl

theorem ledger_releaseTiles (ledger : Ledger laws a side (assign held id tiles)) :
    Ledger laws (releaseTiles a tiles) side (assign held id noTiles) := by
  have loop : ∀ (rest : List (Option Allocation)) (dir : Nat) (a : A),
      Ledger laws a side (remaining held id dir rest) →
      Ledger laws (rest.foldl releaseTile a) side (assign held id noTiles) := by
    intro rest
    induction rest with
    | nil =>
        intro dir a ledger
        rw [remaining_nil] at ledger
        exact ledger
    | cons tile rest ih =>
        intro dir a ledger
        have first : remaining held id dir (tile :: rest) (id, dir) = tile := by simp [remaining]
        rw [List.foldl_cons]
        apply ih (dir + 1)
        rw [remaining_cons dir tile]
        cases tile with
        | none =>
            rw [Function.update_eq_self_iff.mpr first.symm]
            exact ledger
        | some t => exact ledger.release first
  rw [← remaining_zero] at ledger
  rw [releaseTiles_eq]
  exact loop tiles.toList 0 a ledger

end Registry

end IrradianceField
