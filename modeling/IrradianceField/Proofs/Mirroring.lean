import IrradianceField.Proofs.Replaying

/-!
Mirroring: after every flush the buffers of the device repeat what the renderer keeps of them, however
it has been called before.
-/

namespace IrradianceField

open Recorded

/-- What is called of a renderer, uploads included. -/
inductive Action (α : Type) where
  | call (c : Renderer.Call α)
  | update (viewPos : Vec3 α) (raysRotation : Quat α)
  | writeField (cubes : List (Cube α)) (values : Array α)
  | writeTile (rect : Rect) (c : Capture α)
  | writeAtlas (c : Capture α)
  | writeSky (radiance : Vec3 α → Vec3 α)
  | writeScreen (clipToWorld : Mat4 α) (c : Capture α)

def skyAfter {α : Type} (last : Option (Vec3 α → Vec3 α)) : Action α → Option (Vec3 α → Vec3 α)
  | .writeSky radiance => some radiance
  | _ => last

def lastSky {α : Type} (actions : List (Action α)) : Option (Vec3 α → Vec3 α) :=
  actions.foldl skyAfter none

/-- Buffers whose contents the renderer repeats: the constants, the sky, and the records of the
objects. -/
def BufferName.isMirrored : BufferName → Bool
  | volume | voxelLayout | atlas | view | sky | objects | addresses | tiles => true
  | _ => false

theorem Sky.size_of_bake {α : Type} [Scalar α] {radiance : Vec3 α → Vec3 α}
    {map : Array (Vec4 α)} (baked : bake radiance = .ok map) : map.size = 4096 := by
  obtain ⟨count, counted, done⟩ := bind_eq_ok.mp baked
  obtain ⟨texels, each, ended⟩ := bind_eq_ok.mp done
  obtain ⟨rfl, -⟩ := Word.mul_eq_ok.mp counted
  obtain rfl := Except.ok.inj ended
  exact (mapM_range_eq_ok.mp each).1

namespace Memory

variable {α : Type} {m n o : Memory α} {h : Handle BufferName}

structure SameBut (h : Handle BufferName) (m n : Memory α) : Prop where
  others : ∀ k ≠ h, n k = m k
  length : (n h).length = (m h).length

theorem SameBut.refl : SameBut h m m := ⟨fun _ _ => rfl, rfl⟩

theorem sameBut_write (offset : Nat) (cells : List (Cell α)) :
    SameBut h m (m.apply (.write h offset cells)) where
  others k other := Function.update_of_ne other _ _
  length := by simp [apply]

structure Puts (h : Handle BufferName) (cells : List (Cell α)) (m n : Memory α) : Prop
    extends SameBut h m n where
  head : cells <+: n h

theorem puts_nil : Puts h [] m m := ⟨.refl, List.nil_prefix⟩

/-- Buffers of a generation that are not mirrored may differ in their contents. -/
structure Leaves (generation : Nat) (m n : Memory α) : Prop where
  mirrored : ∀ b : BufferName, b.isMirrored = true → n ⟨b, generation⟩ = m ⟨b, generation⟩
  length : ∀ b : BufferName, (n ⟨b, generation⟩).length = (m ⟨b, generation⟩).length

theorem Leaves.refl {generation : Nat} : Leaves generation m m := ⟨fun _ _ => rfl, fun _ => rfl⟩

theorem Leaves.trans {generation : Nat} (first : Leaves generation m n)
    (second : Leaves generation n o) : Leaves generation m o where
  mirrored b listed := (second.mirrored b listed).trans (first.mirrored b listed)
  length b := (second.length b).trans (first.length b)

theorem SameBut.length_eq (same : SameBut h m n) (k : Handle BufferName) :
    (n k).length = (m k).length := by
  by_cases this : k = h
  · rw [this, same.length]
  · rw [same.others k this]

theorem SameBut.leaves {generation : Nat} {b : BufferName} (same : SameBut ⟨b, generation⟩ m n)
    (other : b.isMirrored = false) : Leaves generation m n where
  mirrored c listed := by
    apply same.others
    rintro ⟨rfl⟩
    rw [other] at listed
    cases listed
  length c := same.length_eq _

end Memory

namespace Registry

variable {A α : Type} [RectAllocator A] {r : Registry A α} {id : Nat}

theorem isDirty_reconfigure {resolution maxObjects : Nat}
    {result : Registry A α × List RegistryMessage}
    (done : r.reconfigure resolution maxObjects = .ok result) : result.1.isDirty = true := by
  obtain ⟨allocator, -, ended⟩ := bind_eq_ok.mp done
  rw [← Except.ok.inj ended]
  have loop : ∀ (l : List (RegistryEntry α)) (state : Registry A α × List RegistryMessage),
      (l.foldl reallocate state).1.isDirty = state.1.isDirty := by
    intro l
    induction l with
    | nil => exact fun state => rfl
    | cons e rest ih => exact fun state => (ih (reallocate state e)).trans rfl
  exact loop r.entries _

variable [Scalar α]

theorem kept_of_setObject {desc : ObjectDesc α} (clean : (r.setObject id desc).1.isDirty = false) :
    r.isDirty = false ∧ (r.setObject id desc).1.serialized = r.serialized := by
  rcases r.setObject_cases id desc with ⟨e, -, -, changed⟩ | ⟨-, -, -, added⟩ | ⟨-, same⟩
  · rw [changed] at clean
    cases clean
  · rw [added] at clean
    cases clean
  · rw [same] at clean ⊢
    exact ⟨clean, rfl⟩

theorem kept_of_removeObject (clean : (r.removeObject id).1.isDirty = false) :
    r.isDirty = false ∧ (r.removeObject id).1.serialized = r.serialized := by
  rw [removeObject] at clean ⊢
  cases found : r.find? id with
  | none =>
      rw [found] at clean
      exact ⟨clean, rfl⟩
  | some e =>
      rw [found] at clean
      cases clean

end Registry

namespace Renderer

open Memory

variable {A α : Type} {r r' : Renderer A α} {m m' : Memory α} {b : BufferName}

section Writes

variable {u : Unit}

theorem gives_write {offset : Nat} {cells : List (Cell α)} :
    (r.write b offset cells).Gives m u m' ↔
      (∃ size, b.size r.config = .ok size ∧ offset + cells.length * 4 ≤ size) ∧
        m.apply (.write (r.buffer b) offset cells) = m' := by
  simp only [write, gives_bind, gives_checked, gives_ensure, gives_emit, Cell.size]
  constructor
  · rintro ⟨size, _, ⟨sized, rfl⟩, _, _, ⟨fits, rfl⟩, same⟩
    exact ⟨⟨size, sized, of_decide_eq_true fits⟩, same⟩
  · rintro ⟨⟨size, sized, fits⟩, same⟩
    exact ⟨size, m, ⟨sized, rfl⟩, (), m, ⟨decide_eq_true fits, rfl⟩, same⟩

theorem prefix_of_write {size : Nat} {cells : List (Cell α)} (fits : cells.length * 4 ≤ size)
    (sized : (m (r.buffer b)).length = size / 4) :
    cells <+: m.apply (.write (r.buffer b) 0 cells) (r.buffer b) := by
  simp only [apply, Function.update_self, Nat.zero_div]
  apply prefix_overwrite
  omega

theorem puts_of_write {cells : List (Cell α)}
    (sized : ∀ size, b.size r.config = .ok size → (m (r.buffer b)).length = size / 4)
    (ran : (r.write b 0 cells).Gives m u m') : Puts (r.buffer b) cells m m' := by
  obtain ⟨⟨size, known, fits⟩, rfl⟩ := gives_write.mp ran
  exact ⟨sameBut_write 0 cells, prefix_of_write (by omega) (sized size known)⟩

theorem leaves_of_write {offset : Nat} {cells : List (Cell α)} (other : b.isMirrored = false)
    (ran : (r.write b offset cells).Gives m u m') : Leaves r.generation m m' := by
  obtain ⟨-, rfl⟩ := gives_write.mp ran
  exact (sameBut_write offset cells).leaves other

theorem leaves_of_writeAtlasTexels {start : Nat} {c : Capture α}
    (ran : (r.writeAtlasTexels start c).Gives m u m') : Leaves r.generation m m' := by
  obtain ⟨m₁, depth, ran⟩ := gives_andThen.mp ran
  obtain ⟨m₂, surfaces, direct⟩ := gives_andThen.mp ran
  exact ((leaves_of_write rfl depth).trans (leaves_of_write rfl surfaces)).trans
    (leaves_of_write rfl direct)

theorem leaves_of_writeTile {rect : Rect} {c : Capture α}
    (ran : (r.writeTile rect c).Gives m u m') : Leaves r.generation m m' := by
  obtain ⟨texels, m₁, counted, ran⟩ := gives_bind.mp ran
  obtain ⟨m₂, fits, ran⟩ := gives_andThen.mp ran
  obtain ⟨-, rfl⟩ := gives_checked.mp counted
  obtain ⟨-, rfl⟩ := gives_ensure.mp fits
  exact ran.forM (fun _ _ _ _ before row => before.trans (leaves_of_writeAtlasTexels row)) .refl

theorem leaves_of_writeAtlas {c : Capture α}
    (ran : (r.writeAtlas c).Gives m u m') : Leaves r.generation m m' := by
  obtain ⟨m₁, fits, ran⟩ := gives_andThen.mp ran
  obtain ⟨-, rfl⟩ := gives_ensure.mp fits
  exact leaves_of_writeAtlasTexels ran

end Writes

section Creation

variable {config : Config α} {generation : Nat} {l : List BufferName} {u : Unit}

theorem gives_createBuffer : (createBuffer config generation b).Gives m u m' ↔
    ∃ size, b.size config = .ok size ∧ Function.update m ⟨b, generation⟩ (zeros size) = m' := by
  simp [createBuffer, gives_bind, apply]

theorem created_of_forM (ran : (l.forM (createBuffer config generation)).Gives m u m') :
    (∀ b ∈ l, ∃ size, b.size config = .ok size ∧ m' ⟨b, generation⟩ = zeros size) ∧
      ∀ b ∉ l, m' ⟨b, generation⟩ = m ⟨b, generation⟩ := by
  induction l generalizing m with
  | nil =>
      obtain ⟨-, rfl⟩ := gives_pure.mp ran
      exact ⟨fun b listed => absurd listed List.not_mem_nil, fun _ _ => rfl⟩
  | cons first rest ih =>
      obtain ⟨n, created, others⟩ := gives_andThen.mp ran
      obtain ⟨size, sized, rfl⟩ := gives_createBuffer.mp created
      obtain ⟨listed, unlisted⟩ := ih others
      constructor
      · intro b member
        by_cases later : b ∈ rest
        · exact listed b later
        · obtain rfl : b = first := (List.mem_cons.mp member).resolve_right later
          exact ⟨size, sized, (unlisted b later).trans (Function.update_self _ _ _)⟩
      · intro b notMember
        rw [List.mem_cons, not_or] at notMember
        rw [unlisted b notMember.2, Function.update_of_ne]
        simp [notMember.1]

theorem gives_createPass {p : PassName} :
    (createPass generation p : Recorded α Unit).Gives m u m' → m' = m := by
  intro ran
  obtain ⟨m₁, groups, ran⟩ := gives_andThen.mp ran
  obtain ⟨m₂, layout, pipeline⟩ := gives_andThen.mp ran
  obtain rfl := gives_emit.mp layout
  obtain rfl := gives_emit.mp pipeline
  refine groups.forM (P := fun n => n = m) ?_ rfl
  rintro ⟨bindings, i⟩ - n o rfl group
  obtain ⟨n₁, layout, group⟩ := gives_andThen.mp group
  obtain rfl := gives_emit.mp layout
  exact (gives_emit.mp group).symm

theorem created_of_createResources [Scalar α]
    (ran : (createResources config generation).Gives m u m') (b : BufferName) :
    ∃ size, b.size config = .ok size ∧ m' ⟨b, generation⟩ = zeros size := by
  obtain ⟨problems, m₁, validated, ran⟩ := gives_bind.mp ran
  obtain ⟨m₂, usable, ran⟩ := gives_andThen.mp ran
  obtain ⟨m₃, buffers, passes⟩ := gives_andThen.mp ran
  have kept : m' = m₃ := by
    refine passes.forM (P := fun n => n = m₃) ?_ rfl
    intro p _ n o before pass
    exact (gives_createPass pass).trans before
  subst kept
  apply (created_of_forM buffers).1
  cases b <;> decide

end Creation

section Tracking

variable [RectAllocator A] [Scalar α]

def act (r : Renderer A α) : Action α → Recorded α (Renderer A α)
  | .call c => r.perform c
  | .update viewPos raysRotation => r.update viewPos raysRotation
  | .writeField cubes values => r.writeField cubes values
  | .writeTile rect c => do r.writeTile rect c; return r
  | .writeAtlas c => do r.writeAtlas c; return r
  | .writeSky radiance => r.writeSky radiance
  | .writeScreen clipToWorld c => r.writeScreen clipToWorld c

def session (config : Config α) (actions : List (Action α)) : Recorded α (Renderer A α) := do
  actions.foldlM act (← create config)

/-- The buffer begins with the value unless that is marked as changed. -/
def IsHeld {β : Type} (s : Staged β) (cells : β → List (Cell α)) (buffer : List (Cell α)) : Prop :=
  s.isDirty = false → cells s.value <+: buffer

/-- The records of all objects are in their buffers, and their numbers are known. -/
structure HoldsRecords (r : Renderer A α) (m : Memory α) : Prop where
  objects : r.registry.serialized.objects.toList.flatMap RecordWord.cells <+: m (r.buffer .objects)
  addresses : r.registry.serialized.addresses.toList.map .word <+: m (r.buffer .addresses)
  tiles : r.registry.serialized.tiles.toList.map .word <+: m (r.buffer .tiles)
  objectsCount : r.atlas.value.objectsCount = r.registry.serialized.addresses.size
  tilesCount : r.tilesCount = r.registry.serialized.tiles.size
  maxTileSize : r.maxTileSize = r.registry.serialized.maxTileSize

def HoldsSky (r : Renderer A α) (m : Memory α) : Prop :=
  r.sky = #[] ∨ m (r.buffer .sky) = r.sky.toList.flatMap Cell.ofScalars

def IsBaked (last : Option (Vec3 α → Vec3 α)) (sky : Array (Vec4 α)) : Prop :=
  match last with
  | none => sky = #[]
  | some radiance => Sky.bake radiance = .ok sky

/-- What the buffers repeat at any time: all that is not marked as changed. -/
structure Tracks (r : Renderer A α) (m : Memory α) (last : Option (Vec3 α → Vec3 α)) : Prop where
  sized : ∀ b : BufferName, ∃ size, b.size r.config = .ok size ∧ (m (r.buffer b)).length = size / 4
  volume : IsHeld r.volume Volume.cells (m (r.buffer .volume))
  voxelLayout : IsHeld r.voxelLayout VoxelLayout.cells (m (r.buffer .voxelLayout))
  atlas : IsHeld r.atlas AtlasConstants.cells (m (r.buffer .atlas))
  view : IsHeld r.view View.cells (m (r.buffer .view))
  records : r.registry.isDirty = false → r.HoldsRecords m
  sky : r.skyIsDirty = false → r.HoldsSky m
  baked : IsBaked last r.sky

end Tracking

section Steps

variable [Scalar α] {last : Option (Vec3 α → Vec3 α)}

theorem HoldsRecords.leaves (held : r.HoldsRecords m) (leaves : Leaves r.generation m m') :
    r.HoldsRecords m' where
  objects := (leaves.mirrored .objects rfl).symm ▸ held.objects
  addresses := (leaves.mirrored .addresses rfl).symm ▸ held.addresses
  tiles := (leaves.mirrored .tiles rfl).symm ▸ held.tiles
  objectsCount := held.objectsCount
  tilesCount := held.tilesCount
  maxTileSize := held.maxTileSize

theorem Tracks.leaves (tracks : r.Tracks m last) (leaves : Leaves r.generation m m') :
    r.Tracks m' last where
  sized b := by
    obtain ⟨size, sized, length⟩ := tracks.sized b
    exact ⟨size, sized, (leaves.length b).trans length⟩
  volume := (leaves.mirrored .volume rfl).symm ▸ tracks.volume
  voxelLayout := (leaves.mirrored .voxelLayout rfl).symm ▸ tracks.voxelLayout
  atlas := (leaves.mirrored .atlas rfl).symm ▸ tracks.atlas
  view := (leaves.mirrored .view rfl).symm ▸ tracks.view
  records clean := (tracks.records clean).leaves leaves
  sky clean := (tracks.sky clean).imp_right (leaves.mirrored .sky rfl).trans
  baked := tracks.baked

theorem tracks_start {config : Config α} {generation : Nat} {registry : Registry A α}
    {sky : Array (Vec4 α)} (dirty : registry.isDirty = true) (baked : IsBaked last sky)
    (ran : (createResources config generation).Gives m () m') :
    { start config generation registry with sky, skyIsDirty := !sky.isEmpty }.Tracks m' last where
  sized b := by
    obtain ⟨size, sized, created⟩ := created_of_createResources ran b
    refine ⟨size, sized, ?_⟩
    rw [buffer, start, created, length_zeros]
  volume := nofun
  voxelLayout := nofun
  atlas := nofun
  view := nofun
  records clean := by
    rw [start] at clean
    rw [dirty] at clean
    cases clean
  sky clean := by
    apply Or.inl
    simpa using clean
  baked := baked

theorem Tracks.reconfigure [RectAllocator A] {config : Config α} (tracks : r.Tracks m last)
    (ran : (r.reconfigure config).Gives m r' m') : r'.Tracks m' last := by
  rw [Renderer.reconfigure] at ran
  by_cases same : config.same r.config = true
  · rw [if_pos same] at ran
    obtain ⟨rfl, rfl⟩ := gives_pure.mp ran
    exact tracks
  · rw [if_neg same] at ran
    obtain ⟨m₁, resources, ran⟩ := gives_andThen.mp ran
    obtain ⟨⟨registry, log⟩, m₂, resized, ran⟩ := gives_bind.mp ran
    obtain ⟨m₃, told, ended⟩ := gives_andThen.mp ran
    obtain ⟨changed, rfl⟩ := gives_checked.mp resized
    obtain rfl := gives_tell.mp told
    obtain ⟨rfl, rfl⟩ := gives_pure.mp ended
    exact tracks_start (Registry.isDirty_reconfigure changed) tracks.baked resources

theorem Tracks.update {viewPos : Vec3 α} {raysRotation : Quat α} (tracks : r.Tracks m last)
    (ran : (r.update viewPos raysRotation).Gives m r' m') : r'.Tracks m' last := by
  obtain ⟨cascades, m₁, moved, ran⟩ := gives_bind.mp ran
  obtain ⟨volume, m₂, placed, ended⟩ := gives_bind.mp ran
  obtain ⟨-, rfl⟩ := gives_checked.mp moved
  obtain ⟨-, rfl⟩ := gives_checked.mp placed
  obtain ⟨rfl, rfl⟩ := gives_pure.mp ended
  exact { tracks with
    volume := nofun
    atlas := nofun
    records := fun clean => { tracks.records clean with } }

theorem Tracks.withRegistry {registry : Registry A α} (tracks : r.Tracks m last)
    (kept : registry.isDirty = false →
      r.registry.isDirty = false ∧ registry.serialized = r.registry.serialized) :
    { r with registry }.Tracks m last := by
  refine { tracks with records := fun clean => ?_ }
  obtain ⟨before, same⟩ := kept clean
  have held := tracks.records before
  exact {
    objects := same.symm ▸ held.objects
    addresses := same.symm ▸ held.addresses
    tiles := same.symm ▸ held.tiles
    objectsCount := same.symm ▸ held.objectsCount
    tilesCount := same.symm ▸ held.tilesCount
    maxTileSize := same.symm ▸ held.maxTileSize }

theorem Tracks.setObject [RectAllocator A] {id : Nat} {desc : ObjectDesc α}
    (tracks : r.Tracks m last)
    (ran : (r.setObject id desc).Gives m r' m') : r'.Tracks m' last := by
  obtain ⟨m₁, told, ended⟩ := gives_andThen.mp ran
  obtain rfl := gives_tell.mp told
  obtain ⟨rfl, rfl⟩ := gives_pure.mp ended
  exact tracks.withRegistry Registry.kept_of_setObject

theorem Tracks.removeObject [RectAllocator A] {id : Nat} (tracks : r.Tracks m last)
    (ran : (r.removeObject id).Gives m r' m') : r'.Tracks m' last := by
  obtain ⟨m₁, told, ended⟩ := gives_andThen.mp ran
  obtain rfl := gives_tell.mp told
  obtain ⟨rfl, rfl⟩ := gives_pure.mp ended
  exact tracks.withRegistry Registry.kept_of_removeObject

theorem Tracks.writeField {cubes : List (Cube α)} {values : Array α} (tracks : r.Tracks m last)
    (ran : (r.writeField cubes values).Gives m r' m') : r'.Tracks m' last := by
  obtain ⟨m₁, few, ran⟩ := gives_andThen.mp ran
  obtain ⟨expected, m₂, counted, ran⟩ := gives_bind.mp ran
  obtain ⟨m₃, fit, ran⟩ := gives_andThen.mp ran
  obtain ⟨m₄, voxels, ended⟩ := gives_andThen.mp ran
  obtain ⟨-, rfl⟩ := gives_ensure.mp few
  obtain ⟨-, rfl⟩ := gives_checked.mp counted
  obtain ⟨-, rfl⟩ := gives_ensure.mp fit
  obtain ⟨rfl, rfl⟩ := gives_pure.mp ended
  have placed := tracks.leaves (leaves_of_write rfl voxels)
  exact { placed with
    voxelLayout := nofun
    records := fun clean => { placed.records clean with } }

theorem Tracks.writeSky {radiance : Vec3 α → Vec3 α} (tracks : r.Tracks m last)
    (ran : (r.writeSky radiance).Gives m r' m') : r'.Tracks m' (some radiance) := by
  obtain ⟨sky, m₁, baked, ended⟩ := gives_bind.mp ran
  obtain ⟨made, rfl⟩ := gives_checked.mp baked
  obtain ⟨rfl, rfl⟩ := gives_pure.mp ended
  exact { tracks with
    records := fun clean => { tracks.records clean with }
    sky := nofun
    baked := made }

theorem Tracks.writeScreen {clipToWorld : Mat4 α} {c : Capture α} (tracks : r.Tracks m last)
    (ran : (r.writeScreen clipToWorld c).Gives m r' m') : r'.Tracks m' last := by
  obtain ⟨pixels, m₁, counted, ran⟩ := gives_bind.mp ran
  obtain ⟨m₂, fit, ran⟩ := gives_andThen.mp ran
  obtain ⟨m₃, depth, ran⟩ := gives_andThen.mp ran
  obtain ⟨m₄, surfaces, ran⟩ := gives_andThen.mp ran
  obtain ⟨m₅, output, ended⟩ := gives_andThen.mp ran
  obtain ⟨-, rfl⟩ := gives_checked.mp counted
  obtain ⟨-, rfl⟩ := gives_ensure.mp fit
  obtain ⟨rfl, rfl⟩ := gives_pure.mp ended
  have leaves := ((leaves_of_write rfl depth).trans (leaves_of_write rfl surfaces)).trans
    (leaves_of_write rfl output)
  have drawn := tracks.leaves leaves
  exact { drawn with
    view := nofun
    records := fun clean => { drawn.records clean with } }

end Steps

section Flushing

variable [Scalar α] {last : Option (Vec3 α → Vec3 α)}

theorem Tracks.length_eq (tracks : r.Tracks m last) (b : BufferName) (size : Nat)
    (known : b.size r.config = .ok size) : (m (r.buffer b)).length = size / 4 := by
  obtain ⟨size', sized, length⟩ := tracks.sized b
  rw [known] at sized
  exact Except.ok.inj sized ▸ length

theorem addresses_of_isEmpty (empty : r.registry.serialized.objects.isEmpty = true) :
    r.registry.serialized.addresses.toList = [] := by
  have laid := Registry.laidOut_serialized r.registry
  have none : r.registry.serialized.objects.size = 0 := Array.isEmpty_iff_size_eq_zero.mp empty
  rw [laid.size] at none
  cases entries : r.registry.entries with
  | nil =>
      rw [laid.addresses, entries]
      rfl
  | cons e rest =>
      rw [entries, List.map_cons, List.sum_cons, Registry.recordSize, Registry.tileOffsetOf,
        headerSize] at none
      omega

theorem puts_of_flushObjects (dirty : r.registry.isDirty = true)
    (sized : ∀ b : BufferName, ∀ size, b.size r.config = .ok size →
      (m (r.buffer b)).length = size / 4)
    (ran : r.flushObjects.Gives m r' m') :
    r' = r.withRecords ∧ ∃ n o,
      Puts (r.buffer .objects) (r.registry.serialized.objects.toList.flatMap RecordWord.cells) m n ∧
      Puts (r.buffer .addresses) (r.registry.serialized.addresses.toList.map .word) n o ∧
      Puts (r.buffer .tiles) (r.registry.serialized.tiles.toList.map .word) o m' := by
  have tail : ∀ o : Memory α, (∀ b : BufferName, (o (r.buffer b)).length = (m (r.buffer b)).length) →
      (if (!r.registry.serialized.tiles.isEmpty) = true then do
        r.write .tiles 0 (r.registry.serialized.tiles.toList.map .word)
        pure r.withRecords
      else pure r.withRecords : Recorded α (Renderer A α)).Gives o r' m' →
      r' = r.withRecords ∧
        Puts (r.buffer .tiles) (r.registry.serialized.tiles.toList.map .word) o m' := by
    intro o lengths ran
    cases tiles : r.registry.serialized.tiles.isEmpty with
    | true =>
        rw [tiles] at ran
        obtain ⟨rfl, rfl⟩ := gives_pure.mp ran
        rw [Array.isEmpty_iff.mp tiles]
        exact ⟨rfl, puts_nil⟩
    | false =>
        rw [tiles] at ran
        obtain ⟨n, written, ended⟩ := gives_andThen.mp ran
        obtain ⟨rfl, rfl⟩ := gives_pure.mp ended
        exact ⟨rfl, puts_of_write (fun size known => (lengths _).trans (sized _ _ known)) written⟩
  rw [Renderer.flushObjects, dirty] at ran
  obtain ⟨m₁, told, ran⟩ := gives_andThen.mp ran
  obtain rfl := gives_tell.mp told
  cases objects : r.registry.serialized.objects.isEmpty with
  | true =>
      rw [objects] at ran
      obtain ⟨same, tiles⟩ := tail m (fun _ => rfl) ran
      rw [Array.isEmpty_iff.mp objects, addresses_of_isEmpty objects]
      exact ⟨same, m, m, puts_nil, puts_nil, tiles⟩
  | false =>
      rw [objects] at ran
      obtain ⟨n, first, ran⟩ := gives_andThen.mp ran
      obtain ⟨o, second, ran⟩ := gives_andThen.mp ran
      have objects := puts_of_write (sized _) first
      have addresses := puts_of_write
        (fun size known => (objects.length_eq _).trans (sized _ size known)) second
      have lengths : ∀ b : BufferName, (o (r.buffer b)).length = (m (r.buffer b)).length :=
        fun b => (addresses.length_eq _).trans (objects.length_eq _)
      obtain ⟨same, tiles⟩ := tail o lengths ran
      exact ⟨same, n, o, objects, addresses, tiles⟩

theorem Tracks.flushObjects (tracks : r.Tracks m last) (ran : r.flushObjects.Gives m r' m') :
    r'.Tracks m' last ∧ r'.registry.isDirty = false := by
  cases dirty : r.registry.isDirty with
  | false =>
      rw [Renderer.flushObjects, dirty] at ran
      obtain ⟨rfl, rfl⟩ := gives_pure.mp ran
      exact ⟨tracks, dirty⟩
  | true =>
      obtain ⟨rfl, n, o, objects, addresses, tiles⟩ :=
        puts_of_flushObjects dirty tracks.length_eq ran
      have others : ∀ b : BufferName, b ≠ .objects → b ≠ .addresses → b ≠ .tiles →
          m' (r.buffer b) = m (r.buffer b) := by
        intro b notObjects notAddresses notTiles
        rw [tiles.others _ (by simpa [buffer] using notTiles),
          addresses.others _ (by simpa [buffer] using notAddresses),
          objects.others _ (by simpa [buffer] using notObjects)]
      have records : r.withRecords.HoldsRecords m' := {
        objects := by
          have kept : m' (r.buffer .objects) = n (r.buffer .objects) := by
            rw [tiles.others _ (by simp [buffer]), addresses.others _ (by simp [buffer])]
          exact kept.symm ▸ objects.head
        addresses := (tiles.others (r.buffer .addresses) (by simp [buffer])).symm ▸ addresses.head
        tiles := tiles.head
        objectsCount := rfl
        tilesCount := rfl
        maxTileSize := rfl }
      refine ⟨?_, rfl⟩
      exact {
        sized := fun b => by
          obtain ⟨size, sized, length⟩ := tracks.sized b
          refine ⟨size, sized, Eq.trans ?_ length⟩
          exact ((tiles.length_eq _).trans (addresses.length_eq _)).trans (objects.length_eq _)
        volume := (others .volume (by decide) (by decide) (by decide)).symm ▸ tracks.volume
        voxelLayout := (others .voxelLayout (by decide) (by decide) (by decide)).symm ▸ tracks.voxelLayout
        atlas := fun clean : true = false => absurd clean (by decide)
        view := (others .view (by decide) (by decide) (by decide)).symm ▸ tracks.view
        records := fun _ => records
        sky := fun clean => (tracks.sky clean).imp_right (others .sky (by decide) (by decide) (by decide)).trans
        baked := tracks.baked }

theorem IsBaked.length {sky : Array (Vec4 α)} (baked : IsBaked last sky) :
    sky = #[] ∨ (sky.toList.flatMap Cell.ofScalars).length = 16384 := by
  cases last with
  | none => exact .inl baked
  | some radiance =>
      have cells : ∀ v ∈ sky.toList, (Cell.ofScalars v).length = 4 := fun _ _ => rfl
      apply Or.inr
      rw [length_flatMap_block cells, Array.length_toList, Sky.size_of_bake baked]

theorem Tracks.flushSky (tracks : r.Tracks m last) (ran : r.flushSky.Gives m r' m') :
    r'.Tracks m' last ∧ r'.registry = r.registry ∧ r'.skyIsDirty = false := by
  cases dirty : r.skyIsDirty with
  | false =>
      rw [Renderer.flushSky, dirty] at ran
      obtain ⟨rfl, rfl⟩ := gives_pure.mp ran
      exact ⟨tracks, rfl, dirty⟩
  | true =>
      rw [Renderer.flushSky, dirty] at ran
      obtain ⟨n, written, ended⟩ := gives_andThen.mp ran
      obtain ⟨rfl, rfl⟩ := gives_pure.mp ended
      obtain ⟨-, rfl⟩ := gives_write.mp written
      have others : ∀ b : BufferName, b ≠ .sky →
          m.apply (.write (r.buffer .sky) 0 (r.sky.toList.flatMap Cell.ofScalars)) (r.buffer b) =
            m (r.buffer b) :=
        fun b other => (sameBut_write _ _).others _ (by simpa [buffer] using other)
      have held : r.HoldsSky
          (m.apply (.write (r.buffer .sky) 0 (r.sky.toList.flatMap Cell.ofScalars))) := by
        apply tracks.baked.length.imp_right
        intro length
        rw [apply, Function.update_self, Nat.zero_div, overwrite_all]
        rw [length, tracks.length_eq .sky 65536 rfl]
      refine ⟨{ tracks with
        sized := fun b => ?_
        volume := (others .volume (by decide)).symm ▸ tracks.volume
        voxelLayout := (others .voxelLayout (by decide)).symm ▸ tracks.voxelLayout
        atlas := (others .atlas (by decide)).symm ▸ tracks.atlas
        view := (others .view (by decide)).symm ▸ tracks.view
        records := fun clean => ?_
        sky := fun _ => held }, rfl, rfl⟩
      · obtain ⟨size, sized, length⟩ := tracks.sized b
        exact ⟨size, sized, ((sameBut_write _ _).length_eq _).trans length⟩
      · have before := tracks.records clean
        exact { before with
          objects := (others .objects (by decide)).symm ▸ before.objects
          addresses := (others .addresses (by decide)).symm ▸ before.addresses
          tiles := (others .tiles (by decide)).symm ▸ before.tiles }

omit [Scalar α] in
theorem puts_of_flushStaged {β : Type} {s s' : Staged β} {cells : β → List (Cell α)} {size : Nat}
    (held : IsHeld s cells (m (r.buffer b))) (fits : (cells s.value).length * 4 ≤ size)
    (sized : (m (r.buffer b)).length = size / 4)
    (ran : (r.flushStaged b s cells).Gives m s' m') :
    s' = { s with isDirty := false } ∧ Puts (r.buffer b) (cells s.value) m m' := by
  cases dirty : s.isDirty with
  | false =>
      rw [flushStaged, dirty] at ran
      obtain ⟨rfl, rfl⟩ := gives_pure.mp ran
      exact ⟨rfl, .refl, held dirty⟩
  | true =>
      rw [flushStaged, dirty] at ran
      obtain ⟨n, written, ended⟩ := gives_andThen.mp ran
      obtain ⟨rfl, rfl⟩ := gives_pure.mp ended
      obtain rfl := gives_emit.mp written
      exact ⟨rfl, sameBut_write _ _, prefix_of_write fits sized⟩

structure Mirrors (m : Memory α) (r : Renderer A α) : Prop where
  volume : r.volume.value.cells <+: m (r.buffer .volume)
  voxelLayout : r.voxelLayout.value.cells <+: m (r.buffer .voxelLayout)
  atlas : r.atlas.value.cells <+: m (r.buffer .atlas)
  view : r.view.value.cells <+: m (r.buffer .view)
  records : r.HoldsRecords m
  sky : r.HoldsSky m

omit [Scalar α] in
theorem length_volume (v : Volume α) : v.cells.length = 48 := by
  have scalars : ∀ p ∈ v.placements.toList,
      (Cell.ofScalars (p.origin.extend p.spacing)).length = 4 := fun _ _ => rfl
  have steps : ∀ p ∈ v.placements.toList,
      (Cell.ofSigned (p.scroll.extend 0) : List (Cell α)).length = 4 := fun _ _ => rfl
  simp only [Volume.cells, List.length_append, length_flatMap_block scalars,
    length_flatMap_block steps, Vector.length_toList]
  rfl

omit [Scalar α] in
theorem length_voxelLayout (l : VoxelLayout α) : l.cells.length = 20 := by
  have cubes : ∀ c ∈ l.cubes.toList,
      (Cell.ofScalars (c.center.extend c.extent)).length = 4 := fun _ _ => rfl
  simp only [VoxelLayout.cells, List.length_append, length_flatMap_block cubes,
    Vector.length_toList]
  rfl

/-- The buffers of the constants repeat them, and all else is as it was. -/
structure HoldsConstants (r : Renderer A α) (m m' : Memory α) : Prop where
  volume : r.volume.value.cells <+: m' (r.buffer .volume)
  voxelLayout : r.voxelLayout.value.cells <+: m' (r.buffer .voxelLayout)
  atlas : r.atlas.value.cells <+: m' (r.buffer .atlas)
  view : r.view.value.cells <+: m' (r.buffer .view)
  others : ∀ b : BufferName, b.isUniform = false → m' (r.buffer b) = m (r.buffer b)
  length : ∀ b : BufferName, (m' (r.buffer b)).length = (m (r.buffer b)).length

omit [Scalar α] in
theorem holdsConstants_of_puts {m₁ m₂ m₃ : Memory α}
    (volume : Puts (r.buffer .volume) r.volume.value.cells m m₁)
    (voxelLayout : Puts (r.buffer .voxelLayout) r.voxelLayout.value.cells m₁ m₂)
    (atlas : Puts (r.buffer .atlas) r.atlas.value.cells m₂ m₃)
    (view : Puts (r.buffer .view) r.view.value.cells m₃ m') : HoldsConstants r m m' := by
  have differs : ∀ b c : BufferName, b ≠ c → r.buffer b ≠ r.buffer c := by
    intro b c other
    simpa [buffer] using other
  refine ⟨?_, ?_, ?_, view.head, fun b storage => ?_, fun b => ?_⟩
  · rw [view.others _ (differs .volume .view nofun), atlas.others _ (differs .volume .atlas nofun),
      voxelLayout.others _ (differs .volume .voxelLayout nofun)]
    exact volume.head
  · rw [view.others _ (differs .voxelLayout .view nofun),
      atlas.others _ (differs .voxelLayout .atlas nofun)]
    exact voxelLayout.head
  · rw [view.others _ (differs .atlas .view nofun)]
    exact atlas.head
  · have away : ∀ c : BufferName, c.isUniform = true → r.buffer b ≠ r.buffer c := by
      intro c uniform
      apply differs
      rintro rfl
      rw [storage] at uniform
      cases uniform
    rw [view.others _ (away _ rfl), atlas.others _ (away _ rfl), voxelLayout.others _ (away _ rfl),
      volume.others _ (away _ rfl)]
  · rw [view.length_eq, atlas.length_eq, voxelLayout.length_eq, volume.length_eq]

theorem Tracks.flushConstants {m₁ m₂ m₃ : Memory α} {volume : Staged (Volume α)}
    {voxelLayout : Staged (VoxelLayout α)} {atlas : Staged (AtlasConstants α)}
    {view : Staged (View α)} (tracks : r.Tracks m last)
    (first : (r.flushStaged .volume r.volume Volume.cells).Gives m volume m₁)
    (second : (r.flushStaged .voxelLayout r.voxelLayout VoxelLayout.cells).Gives m₁ voxelLayout m₂)
    (third : (r.flushStaged .atlas r.atlas AtlasConstants.cells).Gives m₂ atlas m₃)
    (fourth : (r.flushStaged .view r.view View.cells).Gives m₃ view m') :
    { r with volume, voxelLayout, atlas, view } = { r with
        volume := { r.volume with isDirty := false }
        voxelLayout := { r.voxelLayout with isDirty := false }
        atlas := { r.atlas with isDirty := false }
        view := { r.view with isDirty := false } } ∧ HoldsConstants r m m' := by
  have differs : ∀ b c : BufferName, b ≠ c → r.buffer b ≠ r.buffer c := by
    intro b c other
    simpa [buffer] using other
  obtain ⟨rfl, volumePut⟩ := puts_of_flushStaged tracks.volume (length_volume _ ▸ le_rfl)
    (tracks.length_eq .volume 192 rfl) first
  have layoutKept := volumePut.others _ (differs .voxelLayout .volume nofun)
  obtain ⟨rfl, layoutPut⟩ := puts_of_flushStaged (layoutKept.symm ▸ tracks.voxelLayout)
    (length_voxelLayout _ ▸ Nat.le_of_ble_eq_true rfl)
    (layoutKept.symm ▸ tracks.length_eq .voxelLayout 96 rfl) second
  have atlasKept := (layoutPut.others _ (differs .atlas .voxelLayout nofun)).trans
    (volumePut.others _ (differs .atlas .volume nofun))
  obtain ⟨rfl, atlasPut⟩ := puts_of_flushStaged (atlasKept.symm ▸ tracks.atlas)
    (Nat.le_of_ble_eq_true rfl) (atlasKept.symm ▸ tracks.length_eq .atlas 64 rfl) third
  have viewKept := ((atlasPut.others _ (differs .view .atlas nofun)).trans
    (layoutPut.others _ (differs .view .voxelLayout nofun))).trans
    (volumePut.others _ (differs .view .volume nofun))
  obtain ⟨rfl, viewPut⟩ := puts_of_flushStaged (viewKept.symm ▸ tracks.view)
    (Nat.le_of_ble_eq_true rfl) (viewKept.symm ▸ tracks.length_eq .view 96 rfl) fourth
  exact ⟨rfl, holdsConstants_of_puts volumePut layoutPut atlasPut viewPut⟩

theorem Tracks.flush (tracks : r.Tracks m last) (ran : r.flush.Gives m r' m') :
    Mirrors m' r' ∧ r'.Tracks m' last := by
  obtain ⟨r₁, m₁, objects, ran⟩ := gives_bind.mp ran
  obtain ⟨r₂, m₂, sky, ran⟩ := gives_bind.mp ran
  obtain ⟨volume, m₃, first, ran⟩ := gives_bind.mp ran
  obtain ⟨voxelLayout, m₄, second, ran⟩ := gives_bind.mp ran
  obtain ⟨atlas, m₅, third, ran⟩ := gives_bind.mp ran
  obtain ⟨view, m₆, fourth, ended⟩ := gives_bind.mp ran
  obtain ⟨rfl, rfl⟩ := gives_pure.mp ended
  obtain ⟨tracks₁, clean₁⟩ := tracks.flushObjects objects
  obtain ⟨tracks₂, same, skyClean⟩ := tracks₁.flushSky sky
  obtain ⟨cleaned, constants⟩ := tracks₂.flushConstants first second third fourth
  have before := tracks₂.records (same ▸ clean₁)
  rw [cleaned]
  have mirrors : Mirrors m₆ { r₂ with
      volume := { r₂.volume with isDirty := false }
      voxelLayout := { r₂.voxelLayout with isDirty := false }
      atlas := { r₂.atlas with isDirty := false }
      view := { r₂.view with isDirty := false } } := {
    volume := constants.volume
    voxelLayout := constants.voxelLayout
    atlas := constants.atlas
    view := constants.view
    records := { before with
      objects := (constants.others .objects rfl).symm ▸ before.objects
      addresses := (constants.others .addresses rfl).symm ▸ before.addresses
      tiles := (constants.others .tiles rfl).symm ▸ before.tiles }
    sky := (tracks₂.sky skyClean).imp_right (constants.others .sky rfl).trans }
  refine ⟨mirrors, ?_⟩
  exact {
    sized := fun b => by
      obtain ⟨size, sized, length⟩ := tracks₂.sized b
      exact ⟨size, sized, (constants.length b).trans length⟩
    volume := fun _ => mirrors.volume
    voxelLayout := fun _ => mirrors.voxelLayout
    atlas := fun _ => mirrors.atlas
    view := fun _ => mirrors.view
    records := fun _ => mirrors.records
    sky := fun _ => mirrors.sky
    baked := tracks₂.baked }

end Flushing

section Results

variable [RectAllocator A] [Scalar α] {last : Option (Vec3 α → Vec3 α)} {config : Config α}
  {action : Action α} {actions : List (Action α)}

theorem tracks_create (ran : (create config : Recorded α (Renderer A α)).Gives m r m') :
    r.Tracks m' none := by
  obtain ⟨m₁, resources, ran⟩ := gives_andThen.mp ran
  obtain ⟨registry, m₂, made, ended⟩ := gives_bind.mp ran
  obtain ⟨checked, rfl⟩ := gives_checked.mp made
  obtain ⟨rfl, rfl⟩ := gives_pure.mp ended
  obtain ⟨allocator, -, same⟩ := bind_eq_ok.mp checked
  obtain rfl := Except.ok.inj same
  exact tracks_start rfl rfl resources

theorem Tracks.act (tracks : r.Tracks m last) (ran : (r.act action).Gives m r' m') :
    r'.Tracks m' (skyAfter last action) := by
  cases action with
  | call c =>
      cases c with
      | reconfigure config => exact tracks.reconfigure ran
      | set id desc => exact tracks.setObject ran
      | remove id => exact tracks.removeObject ran
      | takeDirtyTiles =>
          obtain ⟨rfl, rfl⟩ := gives_pure.mp ran
          exact tracks.withRegistry fun clean => ⟨clean, rfl⟩
      | flush => exact (tracks.flush ran).2
  | update viewPos raysRotation => exact tracks.update ran
  | writeField cubes values => exact tracks.writeField ran
  | writeTile rect c =>
      obtain ⟨n, written, ended⟩ := gives_andThen.mp ran
      obtain ⟨rfl, rfl⟩ := gives_pure.mp ended
      exact tracks.leaves (leaves_of_writeTile written)
  | writeAtlas c =>
      obtain ⟨n, written, ended⟩ := gives_andThen.mp ran
      obtain ⟨rfl, rfl⟩ := gives_pure.mp ended
      exact tracks.leaves (leaves_of_writeAtlas written)
  | writeSky radiance => exact tracks.writeSky ran
  | writeScreen clipToWorld c => exact tracks.writeScreen ran

theorem Tracks.along (tracks : r.Tracks m last)
    (ran : (actions.foldlM Renderer.act r).Gives m r' m') :
    r'.Tracks m' (actions.foldl skyAfter last) := by
  induction actions generalizing r m last with
  | nil =>
      obtain ⟨rfl, rfl⟩ := gives_pure.mp ran
      exact tracks
  | cons action rest ih =>
      rw [List.foldlM_cons] at ran
      obtain ⟨r₁, m₁, first, others⟩ := gives_bind.mp ran
      exact ih (tracks.act first) others

/-- After every flush the buffers repeat the constants and the records of the objects, and the sky
is the one that was set last, also where all buffers have been created anew since. -/
theorem mirrors_after_flush
    (ran : (session config (actions ++ [.call .flush])).Gives .blank r m) :
    Mirrors m r ∧ ∀ radiance, lastSky actions = some radiance →
      ∃ map, Sky.bake radiance = .ok map ∧
        m (r.buffer .sky) = map.toList.flatMap Cell.ofScalars := by
  obtain ⟨start, m₁, created, ran⟩ := gives_bind.mp ran
  obtain ⟨before, m₂, called, ran⟩ := gives_foldlM_append.mp ran
  rw [List.foldlM_cons] at ran
  obtain ⟨after, m₃, flushed, ended⟩ := gives_bind.mp ran
  obtain ⟨rfl, rfl⟩ := gives_pure.mp ended
  have tracks := (tracks_create created).along called
  obtain ⟨mirrors, tracks'⟩ := tracks.flush flushed
  refine ⟨mirrors, fun radiance known => ?_⟩
  have baked := tracks'.baked
  rw [← lastSky, known] at baked
  refine ⟨after.sky, baked, mirrors.sky.resolve_left ?_⟩
  intro empty
  have size := Sky.size_of_bake baked
  rw [empty] at size
  cases size

/-- A sky that is set before the configuration changes, an object that comes and one that goes. -/
def moving : List (Action ℚ) :=
  [.call (.set 1 (Registry.cube 2)), .call (.set 2 (Registry.cube 2)), .writeSky fun dir => dir,
    .update ⟨1, 0, 0⟩ .identity, .call .flush, .call (.reconfigure (bench 3)),
    .writeField [⟨⟨0, 0, 0⟩, 4⟩] (Array.replicate 8 1), .call (.remove 1), .call .takeDirtyTiles,
    .writeScreen .identity
      ⟨Array.replicate 6 1, Array.replicate 6 default, Array.replicate 6 default⟩]

theorem moving_mirrors : ∃ (r : Renderer Guillotine ℚ) (m : Memory ℚ) (map : Array (Vec4 ℚ)),
    (session (bench 2) (moving ++ [.call .flush])).Gives .blank r m ∧ Mirrors m r ∧
      Sky.bake (fun dir : Vec3 ℚ => dir) = .ok map ∧
        m (r.buffer .sky) = map.toList.flatMap Cell.ofScalars := by
  cases ran : (session (bench 2) (moving ++ [.call .flush]) :
      Recorded ℚ (Renderer Guillotine ℚ)).result with
  | error e =>
      have ends : (session (bench 2) (moving ++ [.call .flush]) :
          Recorded ℚ (Renderer Guillotine ℚ)).result.isOk = true := by
        decide +kernel
      rw [ran] at ends
      exact absurd ends Bool.false_ne_true
  | ok r =>
      obtain ⟨mirrors, sky⟩ := mirrors_after_flush ⟨ran, rfl⟩
      obtain ⟨map, baked, held⟩ := sky _ rfl
      exact ⟨r, _, map, ⟨ran, rfl⟩, mirrors, baked, held⟩

end Results

end Renderer

end IrradianceField
