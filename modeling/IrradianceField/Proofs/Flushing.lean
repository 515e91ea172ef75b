import IrradianceField.Proofs.Requests
import IrradianceField.Proofs.Serializing
import IrradianceField.Renderer.Upload

/-!
Flushing: the records of the objects fit their buffers as long as no change of the configuration
takes the limit of the objects below their number.
-/

namespace IrradianceField

namespace Recorded

variable {α β γ : Type}

@[simp] theorem result_pure (b : β) : (pure b : Recorded α β).result = .ok b := rfl

theorem result_bind_eq_ok {x : Recorded α β} {f : β → Recorded α γ} {c : γ} :
    (x >>= f).result = .ok c ↔ ∃ b, x.result = .ok b ∧ (f b).result = .ok c := by
  obtain ⟨commands, messages, result⟩ := x
  cases result with
  | ok b => simp [bind, andThen]
  | error e => simp [bind, andThen]

theorem result_andThen_eq_ok {x : Recorded α Unit} {f : Unit → Recorded α γ} {c : γ} :
    (x >>= f).result = .ok c ↔ x.result = .ok () ∧ (f ()).result = .ok c := by
  rw [result_bind_eq_ok]
  constructor
  · rintro ⟨_, first, second⟩
    exact ⟨first, second⟩
  · rintro ⟨first, second⟩
    exact ⟨(), first, second⟩

@[simp] theorem result_checked_eq_ok {x : Except Fault β} {b : β} :
    (checked x : Recorded α β).result = .ok b ↔ x = .ok b := by
  cases x with
  | ok c => simp [checked, ofResult, Except.mapError]
  | error e => simp [checked, ofResult, Except.mapError]

@[simp] theorem result_ensure_eq_ok {condition : Bool} {e : RenderFailure α} {u : Unit} :
    (ensure condition e).result = .ok u ↔ condition = true := by
  cases condition with
  | true => simp [ensure]
  | false => simp [ensure, fail, ofResult]

@[simp] theorem result_tell (messages : List RegistryMessage) :
    (tell messages : Recorded α Unit).result = .ok () := rfl

@[simp] theorem result_emit (c : Command α) : (emit c).result = .ok () := rfl

end Recorded

open Recorded

section Sizes

variable {α : Type} {config : Config α} {b : BufferName} {n : Nat}

theorem BufferName.content_le (storage : b.isUniform = false) (sized : b.size config = .ok n) :
    ∃ content, b.contentSize config = .ok content ∧ content ≤ n := by
  obtain ⟨content, held, sized⟩ := bind_eq_ok.mp sized
  rw [storage] at sized
  obtain ⟨rounded, round, ended⟩ := bind_eq_ok.mp sized
  obtain ⟨sum, added, same⟩ := bind_eq_ok.mp round
  obtain rfl := Except.ok.inj ended
  obtain rfl := Except.ok.inj same
  obtain ⟨rfl, -⟩ := Size.add_eq_ok.mp added
  refine ⟨content, held, ?_⟩
  simp only [texelBytes]
  omega

theorem BufferName.objects_le (sized : objects.size config = .ok n) :
    config.atlasMaxObjects * 36 * 16 ≤ n := by
  obtain ⟨content, held, room⟩ := content_le rfl sized
  obtain ⟨count, counted, total⟩ := bind_eq_ok.mp held
  obtain ⟨rfl, -⟩ := Size.mul_eq_ok.mp counted
  obtain ⟨rfl, -⟩ := Size.mul_eq_ok.mp total
  exact room

theorem BufferName.addresses_le (sized : addresses.size config = .ok n) :
    config.atlasMaxObjects * 4 ≤ n := by
  obtain ⟨content, held, room⟩ := content_le rfl sized
  obtain ⟨count, counted, total⟩ := bind_eq_ok.mp held
  obtain rfl := Except.ok.inj counted
  obtain ⟨rfl, -⟩ := Size.mul_eq_ok.mp total
  exact room

theorem BufferName.tiles_le (sized : tiles.size config = .ok n) :
    config.atlasMaxObjects * 6 * 4 ≤ n := by
  obtain ⟨content, held, room⟩ := content_le rfl sized
  obtain ⟨count, counted, total⟩ := bind_eq_ok.mp held
  obtain ⟨rfl, -⟩ := Size.mul_eq_ok.mp counted
  obtain ⟨rfl, -⟩ := Size.mul_eq_ok.mp total
  exact room

end Sizes

namespace Registry

variable {A α : Type} [Scalar α] {resolution : Nat} {entries : List (RegistryEntry α)}
  {out : SerializedAtlas α}

omit [Scalar α] in
theorem recordSize_le (e : RegistryEntry α) : recordSize e ≤ 36 := by
  have few := length_heldTiles_le e
  simp only [recordSize, tileOffsetOf, headerSize, tileSize]
  omega

theorem LaidOut.objects_le (laid : LaidOut resolution entries out) :
    out.objects.size ≤ 36 * entries.length := by
  rw [← Array.length_toList, laid.objects]
  apply length_flatMap_le
  intro e _
  rw [length_recordWords]
  exact recordSize_le e

theorem LaidOut.addresses_size (laid : LaidOut resolution entries out) :
    out.addresses.size = entries.length := by
  rw [← Array.length_toList, laid.addresses]
  simp

theorem LaidOut.tiles_le (laid : LaidOut resolution entries out) :
    out.tiles.size ≤ 6 * entries.length := by
  have each : ∀ placed ∈ entries.zipIdx,
      (tileAddresses (addressIn entries placed.2) placed.1).length ≤ 6 := by
    intro placed _
    rw [tileAddresses, List.length_map, ← length_heldTiles]
    exact length_heldTiles_le placed.1
  have all := length_flatMap_le each
  rwa [← laid.tiles, List.length_zipIdx, Array.length_toList] at all

end Registry

namespace Renderer

variable {A α : Type} {r r' : Renderer A α} {b : BufferName}

theorem write_eq_ok {size : Nat} {cells : List (Cell α)} (sized : b.size r.config = .ok size)
    (room : cells.length * 4 ≤ size) : (r.write b 0 cells).result = .ok () := by
  rw [write]
  simp [result_bind_eq_ok, sized, Cell.size, room]

def HasRoom (r : Renderer A α) : Prop := r.registry.entries.length ≤ r.config.atlasMaxObjects

variable [Scalar α]

def withRecords (r : Renderer A α) : Renderer A α :=
  { r with
    registry := { r.registry with isDirty := false }
    atlas := r.atlas.modify fun a => { a with objectsCount := r.registry.serialized.addresses.size }
    tilesCount := r.registry.serialized.tiles.size
    maxTileSize := r.registry.serialized.maxTileSize }

def RecordsFit (r : Renderer A α) : Prop :=
  (r.registry.serialized.objects.isEmpty = false →
    (r.write .objects 0
      (r.registry.serialized.objects.toList.flatMap RecordWord.cells)).result = .ok () ∧
    (r.write .addresses 0 (r.registry.serialized.addresses.toList.map .word)).result = .ok ()) ∧
  (r.registry.serialized.tiles.isEmpty = false →
    (r.write .tiles 0 (r.registry.serialized.tiles.toList.map .word)).result = .ok ())

theorem flushObjects_eq_ok : r.flushObjects.result = .ok r' ↔
    (r.registry.isDirty = false ∧ r' = r) ∨
      (r.registry.isDirty = true ∧ r.RecordsFit ∧ r' = r.withRecords) := by
  rw [flushObjects]
  cases dirty : r.registry.isDirty with
  | false => simp [eq_comm]
  | true =>
      simp only [Bool.not_true, Bool.false_eq_true, if_false, Registry.serialize, RecordsFit]
      by_cases objects : r.registry.serialized.objects.isEmpty = true
      · by_cases tiles : r.registry.serialized.tiles.isEmpty = true
        · simp [result_andThen_eq_ok, objects, tiles, withRecords, @eq_comm _ r']
        · simp [result_andThen_eq_ok, objects, tiles, withRecords, @eq_comm _ r']
      · by_cases tiles : r.registry.serialized.tiles.isEmpty = true
        · simp [result_andThen_eq_ok, objects, tiles, withRecords, @eq_comm _ r', and_assoc]
        · simp [result_andThen_eq_ok, objects, tiles, withRecords, @eq_comm _ r', and_assoc]

theorem recordsFit_of_hasRoom (sized : ∀ b : BufferName, ∃ n, b.size r.config = .ok n)
    (room : r.HasRoom) : r.RecordsFit := by
  obtain ⟨objects, objects_sized⟩ := sized .objects
  obtain ⟨addresses, addresses_sized⟩ := sized .addresses
  obtain ⟨tiles, tiles_sized⟩ := sized .tiles
  have objects_room := BufferName.objects_le objects_sized
  have addresses_room := BufferName.addresses_le addresses_sized
  have tiles_room := BufferName.tiles_le tiles_sized
  have laid := Registry.laidOut_serialized r.registry
  have objects_few := laid.objects_le
  have addresses_few := laid.addresses_size
  have tiles_few := laid.tiles_le
  have cells : (r.registry.serialized.objects.toList.flatMap RecordWord.cells).length =
      4 * r.registry.serialized.objects.size := by
    rw [length_flatMap_block, Array.length_toList]
    rintro (_ | _) _ <;> rfl
  rw [HasRoom] at room
  refine ⟨fun _ => ⟨write_eq_ok objects_sized ?_, write_eq_ok addresses_sized ?_⟩,
    fun _ => write_eq_ok tiles_sized ?_⟩
  · rw [cells]
    omega
  · rw [List.length_map, Array.length_toList]
    omega
  · rw [List.length_map, Array.length_toList]
    omega

omit [Scalar α] in
theorem result_flushStaged {β : Type} (m : Staged β) (cells : β → List (Cell α)) :
    (r.flushStaged b m cells).result = .ok { m with isDirty := false } := by
  rw [flushStaged]
  cases m.isDirty <;> rfl

def withConstants (r : Renderer A α) : Renderer A α :=
  { r with
    volume := { r.volume with isDirty := false }
    voxelLayout := { r.voxelLayout with isDirty := false }
    atlas := { r.atlas with isDirty := false }
    view := { r.view with isDirty := false } }

theorem flush_eq_ok (clean : r.skyIsDirty = false) : r.flush.result = .ok r' ↔
    (r.registry.isDirty = false ∧ r' = r.withConstants) ∨
      (r.registry.isDirty = true ∧ r.RecordsFit ∧ r' = r.withRecords.withConstants) := by
  have rest : ∀ s : Renderer A α, s.skyIsDirty = false → ((do
      let r ← s.flushSky
      let volume ← r.flushStaged .volume r.volume Volume.cells
      let voxelLayout ← r.flushStaged .voxelLayout r.voxelLayout VoxelLayout.cells
      let atlas ← r.flushStaged .atlas r.atlas AtlasConstants.cells
      let view ← r.flushStaged .view r.view View.cells
      return { r with volume, voxelLayout, atlas, view }).result = .ok r' ↔
        r' = s.withConstants) := by
    intro s clean
    have same : s.flushSky.result = .ok s := by
      rw [flushSky, clean]
      rfl
    simp [result_bind_eq_ok, same, result_flushStaged, withConstants, @eq_comm _ r']
  rw [flush, result_bind_eq_ok]
  simp only [flushObjects_eq_ok]
  constructor
  · rintro ⟨s, ⟨dirty, rfl⟩ | ⟨dirty, fit, rfl⟩, ended⟩
    · exact .inl ⟨dirty, (rest s clean).mp ended⟩
    · exact .inr ⟨dirty, fit, (rest r.withRecords clean).mp ended⟩
  · rintro (⟨dirty, rfl⟩ | ⟨dirty, fit, rfl⟩)
    · exact ⟨r, .inl ⟨dirty, rfl⟩, (rest r clean).mpr rfl⟩
    · exact ⟨_, .inr ⟨dirty, fit, rfl⟩, (rest r.withRecords clean).mpr rfl⟩

end Renderer

namespace Registry

variable {A α : Type} [RectAllocator A] {r : Registry A α} {id limit : Nat}

@[simp] theorem maxObjects_setObject [Scalar α] (desc : ObjectDesc α) :
    (r.setObject id desc).1.maxObjects = r.maxObjects := by
  rcases setObject_cases r id desc with ⟨e, -, -, changed⟩ | ⟨-, -, -, added⟩ | ⟨-, same⟩
  · rw [changed]
    rfl
  · rw [added]
    rfl
  · rw [same]

theorem length_setObject_le [Scalar α] (desc : ObjectDesc α)
    (few : r.entries.length ≤ r.maxObjects) :
    (r.setObject id desc).1.entries.length ≤ r.maxObjects := by
  rcases setObject_cases r id desc with ⟨e, -, -, changed⟩ | ⟨-, room, -, added⟩ | ⟨-, same⟩
  · rw [changed]
    exact (List.length_map _).trans_le few
  · rw [added]
    exact List.length_append.trans_le room
  · rw [same]
    exact few

@[simp] theorem maxObjects_removeObject : (r.removeObject id).1.maxObjects = r.maxObjects := by
  rw [removeObject]
  split <;> rfl

theorem length_removeObject_le (room : r.entries.length ≤ limit) :
    (r.removeObject id).1.entries.length ≤ limit := by
  rw [removeObject]
  split
  · exact room
  · exact (List.length_filter_le _ _).trans room

theorem reconfigure_keeps {resolution maxObjects : Nat}
    {result : Registry A α × List RegistryMessage}
    (done : r.reconfigure resolution maxObjects = .ok result) :
    result.1.maxObjects = maxObjects ∧ result.1.entries.length = r.entries.length := by
  obtain ⟨allocator, -, ended⟩ := bind_eq_ok.mp done
  rw [← Except.ok.inj ended]
  have loop : ∀ (l : List (RegistryEntry α)) (state : Registry A α × List RegistryMessage),
      (l.foldl reallocate state).1.maxObjects = state.1.maxObjects ∧
        (l.foldl reallocate state).1.entries.length = state.1.entries.length := by
    intro l
    induction l with
    | nil => exact fun state => ⟨rfl, rfl⟩
    | cons e rest ih =>
        intro state
        obtain ⟨limit, length⟩ := ih (reallocate state e)
        refine ⟨limit.trans rfl, length.trans ?_⟩
        simp [reallocate, replace]
  exact loop r.entries _

end Registry

namespace Renderer

variable {A α : Type} [RectAllocator A] [Scalar α]

section Calls

/-- What is called of a renderer between frames. -/
inductive Call (α : Type) where
  | reconfigure (config : Config α)
  | set (id : Nat) (desc : ObjectDesc α)
  | remove (id : Nat)
  | takeDirtyTiles
  | flush

def perform (r : Renderer A α) : Call α → Recorded α (Renderer A α)
  | .reconfigure config => r.reconfigure config
  | .set id desc => r.setObject id desc
  | .remove id => r.removeObject id
  | .takeDirtyTiles => return r.takeDirtyTiles.2
  | .flush => r.flush

/-- Something is so before the calls and after each of them that succeeds. -/
def Along (P : Renderer A α → Prop) (r : Renderer A α) : List (Call α) → Prop
  | [] => P r
  | call :: rest => P r ∧ ∀ r', (r.perform call).result = .ok r' → r'.Along P rest

theorem Along.head {P : Renderer A α → Prop} {r : Renderer A α} {calls : List (Call α)}
    (along : r.Along P calls) : P r := by
  cases calls with
  | nil => exact along
  | cons call rest => exact along.1

/-- Whether a call leaves the limit of the objects at their number or above; only a new configuration
can fail to. -/
def KeepsRoom (r : Renderer A α) : Call α → Prop
  | .reconfigure config =>
    config.same r.config = true ∨ r.registry.entries.length ≤ config.atlasMaxObjects
  | _ => True

def RoomAlong (r : Renderer A α) : List (Call α) → Prop
  | [] => True
  | call :: rest => ∀ r', (r.perform call).result = .ok r' → r.KeepsRoom call ∧ r'.RoomAlong rest

end Calls

section Steps

variable {r r' : Renderer A α} {config : Config α} {call : Call α} {generation : Nat}

/-- What holds of a renderer whatever has been called: the limit is that of the configuration, all
buffers have their sizes, and there is no sky to be written. -/
structure IsPrepared (r : Renderer A α) : Prop where
  limit : r.registry.maxObjects = r.config.atlasMaxObjects
  sized : ∀ b : BufferName, ∃ n, b.size r.config = .ok n
  sky : r.sky = #[]
  clean : r.skyIsDirty = false

omit [RectAllocator A] [Scalar α] in
theorem result_forM_eq_ok {ι : Type} {f : ι → Recorded α Unit} {l : List ι}
    (done : (l.forM f).result = .ok ()) : ∀ i ∈ l, (f i).result = .ok () := by
  induction l with
  | nil => simp
  | cons i rest ih =>
      obtain ⟨first, others⟩ := result_andThen_eq_ok.mp done
      exact List.forall_mem_cons.mpr ⟨first, ih others⟩

omit [RectAllocator A] in
theorem sized_of_createResources (done : (createResources config generation).result = .ok ()) :
    ∀ b : BufferName, ∃ n, b.size config = .ok n := by
  intro b
  obtain ⟨problems, -, done⟩ := result_bind_eq_ok.mp done
  obtain ⟨-, done⟩ := result_andThen_eq_ok.mp done
  obtain ⟨buffers, -⟩ := result_andThen_eq_ok.mp done
  have listed : b ∈ BufferName.all := by cases b <;> decide
  obtain ⟨n, sized, -⟩ := result_bind_eq_ok.mp (result_forM_eq_ok buffers b listed)
  exact ⟨n, result_checked_eq_ok.mp sized⟩

theorem create_eq_ok (created : (create config : Recorded α (Renderer A α)).result = .ok r) :
    r.IsPrepared ∧ r.HasRoom ∧ r.config = config := by
  obtain ⟨resources, done⟩ := result_andThen_eq_ok.mp created
  obtain ⟨registry, made, ended⟩ := result_bind_eq_ok.mp done
  obtain ⟨allocator, -, same⟩ := bind_eq_ok.mp (result_checked_eq_ok.mp made)
  obtain rfl := Except.ok.inj same
  obtain rfl := Except.ok.inj ended
  exact ⟨⟨rfl, sized_of_createResources resources, rfl, rfl⟩, Nat.zero_le _, rfl⟩

theorem config_of_setObject {id : Nat} {desc : ObjectDesc α}
    (done : (r.setObject id desc).result = .ok r') : r'.config = r.config := by
  rw [← Except.ok.inj (result_andThen_eq_ok.mp done).2]

/-- A new configuration keeps the objects; those that do not have room are not refused. -/
theorem reconfigure_eq_ok (done : (r.reconfigure config).result = .ok r')
    (changed : ¬config.same r.config = true) :
    (∀ b : BufferName, ∃ n, b.size config = .ok n) ∧ r'.config = config ∧
      r'.registry.maxObjects = config.atlasMaxObjects ∧
      r'.registry.entries.length = r.registry.entries.length ∧ r'.sky = r.sky ∧
      r'.skyIsDirty = !r.sky.isEmpty := by
  rw [reconfigure, if_neg changed] at done
  obtain ⟨resources, done⟩ := result_andThen_eq_ok.mp done
  obtain ⟨⟨registry, log⟩, resized, done⟩ := result_bind_eq_ok.mp done
  obtain ⟨-, ended⟩ := result_andThen_eq_ok.mp done
  obtain rfl := Except.ok.inj ended
  obtain ⟨limit, length⟩ := Registry.reconfigure_keeps (result_checked_eq_ok.mp resized)
  exact ⟨sized_of_createResources resources, rfl, limit, length, rfl, rfl⟩

/-- A call leaves the renderer prepared; there is room for all objects after it if and only if it
keeps the room that there was before. -/
theorem IsPrepared.perform (prepared : r.IsPrepared) (room : r.HasRoom)
    (done : (r.perform call).result = .ok r') :
    r'.IsPrepared ∧ (r.KeepsRoom call ↔ r'.HasRoom) := by
  have limited : r.registry.entries.length ≤ r.registry.maxObjects := prepared.limit ▸ room
  cases call with
  | reconfigure config =>
      by_cases same : config.same r.config = true
      · have unchanged : r = r' := by
          rw [Renderer.perform, reconfigure, if_pos same] at done
          exact Except.ok.inj done
        subst unchanged
        exact ⟨prepared, iff_of_true (.inl same) room⟩
      · obtain ⟨sized, rfl, limit, length, sky, dirty⟩ := reconfigure_eq_ok done same
        rw [prepared.sky] at sky dirty
        refine ⟨⟨limit, sized, sky, dirty⟩, ?_⟩
        rw [HasRoom, length]
        exact or_iff_right same
  | set id desc =>
      obtain rfl := Except.ok.inj (result_andThen_eq_ok.mp done).2
      refine ⟨⟨?_, prepared.sized, prepared.sky, prepared.clean⟩, iff_of_true trivial ?_⟩
      · exact (Registry.maxObjects_setObject desc).trans prepared.limit
      · exact (Registry.length_setObject_le desc limited).trans_eq prepared.limit
  | remove id =>
      obtain rfl := Except.ok.inj (result_andThen_eq_ok.mp done).2
      refine ⟨⟨?_, prepared.sized, prepared.sky, prepared.clean⟩, iff_of_true trivial ?_⟩
      · exact Registry.maxObjects_removeObject.trans prepared.limit
      · exact Registry.length_removeObject_le room
  | takeDirtyTiles =>
      obtain rfl := Except.ok.inj done
      exact ⟨⟨prepared.limit, prepared.sized, prepared.sky, prepared.clean⟩,
        iff_of_true trivial room⟩
  | flush =>
      rcases (flush_eq_ok prepared.clean).mp done with ⟨-, rfl⟩ | ⟨-, -, rfl⟩
      · exact ⟨⟨prepared.limit, prepared.sized, prepared.sky, prepared.clean⟩,
          iff_of_true trivial room⟩
      · exact ⟨⟨prepared.limit, prepared.sized, prepared.sky, prepared.clean⟩,
          iff_of_true trivial room⟩

omit [RectAllocator A] in
theorem IsPrepared.flush_ends (prepared : r.IsPrepared) (room : r.HasRoom) :
    ∃ r', r.flush.result = .ok r' := by
  cases dirty : r.registry.isDirty with
  | false => exact ⟨_, (flush_eq_ok prepared.clean).mpr (.inl ⟨dirty, rfl⟩)⟩
  | true =>
      have fit := recordsFit_of_hasRoom prepared.sized room
      exact ⟨_, (flush_eq_ok prepared.clean).mpr (.inr ⟨dirty, fit, rfl⟩)⟩

theorem IsPrepared.along (prepared : r.IsPrepared) (room : r.HasRoom) (calls : List (Call α)) :
    (r.RoomAlong calls ↔ r.Along HasRoom calls) ∧
      (r.RoomAlong calls → r.Along (fun r => ∃ r', r.flush.result = .ok r') calls) := by
  induction calls generalizing r with
  | nil => exact ⟨iff_of_true trivial room, fun _ => prepared.flush_ends room⟩
  | cons call rest ih =>
      have step : ∀ r', (r.perform call).result = .ok r' → r'.IsPrepared ∧
          (r.KeepsRoom call ↔ r'.HasRoom) := fun r' done => prepared.perform room done
      constructor
      · constructor
        · intro keeps
          refine ⟨room, fun r' done => ?_⟩
          obtain ⟨kept, later⟩ := keeps r' done
          obtain ⟨prepared', same⟩ := step r' done
          exact (ih prepared' (same.mp kept)).1.mp later
        · rintro ⟨-, along⟩ r' done
          obtain ⟨prepared', same⟩ := step r' done
          have room' : r'.HasRoom := (along r' done).head
          exact ⟨same.mpr room', (ih prepared' room').1.mpr (along r' done)⟩
      · intro keeps
        refine ⟨prepared.flush_ends room, fun r' done => ?_⟩
        obtain ⟨kept, later⟩ := keeps r' done
        obtain ⟨prepared', same⟩ := step r' done
        exact (ih prepared' (same.mp kept)).2 later

end Steps

section Results

/-- The registry never holds more objects than its limit if and only if no new configuration takes
the limit below their number; and then no flush writes past the end of a buffer. -/
theorem flush_fits_with_room {config : Config α} {start : Renderer A α}
    (created : (create config : Recorded α (Renderer A α)).result = .ok start)
    (calls : List (Call α)) :
    (start.RoomAlong calls ↔ start.Along HasRoom calls) ∧
      (start.RoomAlong calls → start.Along (fun r => ∃ r', r.flush.result = .ok r') calls) := by
  obtain ⟨prepared, room, -⟩ := create_eq_ok created
  exact prepared.along room calls

def bench (limit : Nat) : Config ℚ :=
  { Config.standard with
    cascades := 1
    probesCounts := ⟨2, 2, 2⟩
    probesSpacing := 2
    raysCount := 32
    sdfResolution := 2
    sdfCascades := 2
    atlasResolution := 16
    atlasChunkResolution := 4
    atlasViewDistance := 6
    atlasMaxObjects := limit
    atlasCulledCapacity := 64
    viewportSize := ⟨3, 2⟩ }

def raising : List (Call ℚ) :=
  [.set 1 (Registry.cube 2), .set 2 (Registry.cube 2), .set 3 (Registry.cube 2),
    .reconfigure (bench 3), .set 3 (Registry.cube 2), .flush]

theorem roomAlong_raising {start : Renderer A ℚ}
    (created : (create (bench 2) : Recorded ℚ (Renderer A ℚ)).result = .ok start) :
    start.RoomAlong raising := by
  obtain ⟨prepared, room, same⟩ := create_eq_ok created
  intro first set₁
  obtain ⟨prepared₁, room₁⟩ := prepared.perform room set₁
  refine ⟨trivial, fun second set₂ => ⟨trivial, fun third set₃ => ⟨trivial, fun raised done =>
    ⟨.inr ?_, fun _ _ => ⟨trivial, fun _ _ => ⟨trivial, trivial⟩⟩⟩⟩⟩⟩
  obtain ⟨prepared₂, room₂⟩ := prepared₁.perform (room₁.mp trivial) set₂
  obtain ⟨-, room₃⟩ := prepared₂.perform (room₂.mp trivial) set₃
  calc third.registry.entries.length
      ≤ third.config.atlasMaxObjects := room₃.mp trivial
    _ = start.config.atlasMaxObjects := by
      rw [config_of_setObject set₃, config_of_setObject set₂, config_of_setObject set₁]
    _ = 2 := by rw [same]; rfl
    _ ≤ 3 := by decide

theorem raising_fits : ∃ start : Renderer Guillotine ℚ, (create (bench 2)).result = .ok start ∧
    start.Along HasRoom raising ∧ start.Along (fun r => ∃ r', r.flush.result = .ok r') raising := by
  cases created : (create (bench 2) : Recorded ℚ (Renderer Guillotine ℚ)).result with
  | error e =>
      have ends : (create (bench 2) : Recorded ℚ (Renderer Guillotine ℚ)).result.isOk = true := by
        decide +kernel
      rw [created] at ends
      exact absurd ends Bool.false_ne_true
  | ok start =>
      obtain ⟨within, flushes⟩ := flush_fits_with_room created raising
      have room := roomAlong_raising created
      exact ⟨start, rfl, within.mp room, flushes room⟩

def lowering : List (Call ℚ) :=
  [.set 1 (Registry.cube 2), .set 2 (Registry.cube 2), .reconfigure (bench 1)]

/-- What is written past the end of a buffer after some calls: the objects and their limit, and the
length and the offset of the write with the size of the buffer. -/
def overrun (r : Renderer A ℚ) : Option (Nat × Nat × Nat × Nat × Nat) :=
  match r.flush.result with
  | .error (.outsideBuffer length offset size) =>
    some (r.registry.entries.length, r.config.atlasMaxObjects, length, offset, size)
  | _ => none

/-- No check finds that the limit is lowered too far: the configuration is valid, but its buffers
have no room for the second object. -/
theorem flush_overruns_after_lowering : ∃ start r : Renderer Guillotine ℚ,
    (create (bench 2)).result = .ok start ∧ (lowering.foldlM perform start).result = .ok r ∧
      (bench 1).validate = .ok [] ∧ r.overrun = some (2, 1, 1152, 0, 576) := by
  have ends : ((do lowering.foldlM perform (← create (bench 2)) :
      Recorded ℚ (Renderer Guillotine ℚ)).result.toOption.map overrun) =
        some (some (2, 1, 1152, 0, 576)) := by decide +kernel
  have valid : (bench 1).validate = .ok [] := by decide +kernel
  cases ran : (do lowering.foldlM perform (← create (bench 2)) :
      Recorded ℚ (Renderer Guillotine ℚ)).result with
  | error e =>
      rw [ran] at ends
      exact absurd ends (by simp [Except.toOption])
  | ok r =>
      rw [ran] at ends
      obtain ⟨start, created, called⟩ := result_bind_eq_ok.mp ran
      exact ⟨start, r, created, called, valid, Option.some.inj ends⟩

end Results

end Renderer

end IrradianceField
