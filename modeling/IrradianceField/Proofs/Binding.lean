import IrradianceField.Proofs.Flushing
import IrradianceField.Proofs.Frames
import IrradianceField.Proofs.Numbering
import IrradianceField.Proofs.Placing
import IrradianceField.Scalar.Rational

/-!
Binding: what keeps the buffers of a configuration small enough for kernels to read them. That the
configuration is accepted does so for the textures of the atlas only, not for all that it scales.
-/

namespace IrradianceField

/-- The number is `n`, if that is not too much for a size in bytes. -/
def IsSize (x : Except Fault Nat) (n : Nat) : Prop :=
  ∀ c, x = .ok c ↔ c = n ∧ n < 18446744073709551616

namespace IsSize

variable {x : Except Fault Nat} {n element : Nat}

theorem of_ok (short : n < 18446744073709551616) : IsSize (.ok n) n := by
  intro c
  rw [Except.ok.injEq, eq_comm]
  exact (and_iff_left short).symm

theorem mul (a b : Nat) : IsSize (Size.mul a b) (a * b) :=
  fun _ => Size.mul_eq_ok

/-- A product with a number that is not zero fits only if the other number does. -/
theorem bind_mul (sized : IsSize x n) (positive : 0 < element) :
    IsSize (x >>= (Size.mul · element)) (n * element) := by
  intro c
  have whole : n ≤ n * element := Nat.le_mul_of_pos_right _ positive
  simp only [bind_eq_ok, sized _, Size.mul_eq_ok]
  constructor
  · rintro ⟨_, ⟨rfl, -⟩, total⟩
    exact total
  · intro total
    exact ⟨n, ⟨rfl, whole.trans_lt total.2⟩, total⟩

theorem cubed (n : Nat) : IsSize (BufferName.cubed n) (n * (n * n)) := by
  intro c
  simp only [BufferName.cubed, bind_eq_ok, Size.mul_eq_ok]
  constructor
  · rintro ⟨_, ⟨rfl, -⟩, total⟩
    exact total
  · intro total
    have square : n * n ≤ n * (n * n) := by
      rcases Nat.eq_zero_or_pos n with rfl | positive
      · exact Nat.le_refl _
      · exact Nat.le_mul_of_pos_left _ positive
    exact ⟨_, ⟨rfl, square.trans_lt total.2⟩, total⟩

end IsSize

namespace Config.IsAccepted

variable {α : Type} [Scalar α] {config : Config α}

theorem total (accepted : config.IsAccepted) :
    config.grid.IsNumbered ∧ config.probesCount = .ok (config.grid.size * config.cascades) := by
  have few := accepted.probes
  have positive : 0 < config.grid.counts.x ∧ 0 < config.grid.counts.y ∧
      0 < config.grid.counts.z := by
    have counts := accepted.counts
    simp only [grid]
    omega
  have each : config.grid.size ≤ config.grid.size * config.cascades :=
    Nat.le_mul_of_pos_right _ accepted.cascades.1
  simp only [maxProbes] at few
  have short : config.grid.size * config.cascades < 4294967296 := by omega
  refine ⟨⟨positive, each.trans_lt short, short⟩, ?_⟩
  rw [probesCount, accepted.counted, ok_bind]
  exact Word.mul_eq_ok.mpr ⟨rfl, short⟩

theorem hasAtlas (accepted : config.IsAccepted) {resolution : Nat} (small : resolution ≤ 14) :
    config.grid.HasAtlas resolution := by
  have few := accepted.probes
  have counts := accepted.counts
  obtain ⟨x, y, z⟩ := accepted.total.1.positive
  simp only [maxProbes] at few
  have rows : config.grid.counts.y * config.grid.counts.z * config.cascades ≤ 65535 := by
    calc
      config.grid.counts.y * config.grid.counts.z * config.cascades ≤
          config.grid.counts.x * (config.grid.counts.y * config.grid.counts.z * config.cascades) :=
        Nat.le_mul_of_pos_left _ x
      _ = config.grid.size * config.cascades := by
        unfold Grid.size
        ring
      _ ≤ 65535 := few
  have row : config.grid.counts.y * config.grid.counts.z ≤ 65535 :=
    (Nat.le_mul_of_pos_right _ accepted.cascades.1).trans rows
  have columns : config.grid.counts.x ≤ 65535 := by
    calc
      config.grid.counts.x ≤ config.grid.counts.x * (config.grid.counts.y * config.grid.counts.z) :=
        Nat.le_mul_of_pos_right _ (Nat.mul_pos y z)
      _ = config.grid.size := (Nat.mul_assoc ..).symm
      _ ≤ config.grid.size * config.cascades := Nat.le_mul_of_pos_right _ accepted.cascades.1
      _ ≤ 65535 := few
  have side : resolution + 2 ≤ 16 := by omega
  constructor
  · exact (Nat.mul_le_mul columns side).trans_lt (by norm_num)
  · exact (Nat.mul_le_mul row side).trans_lt (by norm_num)
  · rw [Nat.mul_right_comm]
    exact (Nat.mul_le_mul rows side).trans_lt (by norm_num)

end Config.IsAccepted

namespace BufferName

variable {α : Type} {config : Config α} {b : BufferName}

def storageBytes (config : Config α) : BufferName → Nat
  | volume | voxelLayout | atlas | view => 0
  | voxels => config.sdfResolution * (config.sdfResolution * config.sdfResolution) *
      config.sdfCascades * 4
  | probes => config.grid.size * config.cascades * 2 * 4
  | activeProbes => (1 + config.grid.size) * 4
  | dispatches => (config.grid.size + 4095) / 4096 * 6 * 4
  | trace => min config.grid.size 4096 * 256 * 16
  | irradiance => config.grid.size * config.cascades * 64 * 16
  | distance => config.grid.size * config.cascades * 256 * 16
  | sky => 64 * 64 * 16
  | objects => config.atlasMaxObjects * 36 * 16
  | addresses => config.atlasMaxObjects * 4
  | tiles => config.atlasMaxObjects * 6 * 4
  | chunks => config.atlasChunkResolution *
      (config.atlasChunkResolution * config.atlasChunkResolution) * 4
  | culled => config.atlasCulledCapacity * 4
  | atlasDepth => config.atlasResolution * config.atlasResolution * 4
  | atlasSurfaces | atlasDirect | atlasLighting =>
      config.atlasResolution * config.atlasResolution * 16
  | screenDepth => config.viewportSize.x * config.viewportSize.y * 4
  | screenSurfaces | screenOutput => config.viewportSize.x * config.viewportSize.y * 16

theorem isSize_probeTexels {resolution : Nat} (numbered : config.grid.IsNumbered)
    (has : config.grid.HasAtlas resolution) :
    IsSize (probeTexels config resolution)
      (config.grid.size * config.cascades * ((resolution + 2) * (resolution + 2))) := by
  have total : config.grid.counts.x * (resolution + 2) *
      (config.grid.counts.y * config.grid.counts.z * (resolution + 2) * config.grid.cascades) =
        config.grid.size * config.cascades * ((resolution + 2) * (resolution + 2)) := by
    simp only [Grid.size, Config.grid]
    ring
  rw [probeTexels, has.sized numbered, ok_bind, texelsOf, total.symm]
  exact .mul _ _

variable [Scalar α]

theorem isSize_contentSize (accepted : config.IsAccepted) (storage : b.isUniform = false) :
    IsSize (b.contentSize config) (b.storageBytes config) := by
  obtain ⟨numbered, total⟩ := accepted.total
  have few := accepted.probes
  simp only [maxProbes] at few
  have each : config.grid.size ≤ 65535 :=
    (Nat.le_mul_of_pos_right _ accepted.cascades.1).trans few
  have counted := accepted.counted
  cases b with
  | volume | voxelLayout | atlas | view => exact absurd storage (by decide)
  | voxels => exact ((IsSize.cubed _).bind_mul accepted.voxels.2.1).bind_mul (by decide)
  | probes =>
      have all : IsSize config.probesCount (config.grid.size * config.cascades) :=
        total ▸ .of_ok (by omega)
      exact (all.bind_mul (by decide)).bind_mul (by decide)
  | activeProbes =>
      have listed : IsSize (do Size.add 1 (← config.probesPerCascade)) (1 + config.grid.size) := by
        rw [counted, ok_bind, Size.add_eq_ok.mpr ⟨rfl, by omega⟩]
        exact .of_ok (by omega)
      exact listed.bind_mul (by decide)
  | dispatches =>
      have batches : IsSize (do Word.mul (← Batch.needed (← config.probesPerCascade)) Batch.stride)
          ((config.grid.size + 4095) / 4096 * 6) := by
        have groups : Batch.needed config.grid.size = .ok ((config.grid.size + 4095) / 4096) :=
          Word.groups_eq_ok.mpr ⟨rfl, by simp only [Batch.probesLimit]; omega,
            by simp only [Batch.probesLimit]; omega⟩
        rw [counted, ok_bind, groups, ok_bind,
          Word.mul_eq_ok.mpr ⟨rfl, by simp only [Batch.stride]; omega⟩]
        exact .of_ok (by simp only [Batch.stride]; omega)
      exact batches.bind_mul (by decide)
  | trace =>
      have rays : IsSize (do Batch.traceSize (← config.probesPerCascade))
          (min config.grid.size 4096 * 256) := by
        rw [counted, ok_bind, Batch.traceSize,
          Word.mul_eq_ok.mpr ⟨rfl, by simp only [Batch.probesLimit, Batch.raysLimit]; omega⟩]
        exact .of_ok (by simp only [Batch.probesLimit, Batch.raysLimit]; omega)
      exact rays.bind_mul (by decide)
  | irradiance => exact (isSize_probeTexels numbered (accepted.hasAtlas (by decide))).bind_mul (by decide)
  | distance => exact (isSize_probeTexels numbered (accepted.hasAtlas (by decide))).bind_mul (by decide)
  | sky => exact (IsSize.mul _ _).bind_mul (by decide)
  | objects => exact (IsSize.mul _ _).bind_mul (by decide)
  | addresses => exact .mul _ _
  | tiles => exact (IsSize.mul _ _).bind_mul (by decide)
  | chunks => exact (IsSize.cubed _).bind_mul (by decide)
  | culled => exact .mul _ _
  | atlasDepth => exact (IsSize.mul _ _).bind_mul (by decide)
  | atlasSurfaces | atlasDirect | atlasLighting => exact (IsSize.mul _ _).bind_mul (by decide)
  | screenDepth => exact (IsSize.mul _ _).bind_mul (by decide)
  | screenSurfaces | screenOutput => exact (IsSize.mul _ _).bind_mul (by decide)

omit [Scalar α] in
theorem uniform_size (config : Config α) (uniform : b.isUniform = true) :
    ∃ n, b.size config = .ok n := by
  cases b with
  | volume | voxelLayout | atlas | view => exact ⟨_, rfl⟩
  | _ => cases uniform

theorem size_le_iff (accepted : config.IsAccepted) (storage : b.isUniform = false) :
    (∃ n, b.size config = .ok n ∧ n ≤ maxBindingSize) ↔
      b.storageBytes config ≤ maxBindingSize := by
  have content := isSize_contentSize accepted storage
  constructor
  · intro bound
    obtain ⟨n, sized, small⟩ := bound
    obtain ⟨c, held, room⟩ := content_le storage sized
    obtain ⟨rfl, -⟩ := (content c).mp held
    exact room.trans small
  · intro small
    simp only [maxBindingSize] at small
    have held := (content _).mpr ⟨rfl, by omega⟩
    have sum := Size.add_eq_ok.mpr ⟨rfl, (by omega : b.storageBytes config + 15 < _)⟩
    simp only [size, held, storage, roundUp, texelBytes, sum, ok_bind, pure_eq_ok]
    refine ⟨_, rfl, ?_⟩
    simp only [maxBindingSize]
    omega

end BufferName

/-- The bounds under which kernels can read all storage buffers: the distance atlas has a tile of
256 texels for each probe, and the largest record of an object takes 576 bytes. -/
structure Config.IsBindable {α : Type} (config : Config α) : Prop where
  probes : config.grid.size * config.cascades ≤ 32768
  voxels : config.sdfResolution ^ 3 * config.sdfCascades ≤ 33554432
  objects : config.atlasMaxObjects ≤ 233016
  chunks : config.atlasChunkResolution ^ 3 ≤ 33554432
  culled : config.atlasCulledCapacity ≤ 33554432
  viewport : config.viewportSize.x * config.viewportSize.y ≤ 8388608

theorem Config.isBindable_iff {α : Type} [Scalar α] {config : Config α}
    (accepted : config.IsAccepted) : config.IsBindable ↔
      ∀ b : BufferName, b.isUniform = false → b.storageBytes config ≤ maxBindingSize := by
  have cubed : ∀ n : Nat, n * (n * n) = n ^ 3 := fun n => by ring
  constructor
  · intro bindable b storage
    obtain ⟨probes, voxels, objects, chunks, culled, viewport⟩ := bindable
    have most := accepted.probes
    have each := Nat.le_mul_of_pos_right config.grid.size accepted.cascades.1
    have atlas := accepted.atlas.2
    simp only [maxProbes, maxBindingSize] at most atlas
    cases b
    all_goals
      simp only [BufferName.storageBytes, maxBindingSize, cubed]
      omega
  · intro bound
    have distance := bound .distance rfl
    have voxels := bound .voxels rfl
    have objects := bound .objects rfl
    have chunks := bound .chunks rfl
    have culled := bound .culled rfl
    have output := bound .screenOutput rfl
    simp only [BufferName.storageBytes, maxBindingSize, cubed] at *
    constructor
    all_goals omega

namespace Renderer

open Recorded

variable {α : Type} [Scalar α] {config : Config α} {generation n : Nat} {b : BufferName}

def CreatesBindable (config : Config α) (generation : Nat) : Prop :=
  ∀ (b : BufferName) (n : Nat), b.isUniform = false →
    Command.createBuffer ⟨b, generation⟩ n ∈ (createResources config generation).commands →
    n ≤ maxBindingSize

omit [Scalar α] in
theorem createBuffer_eq (sized : b.size config = .ok n) :
    createBuffer config generation b = ⟨[.createBuffer ⟨b, generation⟩ n], [], .ok ()⟩ := by
  rw [createBuffer, sized]
  rfl

omit [Scalar α] in
theorem createPass_eq (generation : Nat) (p : PassName) :
    ∃ commands : List (Command α), createPass generation p = ⟨commands, [], .ok ()⟩ ∧
      ∀ h n, Command.createBuffer h n ∉ commands := by
  let grouped (group : List Binding × Nat) : List (Command α) :=
    [.createGroupLayout ⟨⟨p, group.2⟩, generation⟩ (group.1.map (·.access)),
      .createGroup ⟨⟨p, group.2⟩, generation⟩ (group.1.map fun b => ⟨b.buffer, generation⟩)]
  have groups : (p.groups.zipIdx.forM fun group => createGroup generation ⟨p, group.2⟩ group.1) =
      (⟨p.groups.zipIdx.flatMap grouped, [], .ok ()⟩ : Recorded α Unit) :=
    forM_eq fun group _ => rfl
  refine ⟨p.groups.zipIdx.flatMap grouped ++
    [.createPipelineLayout ⟨p, generation⟩ (groupsOf p generation) (p.constantCells * Cell.size),
      .createPipeline ⟨p, generation⟩ ⟨p.shader, 0⟩], ?_, ?_⟩
  · change ((p.groups.zipIdx.forM fun group => createGroup generation ⟨p, group.2⟩ group.1) >>=
      fun _ => emit _ >>= fun _ => emit _) = _
    rw [groups]
    rfl
  · simp [grouped]

theorem createResources_eq {sizes : BufferName → Nat} (valid : config.validate = .ok [])
    (sized : ∀ b : BufferName, b.size config = .ok (sizes b)) (generation : Nat) :
    (createResources config generation).result = .ok () ∧
      ∀ b n, Command.createBuffer ⟨b, generation⟩ n ∈ (createResources config generation).commands ↔
        n = sizes b := by
  choose commands created free using createPass_eq (α := α) generation
  have ran : createResources config generation =
      ⟨BufferName.all.flatMap (fun b => [.createBuffer ⟨b, generation⟩ (sizes b)]) ++
        PassName.all.flatMap commands, [], .ok ()⟩ := by
    change (checked config.validate >>= fun problems => ensure problems.isEmpty _ >>= fun _ =>
      BufferName.all.forM (createBuffer config generation) >>= fun _ =>
        PassName.all.forM (createPass generation)) = _
    rw [valid, forM_eq fun b _ => createBuffer_eq (sized b), forM_eq fun p _ => created p]
    rfl
  rw [ran]
  refine ⟨rfl, fun b n => ?_⟩
  have listed : b ∈ BufferName.all := by cases b <;> decide
  simp [free, listed]

/-- Under an accepted configuration, all buffers are created and the storage buffers among them can
be bound if and only if their number of probes, voxels, objects, chunks, pixels and culled objects
keeps to the bounds, none of which is checked. -/
theorem bindable_iff (valid : config.validate = .ok []) (generation : Nat) :
    (createResources config generation).result = .ok () ∧ CreatesBindable config generation ↔
      config.IsBindable := by
  have accepted := Config.isAccepted_of_valid valid
  rw [Config.isBindable_iff accepted]
  constructor
  · intro created b storage
    obtain ⟨ends, bindable⟩ := created
    choose sizes sized using sized_of_createResources ends
    have asked := ((createResources_eq valid sized generation).2 b _).mpr rfl
    exact (BufferName.size_le_iff accepted storage).mp ⟨_, sized b, bindable b _ storage asked⟩
  · intro small
    have each : ∀ b : BufferName, ∃ n, b.size config = .ok n ∧
        (b.isUniform = false → n ≤ maxBindingSize) := by
      intro b
      cases uniform : b.isUniform with
      | true =>
          obtain ⟨n, sized⟩ := BufferName.uniform_size config uniform
          exact ⟨n, sized, fun storage => absurd storage (by decide)⟩
      | false =>
          obtain ⟨n, sized, bound⟩ := (BufferName.size_le_iff accepted uniform).mpr (small b uniform)
          exact ⟨n, sized, fun _ => bound⟩
    choose sizes sized bound using each
    obtain ⟨ends, asked⟩ := createResources_eq valid sized generation
    refine ⟨ends, fun b n storage member => ?_⟩
    rw [(asked b n).mp member]
    exact bound b storage

/-- The standard configuration keeps to the bounds. -/
theorem standard_bindable : (Config.standard : Config ℚ).validate = .ok [] ∧
    (createResources (Config.standard : Config ℚ) 0).result = .ok () ∧
      CreatesBindable (Config.standard : Config ℚ) 0 := by
  have valid : (Config.standard : Config ℚ).validate = .ok [] := by decide +kernel
  refine ⟨valid, (bindable_iff valid 0).mpr ?_⟩
  constructor
  all_goals decide +kernel

def crowdedConfig : Config ℚ := { Config.standard with probesCounts := ⟨32, 33, 8⟩ }

/-- The tiles of the distances of 33792 probes take more than what kernels can read. -/
theorem crowded_not_bindable : crowdedConfig.validate = .ok [] ∧
    Command.createBuffer ⟨.distance, 0⟩ 138412032 ∈ (createResources crowdedConfig 0).commands ∧
      ¬CreatesBindable crowdedConfig 0 := by
  have valid : crowdedConfig.validate = .ok [] := by decide +kernel
  have sized : ∀ b : BufferName, ∃ n, b.size crowdedConfig = .ok n := by
    intro b
    apply Exists.intro
    apply eq_ok_get
    cases b <;> decide +kernel
  choose sizes sized using sized
  have known : BufferName.distance.size crowdedConfig = .ok 138412032 := by decide +kernel
  have large : 138412032 = sizes .distance := Except.ok.inj (known.symm.trans (sized .distance))
  have asked := ((createResources_eq valid sized 0).2 .distance _).mpr large
  refine ⟨valid, asked, fun bindable => ?_⟩
  exact absurd (bindable .distance _ rfl asked) (by decide)

end Renderer

end IrradianceField
