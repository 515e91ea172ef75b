import IrradianceField.Proofs.Frames
import IrradianceField.Scalar.Binary32

/-!
Validating: which configurations the program accepts. All that is asked of a scalar is asked of the
ones that are defined, the weight of the history excepted, and the products that are compared with
limits have to fit their words.
-/

namespace IrradianceField

namespace Binary32

open Float.Model (UnpackedFloat)

section Unpacked

variable {a b : UnpackedFloat}

theorem compare_swap (a b : UnpackedFloat) : (a.compare b).map Ordering.swap = b.compare a := by
  have swapped : ∀ (m n : Nat) (e f : Int), ((compare e f).then (compare m n)).swap =
      (compare f e).then (compare n m) := fun m n e f => by
    rw [Ordering.swap_then, ← Std.OrientedOrd.eq_swap, ← Std.OrientedOrd.eq_swap]
  rcases a with (_ | _) | _ | (_ | _) | ⟨_ | _, m, e, -⟩ <;>
    rcases b with (_ | _) | _ | (_ | _) | ⟨_ | _, n, f, -⟩ <;> try rfl
  · exact congrArg (some ∘ Ordering.swap) (swapped m n e f)
  · exact congrArg some (swapped m n e f)

theorem compare_eq_none : a.compare b = none ↔ a.compare a = none ∨ b.compare b = none := by
  rcases a with (_ | _) | _ | (_ | _) | ⟨_ | _, m, e, -⟩ <;>
    rcases b with (_ | _) | _ | (_ | _) | ⟨_ | _, n, f, -⟩ <;> first
      | exact iff_of_true rfl (.inl rfl)
      | exact iff_of_true rfl (.inr rfl)
      | exact iff_of_false (Option.some_ne_none _)
          (not_or_intro (Option.some_ne_none _) (Option.some_ne_none _))

theorem compare_self_ne_gt (a : UnpackedFloat) : a.compare a ≠ some .gt := by
  intro greater
  have swapped := compare_swap a a
  rw [greater] at swapped
  cases swapped

end Unpacked

variable {a b : Float32}

def order (a b : Float32) : Option Ordering := a.toModel.unpack.compare b.toModel.unpack

theorem lt_eq_order (a b : Float32) : Scalar.lt a b = (order a b == some .lt) :=
  Bool.decide_eq_true.trans Bool.decide_eq_true

theorem le_eq_order (a b : Float32) : Scalar.le a b = (order a b).any Ordering.isLE :=
  Bool.decide_eq_true.trans Bool.decide_eq_true

theorem order_swap (a b : Float32) : (order a b).map Ordering.swap = order b a := compare_swap _ _

theorem isUndefined_iff : Scalar.isUndefined a = true ↔ order a a = none := by
  rw [Scalar.isUndefined, le_eq_order]
  have ordered := compare_self_ne_gt a.toModel.unpack
  change order a a ≠ some .gt at ordered
  rcases same : order a a with _ | _ | _ | _
  case some.gt => exact absurd same ordered
  all_goals simp [Ordering.isLE]

theorem order_eq_none :
    order a b = none ↔ Scalar.isUndefined a = true ∨ Scalar.isUndefined b = true := by
  rw [isUndefined_iff, isUndefined_iff]
  exact compare_eq_none

theorem le_eq_false : Scalar.le a b = false ↔
    Scalar.lt b a = true ∨ Scalar.isUndefined a = true ∨ Scalar.isUndefined b = true := by
  rw [← order_eq_none, le_eq_order, lt_eq_order, ← order_swap a b]
  rcases order a b with _ | _ | _ | _ <;> decide

theorem lt_eq_false : Scalar.lt a b = false ↔
    Scalar.le b a = true ∨ Scalar.isUndefined a = true ∨ Scalar.isUndefined b = true := by
  rw [← order_eq_none, le_eq_order, lt_eq_order, ← order_swap a b]
  rcases order a b with _ | _ | _ | _ <;> decide

theorem le_zero_eq_false :
    Scalar.le a 0.0 = false ↔ Scalar.lt 0.0 a = true ∨ Scalar.isUndefined a = true := by
  have zero : Scalar.isUndefined (0.0 : Float32) = false := by decide +kernel
  simp [le_eq_false, zero]

theorem lt_one_eq_false :
    Scalar.lt a 1.0 = false ↔ Scalar.le 1.0 a = true ∨ Scalar.isUndefined a = true := by
  have one : Scalar.isUndefined (1.0 : Float32) = false := by decide +kernel
  simp [lt_eq_false, one]

end Binary32

/-- A computation whose products can be too large, and that cannot go wrong in other ways. -/
def OnlyOverflows {β : Type} (x : Except Fault β) : Prop :=
  ∀ fault, x = .error fault → fault = .mulOverflow

namespace OnlyOverflows

variable {β γ : Type}

theorem pure (b : β) : OnlyOverflows (pure b : Except Fault β) := by
  rintro fault ⟨⟩

theorem bind {x : Except Fault β} {f : β → Except Fault γ} (first : OnlyOverflows x)
    (next : ∀ b, OnlyOverflows (f b)) : OnlyOverflows (x >>= f) := by
  intro fault failed
  cases x with
  | ok b => exact next b fault failed
  | error e => exact first fault (congrArg Except.error (Except.error.inj failed))

theorem word (a b : Nat) : OnlyOverflows (Word.mul a b) := by
  intro fault failed
  unfold Word.mul at failed
  split at failed
  · cases failed
  · exact (Except.error.inj failed).symm

theorem size (a b : Nat) : OnlyOverflows (Size.mul a b) := by
  intro fault failed
  unfold Size.mul at failed
  split at failed
  · cases failed
  · exact (Except.error.inj failed).symm

end OnlyOverflows

namespace Config

section Acceptance

variable {α : Type} {config : Config α}

/-- All products that are compared with limits fit the words they are computed in. -/
structure IsCounted (config : Config α) : Prop where
  plane : config.probesCounts.x * config.probesCounts.y < 2 ^ 32
  cascade : config.probesCounts.x * config.probesCounts.y * config.probesCounts.z < 2 ^ 32
  probes : config.probesCounts.x * config.probesCounts.y * config.probesCounts.z *
    config.cascades < 2 ^ 32
  texels : config.atlasResolution * config.atlasResolution < 2 ^ 64
  bytes : config.atlasResolution * config.atlasResolution * 16 < 2 ^ 64

theorem probesCount_eq_ok {probes : Nat} : config.probesCount = .ok probes ↔
    probes = config.grid.size * config.cascades ∧
      config.probesCounts.x * config.probesCounts.y < 2 ^ 32 ∧ config.grid.size < 2 ^ 32 ∧
        config.grid.size * config.cascades < 2 ^ 32 := by
  have counted : ∀ {size}, config.probesPerCascade = .ok size ↔ size = config.grid.size ∧
      config.probesCounts.x * config.probesCounts.y < 4294967296 ∧
        config.grid.size < 4294967296 := Grid.probesPerCascade_eq_ok
  simp only [probesCount, bind_eq_ok, counted, Word.mul_eq_ok]
  constructor
  · rintro ⟨_, ⟨rfl, plane, cascade⟩, rfl, probes⟩
    exact ⟨rfl, plane, cascade, probes⟩
  · rintro ⟨rfl, plane, cascade, probes⟩
    exact ⟨_, ⟨rfl, plane, cascade⟩, rfl, probes⟩

theorem atlasBytes_eq_ok {bytes : Nat} : config.atlasBytes = .ok bytes ↔
    bytes = config.atlasResolution * config.atlasResolution * 16 ∧
      config.atlasResolution * config.atlasResolution < 2 ^ 64 ∧
        config.atlasResolution * config.atlasResolution * 16 < 2 ^ 64 := by
  simp only [atlasBytes, bind_eq_ok, Size.mul_eq_ok]
  constructor
  · rintro ⟨_, ⟨rfl, texels⟩, rfl, bytes⟩
    exact ⟨rfl, texels, bytes⟩
  · rintro ⟨rfl, texels, bytes⟩
    exact ⟨_, ⟨rfl, texels⟩, rfl, bytes⟩

variable [Scalar α]

theorem validate_ends : (∃ problems, config.validate = .ok problems) ↔ config.IsCounted := by
  constructor
  · rintro ⟨problems, ran⟩
    obtain ⟨probes, total, ran⟩ := bind_eq_ok.mp ran
    obtain ⟨bytes, squared, -⟩ := bind_eq_ok.mp ran
    obtain ⟨-, plane, cascade, probes⟩ := probesCount_eq_ok.mp total
    obtain ⟨-, texels, bytes⟩ := atlasBytes_eq_ok.mp squared
    exact ⟨plane, cascade, probes, texels, bytes⟩
  · rintro ⟨plane, cascade, probes, texels, bytes⟩
    have total := probesCount_eq_ok.mpr ⟨rfl, plane, cascade, probes⟩
    have squared := atlasBytes_eq_ok.mpr ⟨rfl, texels, bytes⟩
    exact ⟨_, bind_eq_ok.mpr ⟨_, total, bind_eq_ok.mpr ⟨_, squared, rfl⟩⟩⟩

theorem IsAccepted.isCounted (accepted : config.IsAccepted) : config.IsCounted := by
  obtain ⟨-, plane, cascade⟩ := Grid.probesPerCascade_eq_ok.mp accepted.counted
  have few := accepted.probes
  have small := accepted.atlas.2
  simp only [maxProbes, maxBindingSize] at few small
  exact ⟨plane, cascade, few.trans_lt (by decide), by omega, by omega⟩

theorem valid_of_isAccepted (accepted : config.IsAccepted) : config.validate = .ok [] := by
  obtain ⟨plane, cascade, probes, texels, bytes⟩ := accepted.isCounted
  have total := probesCount_eq_ok.mpr ⟨rfl, plane, cascade, probes⟩
  have squared := atlasBytes_eq_ok.mpr ⟨rfl, texels, bytes⟩
  refine bind_eq_ok.mpr ⟨_, total, bind_eq_ok.mpr ⟨_, squared, ?_⟩⟩
  obtain ⟨cascades, counts, -, most, spacing, multiplier, rays, far, weight, gamma, voxels, atlas,
    chunks, view, objects, culled, viewport⟩ := accepted
  simp only [pure_eq_ok, Except.ok.injEq, List.append_eq_nil_iff, reportIf_eq_nil,
    decide_eq_false_iff_not, Bool.or_eq_false_iff, Bool.not_eq_false', Bool.and_eq_true, Nat.not_lt,
    not_not, and_assoc]
  exact ⟨cascades.1.ne', cascades.2, le_min counts.1 (le_min counts.2.1 counts.2.2), most, spacing,
    multiplier, rays.1, rays.2.1, rays.2.2, far, weight.1, weight.2, gamma, voxels.1, voxels.2.1.ne',
    voxels.2.2, atlas.1.ne', atlas.2, chunks.1.ne', chunks.2, view, objects.ne', culled,
    (lt_min viewport.1 viewport.2).ne'⟩

theorem valid_iff_isAccepted : config.validate = .ok [] ↔ config.IsAccepted :=
  ⟨isAccepted_of_valid, valid_of_isAccepted⟩

omit [Scalar α] in
theorem onlyOverflows_probesCount : OnlyOverflows config.probesCount :=
  .bind (.bind (.word _ _) fun _ => .word _ _) fun _ => .word _ _

omit [Scalar α] in
theorem onlyOverflows_atlasBytes : OnlyOverflows config.atlasBytes :=
  .bind (.size _ _) fun _ => .size _ _

theorem onlyOverflows_validate : OnlyOverflows config.validate :=
  .bind onlyOverflows_probesCount fun _ => .bind onlyOverflows_atlasBytes fun _ => .pure _

/-- What is asked of a configuration, but for bounds of scalars that are excused. -/
structure IsUsable (excused : α → Bool) (config : Config α) : Prop where
  cascades : 1 ≤ config.cascades ∧ config.cascades ≤ 4
  counts : 2 ≤ config.probesCounts.x ∧ 2 ≤ config.probesCounts.y ∧ 2 ≤ config.probesCounts.z
  probes : config.probesCounts.x * config.probesCounts.y * config.probesCounts.z *
    config.cascades ≤ 65535
  spacing : Scalar.lt 0.0 config.probesSpacing = true ∨ excused config.probesSpacing = true
  multiplier : Scalar.le 1.0 config.spacingMultiplier = true ∨
    excused config.spacingMultiplier = true
  rays : 32 ≤ config.raysCount ∧ config.raysCount ≤ 256 ∧ 32 ∣ config.raysCount
  rayMaxDistance : Scalar.lt 0.0 config.rayMaxDistance = true ∨ excused config.rayMaxDistance = true
  historyWeight : Scalar.le 0.0 config.historyWeight = true ∧
    Scalar.lt config.historyWeight 1.0 = true
  gamma : Scalar.lt 0.0 config.irradianceGamma = true ∨ excused config.irradianceGamma = true
  voxels : 2 ≤ config.sdfResolution ∧ 1 ≤ config.sdfCascades ∧ config.sdfCascades ≤ 4
  atlas : 1 ≤ config.atlasResolution ∧ config.atlasResolution ^ 2 * 16 ≤ 134217728
  chunks : config.atlasChunkResolution ≠ 0 ∧ 4 ∣ config.atlasChunkResolution
  viewDistance : Scalar.lt 0.0 config.atlasViewDistance = true ∨
    excused config.atlasViewDistance = true
  objects : 1 ≤ config.atlasMaxObjects
  culled : 2 ≤ config.atlasCulledCapacity
  viewport : config.viewportSize.x ≠ 0 ∧ config.viewportSize.y ≠ 0

end Acceptance

variable {config : Config Float32}

/-- A bound that a scalar does not violate is one that it keeps, if the scalar is defined. -/
theorem isAccepted_iff_isUsable : config.IsAccepted ↔ config.IsUsable Scalar.isUndefined := by
  constructor
  · intro accepted
    constructor
    case cascades => exact accepted.cascades
    case counts => exact accepted.counts
    case probes => exact accepted.probes
    case spacing => exact Binary32.le_zero_eq_false.mp accepted.spacing
    case multiplier => exact Binary32.lt_one_eq_false.mp accepted.multiplier
    case rays => exact ⟨accepted.rays.1, accepted.rays.2.1, Nat.dvd_of_mod_eq_zero accepted.rays.2.2⟩
    case rayMaxDistance => exact Binary32.le_zero_eq_false.mp accepted.rayMaxDistance
    case historyWeight => exact accepted.historyWeight
    case gamma => exact Binary32.le_zero_eq_false.mp accepted.gamma
    case voxels => exact accepted.voxels
    case atlas => exact ⟨accepted.atlas.1, (Nat.pow_two _).symm ▸ accepted.atlas.2⟩
    case chunks => exact ⟨accepted.chunks.1.ne', Nat.dvd_of_mod_eq_zero accepted.chunks.2⟩
    case viewDistance => exact Binary32.le_zero_eq_false.mp accepted.viewDistance
    case objects => exact accepted.objects
    case culled => exact accepted.culled
    case viewport => exact ⟨accepted.viewport.1.ne', accepted.viewport.2.ne'⟩
  · intro usable
    obtain ⟨x, y, z⟩ := usable.counts
    have plane := Nat.le_mul_of_pos_right (config.probesCounts.x * config.probesCounts.y)
      (Nat.zero_lt_of_lt z)
    have fewer : config.grid.size ≤ 65535 :=
      (Nat.le_mul_of_pos_right _ usable.cascades.1).trans usable.probes
    constructor
    case cascades => exact usable.cascades
    case counts => exact usable.counts
    case counted =>
      exact Grid.probesPerCascade_eq_ok.mpr
        ⟨rfl, (plane.trans fewer).trans_lt (by decide), fewer.trans_lt (by decide)⟩
    case probes => exact usable.probes
    case spacing => exact Binary32.le_zero_eq_false.mpr usable.spacing
    case multiplier => exact Binary32.lt_one_eq_false.mpr usable.multiplier
    case rays => exact ⟨usable.rays.1, usable.rays.2.1, Nat.mod_eq_zero_of_dvd usable.rays.2.2⟩
    case rayMaxDistance => exact Binary32.le_zero_eq_false.mpr usable.rayMaxDistance
    case historyWeight => exact usable.historyWeight
    case gamma => exact Binary32.le_zero_eq_false.mpr usable.gamma
    case voxels => exact usable.voxels
    case atlas => exact ⟨usable.atlas.1, Nat.pow_two _ ▸ usable.atlas.2⟩
    case chunks =>
      exact ⟨Nat.pos_of_ne_zero usable.chunks.1, Nat.mod_eq_zero_of_dvd usable.chunks.2⟩
    case viewDistance => exact Binary32.le_zero_eq_false.mpr usable.viewDistance
    case objects => exact usable.objects
    case culled => exact usable.culled
    case viewport =>
      exact ⟨Nat.pos_of_ne_zero usable.viewport.1, Nat.pos_of_ne_zero usable.viewport.2⟩

/-- The validator tells the usable configurations from all others. -/
def IsJudged (config : Config Float32) : Prop :=
  ∃ problems, config.validate = .ok problems ∧ (problems = [] ↔ config.IsUsable fun _ => false)

def undefinedConfig : Config Float32 := { standard with probesSpacing := 0.0 / 0.0 }

def vastConfig : Config Float32 := { standard with atlasResolution := 2147483648 }

/-- An undefined spacing passes for a positive one, and an atlas can be too large to be measured. -/
theorem not_isJudged : ¬IsJudged undefinedConfig ∧ ¬IsJudged vastConfig := by
  constructor
  · rintro ⟨problems, ran, judged⟩
    have accepted : undefinedConfig.validate = .ok [] := by decide +kernel
    obtain rfl := Except.ok.inj (ran.symm.trans accepted)
    have spacing : Scalar.lt 0.0 undefinedConfig.probesSpacing = true ∨ false = true :=
      (judged.mp rfl).spacing
    exact absurd spacing (by decide +kernel)
  · rintro ⟨problems, ran, -⟩
    have fault : vastConfig.validate = .error .mulOverflow := by decide +kernel
    cases fault.symm.trans ran

/-- Looking at a configuration ends if and only if all products fit; nothing is found if and only if
it is usable, its undefined scalars excused. -/
theorem validate_iff (config : Config Float32) :
    ((∃ problems, config.validate = .ok problems) ↔ config.IsCounted) ∧
    (config.validate = .error .mulOverflow ↔ ¬config.IsCounted) ∧
    (config.validate = .ok [] ↔ config.IsUsable Scalar.isUndefined) := by
  refine ⟨validate_ends, ?_, valid_iff_isAccepted.trans isAccepted_iff_isUsable⟩
  rw [← validate_ends]
  constructor
  · rintro failed ⟨problems, ran⟩
    cases failed.symm.trans ran
  · intro endless
    rcases ok_or_error config.validate with ends | ⟨fault, failed⟩
    · exact absurd ends endless
    · rw [failed, onlyOverflows_validate fault failed]

end Config

end IrradianceField
