import IrradianceField.DistanceField.Basic
import IrradianceField.Volume.Basic

/-!
Classification: moves probes away from geometry, decides which of them are active, and lists those.
-/

namespace IrradianceField

/-- How probes leave geometry: by a step along the gradient of the field every frame, or at once to
the best of a lattice of candidates. -/
inductive RelocationMode where
  | iterative
  | lattice
  deriving DecidableEq, Repr, Inhabited

namespace RelocationMode

def ofCode (code : Nat) : RelocationMode := if code = 0 then iterative else lattice

def code : RelocationMode → Nat
  | iterative => 0
  | lattice => 1

end RelocationMode

/-- What a classification pass is told: the cascade, whether all of its probes are new, and how many
planes of probes have entered its grid from which side. -/
structure ClassificationPass where
  cascade : Nat
  mode : RelocationMode
  reset : Bool
  scrollClear : Vec3 Nat
  scrollDirections : Vec3 Int
  deriving DecidableEq, Repr, Inhabited

namespace ClassificationPass

/-- Whether a coordinate lies in one of the `clear` planes that entered from the side
`direction`. -/
def entered (coord count clear : Nat) (direction : Int) : Except Fault Bool := do
  if clear = 0 then return false
  else if 0 < direction then return count ≤ (← Word.add coord clear)
  else return coord < clear

/-- Whether the probe at given coordinates has just wrapped around the grid, which leaves the data
of another probe in its slot. -/
def isScrolledIn (p : ClassificationPass) (coords counts : Vec3 Nat) : Except Fault Bool := do
  if ← entered coords.x counts.x p.scrollClear.x p.scrollDirections.x then return true
  if ← entered coords.y counts.y p.scrollClear.y p.scrollDirections.y then return true
  entered coords.z counts.z p.scrollClear.z p.scrollDirections.z

end ClassificationPass

/-- List of the active probes' logical indices: `count` of the entries are in use. -/
structure ActiveList where
  count : Nat
  entries : Array Nat
  deriving DecidableEq, Repr, Inhabited

namespace ActiveList

def ofList (indices : List Nat) : ActiveList := ⟨indices.length, indices.toArray⟩

def withCapacity (n : Nat) : ActiveList := ⟨0, .replicate n 0⟩

def clear (l : ActiveList) : ActiveList := { l with count := 0 }

/-- Takes the next entry; the counter wraps around as it is shared by threads. -/
def append (l : ActiveList) (index : Nat) : Except Fault ActiveList := do
  return ⟨Word.wrappingAdd l.count 1, ← store l.entries l.count index⟩

def toList (l : ActiveList) : List Nat := l.entries.toList.take l.count

end ActiveList

structure ProbeStore where
  probes : Array PackedProbe
  active : ActiveList
  deriving Repr, Inhabited

namespace Classification

open Scalar

variable {α : Type} [Scalar α]

/-- Probes further than this many spacings from a surface are inactive. -/
def distanceLimit : α := 1.5

/-- Probes are moved by at most this many spacings. -/
def relocationLimit : α := 0.6

/-- A move by more than this many spacings discards a probe's history. -/
def activationDistance : α := 0.1

def latticeSize : Nat := 4

def surfaceThreshold (field : DistanceField α) (spacing : α) : Except Fault α := do
  return maxNum ((← field.voxelSize 0) * 0.5) (0.05 * spacing)

/-- Moves a probe on from its previous offset, along the gradient; none if it is inactive. -/
def relocateIterative (field : DistanceField α) (base previous : Vec3 α) (spacing : α) :
    Except Fault (Option (Vec3 α)) := do
  let threshold ← surfaceThreshold field spacing
  let limit := relocationLimit * spacing
  let (normal, distance) ← field.sampleGradient (base + previous)
  if lt (distanceLimit * spacing) (Scalar.abs distance) then return none
  let offset ← do
    if le threshold (← field.sample base) then pure .zero
    else if lt distance threshold then
      pure (previous + normal.scale (Scalar.abs distance + threshold))
    else if lt limit distance then pure .zero
    else pure previous
  return some (offset.limitLength limit)

def latticePoint (i : Nat) : Vec3 α :=
  let coords : Vec3 Nat :=
    ⟨i % latticeSize, i / latticeSize % latticeSize, i / (latticeSize * latticeSize)⟩
  (((Vec3.ofNat coords).divide (ofNat (latticeSize - 1))).scale 2.0).shiftDown 1.0

def latticeOffset (limit : α) (i : Nat) : Vec3 α :=
  ((latticePoint i).scale limit).limitLength limit

/-- The better of the best offset so far and the `i`-th candidate; the earlier one wins a tie. -/
def improve (field : DistanceField α) (base : Vec3 α) (limit : α) (best : α × Vec3 α) (i : Nat) :
    Except Fault (α × Vec3 α) := do
  let offset := latticeOffset limit i
  let distance ← field.sample (base + offset)
  return if lt best.1 distance then (distance, offset) else best

def relocateLattice (field : DistanceField α) (base : Vec3 α) (spacing : α) :
    Except Fault (Option (Vec3 α)) := do
  let threshold ← surfaceThreshold field spacing
  let limit := relocationLimit * spacing
  let distance ← field.sample base
  if lt (distanceLimit * spacing) (Scalar.abs distance) then return none
  let candidates := List.range (latticeSize * latticeSize * latticeSize)
  let best ← candidates.foldlM (improve field base limit) (distance, .zero)
  return some (if lt best.1 threshold then .zero else best.2)

def settle (previous : Probe α) (offset : Vec3 α) (spacing : α) : Probe α :=
  let moved := lt (activationDistance * spacing) (offset.distance (previous.worldOffset spacing))
  let state := if previous.state.isInactive || moved then .activated else .active
  ⟨offset.divide spacing, state⟩

def relocate (mode : RelocationMode) (field : DistanceField α) (base previous : Vec3 α)
    (spacing : α) : Except Fault (Option (Vec3 α)) :=
  match mode with
  | .iterative => relocateIterative field base previous spacing
  | .lattice => relocateLattice field base spacing

/-- Classifies the probe with the given logical index; indices past the last probe do nothing. -/
def classify (volume : Volume α) (pass : ClassificationPass) (field : DistanceField α)
    (memory : ProbeStore) (index : Nat) : Except Fault ProbeStore := do
  if (← volume.grid.probesPerCascade) ≤ index then return memory
  let spacing ← volume.spacing pass.cascade
  let coords ← volume.grid.probeCoords index
  let slot ← volume.grid.slot pass.cascade (← volume.wrappedIndex pass.cascade coords)
  let isNew ← if pass.reset then pure true else pass.isScrolledIn coords volume.grid.counts
  let previous ←
    if isNew then pure Probe.dormant else do pure (.unpack (← fetch memory.probes slot))
  let base ← volume.basePosition pass.cascade coords
  let offset? ← relocate pass.mode field base (previous.worldOffset spacing) spacing
  let probe := match offset? with
    | some offset => settle previous offset spacing
    | none => .dormant
  let probes ← store memory.probes slot probe.pack
  let active ← if probe.state.isInactive then pure memory.active else memory.active.append index
  return ⟨probes, active⟩

def groupSize : Nat := 32

/-- Threads of the groups that cover a cascade; those of the last group may be idle. -/
def threads (volume : Volume α) : Except Fault (List Nat) := do
  let groups ← Word.groups (← volume.grid.probesPerCascade) groupSize
  return List.range (groups * groupSize)

def run (volume : Volume α) (pass : ClassificationPass) (field : DistanceField α)
    (memory : ProbeStore) : Except Fault ProbeStore := do
  (← threads volume).foldlM (classify volume pass field)
    { memory with active := memory.active.clear }

/-- Classifies probes one after another; a fault ends this and leaves what was done before it. -/
def classifyEach (volume : Volume α) (pass : ClassificationPass) (field : DistanceField α) :
    List Nat → ProbeStore → ProbeStore × Option Fault
  | [], memory => (memory, none)
  | index :: rest, memory =>
    match classify volume pass field memory index with
    | .ok memory => classifyEach volume pass field rest memory
    | .error e => (memory, some e)

/-- What `run` leaves in memory, whether or not it ends with a fault. -/
def runToFault (volume : Volume α) (pass : ClassificationPass) (field : DistanceField α)
    (memory : ProbeStore) : ProbeStore × Option Fault :=
  let cleared := { memory with active := memory.active.clear }
  match threads volume with
  | .ok indices => classifyEach volume pass field indices cleared
  | .error e => (cleared, some e)

def ofOutcome : ProbeStore × Option Fault → Except Fault ProbeStore
  | (memory, none) => .ok memory
  | (_, some e) => .error e

theorem ofOutcome_classifyEach (volume : Volume α) (pass : ClassificationPass)
    (field : DistanceField α) (indices : List Nat) (memory : ProbeStore) :
    ofOutcome (classifyEach volume pass field indices memory) =
      indices.foldlM (classify volume pass field) memory := by
  induction indices generalizing memory with
  | nil => rfl
  | cons index rest ih =>
    rw [classifyEach, List.foldlM_cons]
    cases classify volume pass field memory index with
    | ok memory => exact ih memory
    | error e => rfl

theorem ofOutcome_runToFault (volume : Volume α) (pass : ClassificationPass)
    (field : DistanceField α) (memory : ProbeStore) :
    ofOutcome (runToFault volume pass field memory) = run volume pass field memory := by
  unfold runToFault run
  cases threads volume with
  | ok indices => exact ofOutcome_classifyEach ..
  | error e => rfl

end Classification

end IrradianceField
