import IrradianceField.Word

/-!
Batches: the active probes of a cascade are traced and updated a limited number at a time, by
dispatches whose sizes follow from the number of active probes.
-/

namespace IrradianceField

/-- What the passes over a batch are told: the cascade, the place of the batch's first probe in the
active list, and whether history is discarded. -/
structure BatchPass where
  cascade : Nat
  probesOffset : Nat
  resetBlend : Bool
  deriving DecidableEq, Repr, Inhabited

structure BatchDispatch where
  trace : Vec3 Nat
  update : Vec3 Nat
  deriving DecidableEq, Repr, Inhabited

namespace Batch

def probesLimit : Nat := 4096

def raysLimit : Nat := 256

def traceGroupSize : Nat := 32

def stride : Nat := 6

def needed (probes : Nat) : Except Fault Nat := Word.groups probes probesLimit

def traceIndex (batchProbe ray : Nat) : Except Fault Nat := do
  Word.add (← Word.mul batchProbe raysLimit) ray

def probesOf (active batch : Nat) : Except Fault Nat := do
  let offset ← Word.mul batch probesLimit
  return min (active - offset) probesLimit

def traceSize (probes : Nat) : Except Fault Nat := Word.mul (min probes probesLimit) raysLimit

end Batch

namespace BatchDispatch

def words (d : BatchDispatch) : List Nat :=
  [d.trace.x, d.trace.y, d.trace.z, d.update.x, d.update.y, d.update.z]

/-- A batch without probes is not dispatched at all. -/
def ofProbes (traceGroups probes : Nat) : BatchDispatch :=
  if 0 < probes then ⟨⟨traceGroups, probes, 1⟩, ⟨probes, 1, 1⟩⟩ else ⟨⟨0, 0, 0⟩, ⟨0, 0, 0⟩⟩

def ofBatch (active traceGroups batch : Nat) : Except Fault BatchDispatch := do
  return ofProbes traceGroups (← Batch.probesOf active batch)

def storeWords (args : Array Nat) (base : Nat) (words : List Nat) : Except Fault (Array Nat) :=
  words.zipIdx.foldlM (fun args (word, i) => store args (base + i) word) args

def load (args : Array Nat) (batch : Nat) : Except Fault BatchDispatch := do
  let base ← Word.mul batch Batch.stride
  let word (i : Nat) : Except Fault Nat := fetch args (base + i)
  return ⟨⟨← word 0, ← word 1, ← word 2⟩, ⟨← word 3, ← word 4, ← word 5⟩⟩

/-- Stores the sizes of `capacity` batches; probes that do not fit into them are dropped. -/
def storeAll (active rays capacity : Nat) (args : Array Nat) : Except Fault (Array Nat) := do
  let traceGroups ← Word.groups rays Batch.traceGroupSize
  (List.range capacity).foldlM (fun args batch => do
    let dispatch ← ofBatch active traceGroups batch
    storeWords args (← Word.mul batch Batch.stride) dispatch.words) args

end BatchDispatch

end IrradianceField
