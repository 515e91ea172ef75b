import IrradianceField.Atlas.Chunks
import IrradianceField.Atlas.Record

/-!
Culling: sorts the objects of the surface atlas into lists, one for each chunk. A group of threads
first collects the objects that touch its block of chunks into a cache of limited size; then each
thread allocates the list of one chunk. Both stages count on past their capacity, so that an
overflow can be told apart from an empty chunk.
-/

namespace IrradianceField

/-- Objects that touch a block of chunks; `count` may exceed the size of the cache. -/
structure CullCache where
  count : Nat
  addresses : Array Nat
  deriving DecidableEq, Repr, Inhabited

/-- Lists of the chunks: `chunks` holds the place of each chunk's list in `words`, zero without one.
A list is its length followed by addresses; the first word of all is the number of words handed
out. -/
structure CulledLists where
  chunks : Array Nat
  words : Array Nat
  deriving DecidableEq, Repr, Inhabited

/-- The objects that are culled: their records, and the address of each. -/
structure CullInput (α : Type) where
  constants : AtlasConstants α
  objects : Array (RecordWord α)
  addresses : Array Nat
  deriving Repr

namespace Culling

variable {α : Type} [Scalar α]

def blockSide : Nat := 4

def groupThreads : Nat := blockSide * blockSide * blockSide

def cacheSize : Nat := 255

def reset (thread : Nat) (cache : CullCache) : CullCache :=
  if thread = 0 then { cache with count := 0 } else cache

def touches (input : CullInput α) (address : Nat) (bounds : Vec3 α × Vec3 α) :
    Except Fault Bool := do
  let object ← ObjectRecord.read input.objects address
  return sphereTouchesBox object.center object.radius bounds.1 bounds.2

/-- Counts an object, and keeps it if the cache has room. -/
def CullCache.push (cache : CullCache) (address : Nat) : CullCache :=
  ⟨Word.wrappingAdd cache.count 1,
    if cache.count < cacheSize then cache.addresses.setIfInBounds cache.count address
    else cache.addresses⟩

/-- Tests every `groupThreads`-th object from `i` on. -/
def collectFrom (input : CullInput α) (bounds : Vec3 α × Vec3 α) (i : Nat) (cache : CullCache) :
    Except Fault CullCache := do
  if _h : i < input.constants.objectsCount then
    let address ← fetch input.addresses i
    let cache :=
      if ← touches input address bounds then CullCache.push cache address else cache
    if i + groupThreads < 4294967296 then collectFrom input bounds (i + groupThreads) cache
    else .error .addOverflow
  else return cache
termination_by input.constants.objectsCount - i
decreasing_by simp only [groupThreads, blockSide]; omega

def collect (input : CullInput α) (group : Vec3 Nat) (thread : Nat) (cache : CullCache) :
    Except Fault CullCache := do
  let lowest ← group.mapM (Word.mul · blockSide)
  collectFrom input (input.constants.chunksBounds lowest blockSide) thread cache

def survivors (input : CullInput α) (chunk : Vec3 Nat) (cache : CullCache) :
    Except Fault (List Nat) := do
  let bounds := input.constants.chunksBounds chunk 1
  let cached := cache.addresses.toList.take (min cache.count cacheSize)
  cached.filterM fun address => touches input address bounds

/-- Allocates and fills the list of a chunk. Empty chunks, and those whose list does not fit, have
none; the counter grows all the same. -/
def fillChunk (input : CullInput α) (cache : CullCache) (chunk : Vec3 Nat) (lists : CulledLists) :
    Except Fault CulledLists := do
  let res := input.constants.chunkResolution
  if res ≤ chunk.x || res ≤ chunk.y || res ≤ chunk.z then return lists
  let addresses ← survivors input chunk cache
  let count := addresses.length
  let place ← input.constants.chunkAddress chunk
  if count = 0 then return { lists with chunks := ← store lists.chunks place 0 }
  let used ← fetch lists.words 0
  let words ← store lists.words 0 (Word.wrappingAdd used (count + 1))
  let base ← Word.add 1 used
  let last ← Word.add (← Word.add base count) 1
  if input.constants.culledCapacity < last then
    return ⟨← store lists.chunks place 0, words⟩
  let chunks ← store lists.chunks place base
  let words ← (count :: addresses).zipIdx.foldlM
    (fun words (word, i) => store words (base + i) word) words
  return ⟨chunks, words⟩

def threadChunk (group : Vec3 Nat) (thread : Nat) : Vec3 Nat :=
  group.map (· * blockSide) + ⟨thread % blockSide, thread / blockSide % blockSide,
    thread / (blockSide * blockSide)⟩

/-- Runs the three phases of a group; the cache starts with whatever the memory held. -/
def runGroup (input : CullInput α) (group : Vec3 Nat) (lists : CulledLists)
    (cache : CullCache) : Except Fault (CulledLists × CullCache) := do
  let threads := List.range groupThreads
  let cache := threads.foldl (fun cache thread => reset thread cache) cache
  let cache ← threads.foldlM (fun cache thread => collect input group thread cache) cache
  let lists ← threads.foldlM
    (fun lists thread => fillChunk input cache (threadChunk group thread) lists) lists
  return (lists, cache)

def groups (chunkResolution : Nat) : List (Vec3 Nat) :=
  let side := (chunkResolution + (blockSide - 1)) / blockSide
  (List.range (side * side * side)).map fun i =>
    ⟨i % side, i / side % side, i / (side * side)⟩

/-- Content of the cache before the first group, with a counter that is yet to be cleared. -/
def staleCache : CullCache := ⟨123, .replicate cacheSize 0⟩

def run (input : CullInput α) (lists : CulledLists) :
    Except Fault (CulledLists × List Nat) := do
  let (lists, counts) ← (groups input.constants.chunkResolution).foldlM
    (fun (lists, counts) group => do
      let (lists, cache) ← runGroup input group lists staleCache
      return (lists, counts ++ [cache.count])) (lists, [])
  return (lists, counts)

/-- Memory before culling: the allocation counter is zero, and no chunk has been written yet. -/
def emptyLists (a : AtlasConstants α) : Except Fault CulledLists := do
  return ⟨.replicate (← a.chunksCount) 4294967295, .replicate a.culledCapacity 0⟩

end Culling

end IrradianceField
