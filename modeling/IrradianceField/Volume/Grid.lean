import IrradianceField.Word

/-!
Addressing of the probe grids. A probe has logical coordinates within the grid, a linear index, a
storage slot that it keeps while the grid scrolls past it, and a square tile in each atlas.
-/

namespace IrradianceField

/-- Grids of `cascades` cascades with the same number of probes along each axis. -/
structure Grid where
  counts : Vec3 Nat
  cascades : Nat
  deriving DecidableEq, Repr, Inhabited

namespace Grid

def probesPerCascade (g : Grid) : Except Fault Nat := do
  Word.mul (← Word.mul g.counts.x g.counts.y) g.counts.z

/-- Linear index of the probe at given coordinates: `x` varies fastest, then `z`, then `y`. -/
def probeIndex (g : Grid) (coords : Vec3 Nat) : Except Fault Nat := do
  let plane ← Word.mul g.counts.x g.counts.z
  let planes ← Word.mul coords.y plane
  let rows ← Word.mul coords.z g.counts.x
  Word.add (← Word.add planes rows) coords.x

def probeCoords (g : Grid) (index : Nat) : Except Fault (Vec3 Nat) := do
  let plane ← Word.mul g.counts.x g.counts.z
  let x ← Word.rem index g.counts.x
  let y ← Word.div index plane
  let z ← Word.rem (← Word.div index g.counts.x) g.counts.z
  return ⟨x, y, z⟩

/-- Coordinates moved by `scroll` and wrapped around the counts. The counts are added before each
remainder, which keeps it from being negative. -/
def wrappedCoords (g : Grid) (scroll : Vec3 Int) (coords : Vec3 Nat) : Except Fault (Vec3 Nat) := do
  let counts := g.counts.map Word.toSigned
  let moved ← (coords.map Word.toSigned).zipWithM SignedWord.add scroll
  let moved ← moved.zipWithM SignedWord.add counts
  let once ← moved.zipWithM SignedWord.rem counts
  let raised ← once.zipWithM SignedWord.add counts
  return (← raised.zipWithM SignedWord.rem counts).map SignedWord.toWord

/-- Index of the storage slot of the probe at given coordinates. While the grid scrolls, probes keep
their slots, and only those that wrap around to its other side change their place in the world. -/
def wrappedIndex (g : Grid) (scroll : Vec3 Int) (coords : Vec3 Nat) : Except Fault Nat := do
  g.probeIndex (← g.wrappedCoords scroll coords)

def slot (g : Grid) (cascade index : Nat) : Except Fault Nat := do
  Word.add (← Word.mul cascade (← g.probesPerCascade)) index

/-- Size in texels of the atlas that holds a tile with a border of one texel for each probe. -/
def atlasSize (g : Grid) (resolution : Nat) : Except Fault (Vec2 Nat) := do
  let tile ← Word.add resolution 2
  let width ← Word.mul g.counts.x tile
  let rows ← Word.mul g.counts.y g.counts.z
  return ⟨width, ← Word.mul (← Word.mul rows tile) g.cascades⟩

def tileOrigin (g : Grid) (cascade index resolution : Nat) : Except Fault (Vec2 Nat) := do
  let tile ← Word.add resolution 2
  let rowsPerCascade ← Word.mul g.counts.y g.counts.z
  let column ← Word.rem index g.counts.x
  let row ← Word.div index g.counts.x
  let row ← Word.add row (← Word.mul cascade rowsPerCascade)
  return ⟨← Word.mul column tile, ← Word.mul row tile⟩

end Grid

end IrradianceField
