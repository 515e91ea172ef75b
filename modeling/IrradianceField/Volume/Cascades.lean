import IrradianceField.Volume.Config

/-!
Cascades: grids of probes that follow the view in whole steps. A grid scrolls, so that its probes
keep their slots, and only the planes of probes that wrap around to its other side start anew.
-/

namespace IrradianceField

/-- A grid, the planes of probes that wrapped around in this frame with the direction of the move,
and whether the whole grid started anew in it. -/
structure Cascade (α : Type) where
  placement : Placement α
  scrollClear : Vec3 Nat
  scrollDirections : Vec3 Int
  reset : Bool
  initialized : Bool
  deriving Repr, Inhabited

structure Cascades (α : Type) where
  counts : Vec3 Nat
  items : Array (Cascade α)
  deriving Repr

namespace Cascade

variable {α : Type} [Scalar α]

def ofSpacing (spacing : α) : Cascade α :=
  ⟨⟨.zero, spacing, ⟨0, 0, 0⟩⟩, ⟨0, 0, 0⟩, ⟨0, 0, 0⟩, false, false⟩

/-- Probes that the grid has to move by for its centre to be nearest to the view. -/
def delta (c : Cascade α) (viewPos : Vec3 α) : Except Fault (Vec3 Int) :=
  let p := c.placement
  ((viewPos - p.origin).divide p.spacing).round.toInt.zipWithM SignedWord.sub p.scroll

def restart (c : Cascade α) (viewPos : Vec3 α) : Cascade α :=
  let spacing := c.placement.spacing
  let origin := ((viewPos.divide spacing).round).scale spacing
  ⟨⟨origin, spacing, ⟨0, 0, 0⟩⟩, ⟨0, 0, 0⟩, ⟨0, 0, 0⟩, true, true⟩

/-- Moves the grid to the view; a move by the whole of it along some axis starts it anew. -/
def update (c : Cascade α) (viewPos : Vec3 α) (counts : Vec3 Nat) : Except Fault (Cascade α) := do
  let delta ← c.delta viewPos
  let planes := (← delta.mapM SignedWord.abs).map Int.toNat
  let teleported := (planes.zipWith (fun moved count => decide (count ≤ moved)) counts).any id
  if !c.initialized || teleported then return c.restart viewPos
  let scroll ← c.placement.scroll.zipWithM SignedWord.add delta
  return { c with
    placement := { c.placement with scroll }
    scrollClear := planes
    scrollDirections := delta.map Int.sign
    reset := false }

def center (c : Cascade α) : Vec3 α :=
  c.placement.origin + (Vec3.ofInt c.placement.scroll).scale c.placement.spacing

end Cascade

namespace Cascades

variable {α : Type} [Scalar α]

def create (config : Config α) : Cascades α :=
  ⟨config.probesCounts,
    ((List.range config.cascades).map fun i => .ofSpacing (config.cascadeSpacing i)).toArray⟩

def update (c : Cascades α) (viewPos : Vec3 α) : Except Fault (Cascades α) := do
  return { c with items := ← c.items.mapM (·.update viewPos c.counts) }

def get (c : Cascades α) (cascade : Nat) : Except Fault (Cascade α) :=
  if h : cascade < c.items.size then .ok c.items[cascade]
  else .error (.indexOutOfBounds c.items.size cascade)

def placements (c : Cascades α) : Except Fault (Vector (Placement α) maxCascades) :=
  if maxCascades < c.items.size then .error (.indexOutOfBounds maxCascades maxCascades)
  else .ok (.ofFn fun i => (c.items[i.val]?.map (·.placement)).getD Volume.unlistedPlacement)

def volume (c : Cascades α) (config : Config α) (viewPos : Vec3 α) (raysRotation : Quat α) :
    Except Fault (Volume α) := do
  return {
    grid := ⟨config.probesCounts, c.items.size⟩
    placements := ← c.placements
    raysRotation
    viewPos
    rayMaxDistance := config.rayMaxDistance
    raysCount := config.raysCount
    historyWeight := config.historyWeight
    gamma := config.irradianceGamma
    intensity := config.lightingIntensity }

def classificationPass (c : Cascades α) (config : Config α) (cascade : Nat) :
    Except Fault ClassificationPass := do
  let item ← c.get cascade
  return ⟨cascade, config.relocationMode, item.reset, item.scrollClear, item.scrollDirections⟩

end Cascades

end IrradianceField
