import IrradianceField.Atlas.Allocation

/-!
Guillotine allocation: a tree of rectangles, each cut in two from side to side along one axis. The
children of a node are its siblings' list, and cutting directions alternate from level to level.
-/

namespace IrradianceField

namespace Guillotine

inductive Orientation where
  | vertical
  | horizontal
  deriving DecidableEq, Repr, Inhabited

def Orientation.flipped : Orientation → Orientation
  | vertical => horizontal
  | horizontal => vertical

inductive NodeKind where
  | container
  | allocated
  | free
  | unused
  deriving DecidableEq, Repr, Inhabited

structure Node where
  parent : Option Nat
  next : Option Nat
  prev : Option Nat
  kind : NodeKind
  orientation : Orientation
  rect : Rect
  deriving DecidableEq, Repr, Inhabited

end Guillotine

open Guillotine

/-- Nodes that are no longer used are taken again, the last one first. Lists of free nodes, by size,
may name nodes that are no longer free; those are dropped when they are met. -/
structure Guillotine where
  nodes : Array Node
  unused : List Nat
  freeLists : Vector (Array Nat) 3
  deriving Repr

namespace Guillotine

def bucket (size : Vec2 Nat) : Nat :=
  if 256 ≤ size.x || 256 ≤ size.y then 2
  else if 32 ≤ size.x || 32 ≤ size.y then 1
  else 0

def node (g : Guillotine) (id : Nat) : Node := g.nodes.getD id default

def setNode (g : Guillotine) (id : Nat) (n : Node) : Guillotine :=
  { g with nodes := g.nodes.setIfInBounds id n }

def modifyNode (g : Guillotine) (id : Nat) (f : Node → Node) : Guillotine :=
  g.setNode id (f (g.node id))

def addNode (g : Guillotine) (n : Node) : Nat × Guillotine :=
  match g.unused with
  | id :: rest => (id, { g with unused := rest }.setNode id n)
  | [] => (g.nodes.size, { g with nodes := g.nodes.push n })

def discard (g : Guillotine) (id : Nat) : Guillotine :=
  { g.modifyNode id fun n => { n with kind := .unused } with unused := id :: g.unused }

def listFree (g : Guillotine) (id : Nat) (size : Vec2 Nat) : Guillotine :=
  let b := bucket size
  { g with freeLists := g.freeLists.setIfInBounds b ((g.freeLists[b]?.getD #[]).push id) }

def create (side : Nat) : Except Fault Guillotine := do
  if side = 0 || 2147483648 ≤ side then .error .emptyAtlas
  else
    let whole : Node := ⟨none, none, none, .free, .vertical, ⟨⟨0, 0⟩, ⟨side, side⟩⟩⟩
    return listFree ⟨#[whole], [], .replicate 3 #[]⟩ 0 whole.rect.size

/-- Removes an element and puts the last one into its place. -/
def swapRemove (list : Array Nat) (i : Nat) : Array Nat :=
  (list.swapIfInBounds i (list.size - 1)).pop

/-- Best place of a list so far, with the smaller of the two margins left over there. -/
structure Candidate where
  place : Nat
  margin : Nat
  deriving DecidableEq, Repr

/-- Large requests take the widest margin, others the narrowest; the earlier place wins a tie. -/
def Candidate.better (isLarge : Bool) (best : Option Candidate) (c : Candidate) :
    Option Candidate :=
  match best with
  | none => some c
  | some b =>
    if (if isLarge then b.margin < c.margin else c.margin < b.margin) then some c else best

/-- Walks a list of free nodes from `i` on and drops those that are free no more; a node that fits
along one axis ends the walk. -/
def search (g : Guillotine) (size : Vec2 Nat) (isLarge : Bool) (list : Array Nat) (i : Nat)
    (best : Option Candidate) : Array Nat × Option Nat :=
  if h : i < list.size then
    let n := g.node list[i]
    if n.kind ≠ .free then search g size isLarge (swapRemove list i) i best
    else if size.x ≤ n.rect.size.x && size.y ≤ n.rect.size.y then
      let dx := n.rect.size.x - size.x
      let dy := n.rect.size.y - size.y
      if dx = 0 || dy = 0 then (list, some i)
      else search g size isLarge list (i + 1) (Candidate.better isLarge best ⟨i, min dx dy⟩)
    else search g size isLarge list (i + 1) best
  else (list, best.map (·.place))
termination_by list.size - i
decreasing_by
  · simp only [swapRemove, Array.size_pop, Array.size_swapIfInBounds]; omega
  · omega
  · omega

/-- Takes a free node that a rectangle fits into off the first of the lists that has one. -/
def take (g : Guillotine) (size : Vec2 Nat) (isLarge : Bool) :
    List Nat → Option Nat × Guillotine
  | [] => (none, g)
  | b :: rest =>
    let (list, place) := search g size isLarge (g.freeLists[b]?.getD #[]) 0 none
    match place with
    | none => take { g with freeLists := g.freeLists.setIfInBounds b list } size isLarge rest
    | some i =>
      (some (list.getD i 0),
        { g with freeLists := g.freeLists.setIfInBounds b (swapRemove list i) })

/-- What is left of a rectangle around its top-left corner: `rest` reaches from side to side, and
`leftover` lies beside the corner. -/
structure Cut where
  rest : Rect
  leftover : Rect
  orientation : Orientation
  deriving DecidableEq, Repr

def boundedArea (r : Rect) : Nat := min (r.size.x * r.size.y) 2147483647

/-- The larger of the two strips beside the corner is kept whole. -/
def cut (r : Rect) (size : Vec2 Nat) (own : Orientation) : Cut :=
  let right : Rect := ⟨⟨r.origin.x + size.x, r.origin.y⟩, ⟨r.size.x - size.x, size.y⟩⟩
  let bottom : Rect := ⟨⟨r.origin.x, r.origin.y + size.y⟩, ⟨size.x, r.size.y - size.y⟩⟩
  if size = r.size then ⟨⟨⟨0, 0⟩, ⟨0, 0⟩⟩, ⟨⟨0, 0⟩, ⟨0, 0⟩⟩, own⟩
  else if boundedArea bottom < boundedArea right then
    ⟨⟨right.origin, ⟨right.size.x, r.size.y⟩⟩, bottom, .horizontal⟩
  else ⟨⟨bottom.origin, ⟨r.size.x, bottom.size.y⟩⟩, right, .vertical⟩

def listUnlessEmpty (g : Guillotine) (id : Nat) (r : Rect) : Guillotine :=
  if r.isEmpty then g else g.listFree id r.size

def addPair (g : Guillotine) (parent : Nat) (orientation : Orientation) (corner leftover : Rect) :
    Nat × Nat × Guillotine :=
  let (a, g) := g.addNode ⟨some parent, none, none, .allocated, orientation, corner⟩
  let (l, g) := g.addNode ⟨some parent, none, some a, .free, orientation, leftover⟩
  (a, l, g.modifyNode a fun n => { n with next := some l })

/-- Cuts along the direction of the node's own siblings: the rest becomes the next of them. -/
def cutAlong (g : Guillotine) (id : Nat) (corner : Rect) (c : Cut) : Nat × Guillotine :=
  let n := g.node id
  let (restId, g) :=
    if c.rest.isEmpty then (0, g)
    else
      let (s, g) := g.addNode ⟨n.parent, n.next, some id, .free, n.orientation, c.rest⟩
      let g := g.modifyNode id fun m => { m with next := some s }
      (s, match n.next with
        | some after => g.modifyNode after fun m => { m with prev := some s }
        | none => g)
  if c.leftover.isEmpty then
    let g := g.modifyNode id fun m => { m with kind := .allocated, rect := corner }
    (id, g.listUnlessEmpty restId c.rest)
  else
    let g := g.modifyNode id fun m => { m with kind := .container }
    let (a, l, g) := g.addPair id n.orientation.flipped corner c.leftover
    (a, (g.listUnlessEmpty restId c.rest).listUnlessEmpty l c.leftover)

/-- Cuts across that direction: the rest and what is beside it become the children of the node. -/
def cutAcross (g : Guillotine) (id : Nat) (corner : Rect) (c : Cut) : Nat × Guillotine :=
  let n := g.node id
  let across := n.orientation.flipped
  let g := g.modifyNode id fun m => { m with kind := .container }
  let (rest?, g) :=
    if c.rest.isEmpty then (none, g)
    else
      let (s, g) := g.addNode ⟨some id, none, none, .free, across, c.rest⟩
      (some s, g)
  let precede (g : Guillotine) (first : Nat) : Guillotine := match rest? with
    | some s => g.modifyNode s fun m => { m with prev := some first }
    | none => g
  let restId := rest?.getD 0
  if c.leftover.isEmpty then
    let (a, g) := g.addNode ⟨some id, rest?, none, .allocated, across, corner⟩
    (a, (precede g a).listUnlessEmpty restId c.rest)
  else
    let (inner, g) := g.addNode ⟨some id, rest?, none, .container, across, ⟨⟨0, 0⟩, ⟨0, 0⟩⟩⟩
    let (a, l, g) := (precede g inner).addPair inner n.orientation corner c.leftover
    (a, (g.listUnlessEmpty restId c.rest).listUnlessEmpty l c.leftover)

def allocate (g : Guillotine) (size : Vec2 Nat) : Option Allocation × Guillotine :=
  if size.x = 0 || size.y = 0 || 2147483648 ≤ size.x || 2147483648 ≤ size.y then (none, g)
  else
    let own := bucket size
    match g.take size (own = 2) ((List.range 3).drop own) with
    | (none, g) => (none, g)
    | (some id, g) =>
      let n := g.node id
      let corner : Rect := ⟨n.rect.origin, size⟩
      let c := cut n.rect size n.orientation
      let (a, g) :=
        if c.orientation = n.orientation then g.cutAlong id corner c else g.cutAcross id corner c
      (some ⟨a, corner⟩, g)

def merge (g : Guillotine) (first second : Nat) (orientation : Orientation) : Guillotine :=
  let s := g.node second
  let grown (r : Rect) : Rect := match orientation with
    | .horizontal => { r with size := ⟨r.size.x + s.rect.size.x, r.size.y⟩ }
    | .vertical => { r with size := ⟨r.size.x, r.size.y + s.rect.size.y⟩ }
  let g := g.modifyNode first fun n => { n with rect := grown n.rect, next := s.next }
  let g := match s.next with
    | some after => g.modifyNode after fun n => { n with prev := some first }
    | none => g
  g.discard second

def isFree (g : Guillotine) (id : Nat) : Bool := (g.node id).kind = .free

/-- Joins a free node with free neighbours, and with its parent if it is the only child left; each
round goes one level up. -/
def settle (g : Guillotine) : Nat → Nat → Guillotine
  | 0, id => g.listFree id (g.node id).rect.size
  | levels + 1, id =>
    let n := g.node id
    let g := match n.next with
      | some next => if g.isFree next then g.merge id next n.orientation else g
      | none => g
    let (id, g) := match n.prev with
      | some prev => if g.isFree prev then (prev, g.merge prev id n.orientation) else (id, g)
      | none => (id, g)
    let n := g.node id
    match n.parent, n.prev, n.next with
    | some parent, none, none =>
      let g := g.discard id
      settle (g.modifyNode parent fun m => { m with rect := n.rect, kind := .free }) levels parent
    | _, _, _ => g.listFree id n.rect.size

def release (g : Guillotine) (id : Nat) : Guillotine :=
  (g.modifyNode id fun n => { n with kind := .free }).settle g.nodes.size id

instance : RectAllocator Guillotine := ⟨create, allocate, release⟩

end Guillotine

end IrradianceField
