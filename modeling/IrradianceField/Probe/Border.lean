import IrradianceField.Probe.Texels
import IrradianceField.Volume.Grid

/-!
Borders: every tile of an atlas is framed by copies of its own edge texels, so that the bilinear
filter is continuous across the seams of the octahedral map.
-/

namespace IrradianceField

/-- What a border pass is told: the resolution of the tiles, border excluded, and their number. -/
structure BorderPass where
  resolution : Nat
  tilesCount : Nat
  deriving DecidableEq, Repr, Inhabited

namespace Border

variable {β : Type}

/-- The texel that is copied into a texel of the border, none for texels off the border. Both are
relative to the tile, border included. -/
def source (texel : Vec2 Nat) (resolution : Nat) : Except Fault (Option (Vec2 Nat)) := do
  let n := resolution
  let last ← Word.add n 1
  let ⟨x, y⟩ := texel
  if x = 0 ∧ y = 0 then return some ⟨n, n⟩
  else if x = last ∧ y = 0 then return some ⟨1, n⟩
  else if x = 0 ∧ y = last then return some ⟨n, 1⟩
  else if x = last ∧ y = last then return some ⟨1, 1⟩
  else if last < x ∨ last < y then return none
  else if y = 0 then return some ⟨last - x, 1⟩
  else if y = last then return some ⟨last - x, n⟩
  else if x = 0 then return some ⟨1, last - y⟩
  else if x = last then return some ⟨n, last - y⟩
  else return none

def copyTexel (pass : BorderPass) (tile : Nat) (texel : Vec2 Nat) (atlas : Texels β) :
    Except Fault (Texels β) := do
  if pass.tilesCount ≤ tile then return atlas
  let some src ← source texel pass.resolution | return atlas
  let tileSize ← Word.add pass.resolution 2
  let tilesPerRow ← Word.div atlas.size.x tileSize
  let column ← Word.rem tile tilesPerRow
  let row ← Word.div tile tilesPerRow
  let origin ← (⟨column, row⟩ : Vec2 Nat).mapM (Word.mul · tileSize)
  let value ← atlas.read (← origin.zipWithM Word.add src)
  atlas.write (← origin.zipWithM Word.add texel) value

/-- Top and bottom rows, corners included: a thread's `x` walks along the row that its `y` picks. -/
def updateRows (pass : BorderPass) (tile : Nat) (thread : Vec2 Nat) (atlas : Texels β) :
    Except Fault (Texels β) := do
  let last ← Word.add pass.resolution 1
  if last < thread.x || 1 < thread.y then return atlas
  copyTexel pass tile ⟨thread.x, ← Word.mul thread.y last⟩ atlas

/-- Left and right columns, corners excluded: a thread's `y` walks along the column that its `x`
picks. -/
def updateColumns (pass : BorderPass) (tile : Nat) (thread : Vec2 Nat) (atlas : Texels β) :
    Except Fault (Texels β) := do
  let last ← Word.add pass.resolution 1
  if 1 < thread.x || pass.resolution ≤ thread.y then return atlas
  copyTexel pass tile ⟨← Word.mul thread.x last, ← Word.add thread.y 1⟩ atlas

/-- Threads of a group along a row or column, enough for the larger tiles, and across it. -/
def groupLength : Nat := 16
def groupWidth : Nat := 2

def threads (width height : Nat) : List (Vec2 Nat) :=
  (List.range height).flatMap fun y => (List.range width).map fun x => ⟨x, y⟩

/-- Runs one of the kernels for the given number of groups, one for each tile; surplus groups are
idle. -/
def runGroups (kernel : BorderPass → Nat → Vec2 Nat → Texels β → Except Fault (Texels β))
    (pass : BorderPass) (group : List (Vec2 Nat)) (groups : Nat) (atlas : Texels β) :
    Except Fault (Texels β) :=
  (List.range groups).foldlM (fun atlas tile =>
    if pass.tilesCount ≤ tile then .ok atlas
    else group.foldlM (fun atlas thread => kernel pass tile thread atlas) atlas) atlas

def runRows (pass : BorderPass) (groups : Nat) (atlas : Texels β) : Except Fault (Texels β) :=
  runGroups updateRows pass (threads groupLength groupWidth) groups atlas

def runColumns (pass : BorderPass) (groups : Nat) (atlas : Texels β) : Except Fault (Texels β) :=
  runGroups updateColumns pass (threads groupWidth groupLength) groups atlas

end Border

end IrradianceField
