import IrradianceField.Proofs.Mirroring

/-!
Placing: which cells of which buffers an upload of a tile writes, and what to each of them.
-/

namespace IrradianceField

variable {A α β : Type}

section Puts

namespace Command

def put (h : Handle BufferName) (i : Nat) : Command α → Option (Cell α)
  | .write b offset cells =>
    if b = h ∧ offset / Cell.size ≤ i then cells[i - offset / Cell.size]? else none
  | _ => none

def puts (commands : List (Command α)) (h : Handle BufferName) (i : Nat) : List (Cell α) :=
  commands.filterMap (put h i)

def isWrite : Command α → Bool
  | .write .. => true
  | _ => false

variable {h : Handle BufferName} {i : Nat} {first second : List (Command α)}

theorem puts_append : puts (first ++ second) h i = puts first h i ++ puts second h i :=
  List.filterMap_append

theorem puts_singleton {c : Command α} : puts [c] h i = (c.put h i).toList := by
  rw [puts, List.filterMap_cons]
  cases c.put h i <;> rfl

theorem puts_flatMap {l : List β} {f : β → List (Command α)} :
    puts (l.flatMap f) h i = l.flatMap fun b => puts (f b) h i :=
  List.filterMap_flatMap

end Command

open Command

namespace Memory

variable {m : Memory α} {h : Handle BufferName} {i : Nat} {commands first second : List (Command α)}

theorem getElem?_apply {c : Command α} (write : c.isWrite = true) :
    (m.apply c h)[i]? = (m h)[i]?.map fun old => (c.put h i).getD old := by
  cases c with
  | write b offset cells =>
      by_cases same : h = b
      · rw [apply, same, Function.update_self, getElem?_overwrite, put]
        by_cases inside : i < (m b).length
        · by_cases late : offset / Cell.size ≤ i
          · by_cases early : i < offset / Cell.size + cells.length
            · have there : i - offset / Cell.size < cells.length := by omega
              simp [inside, late, early, there]
            · have past : cells.length ≤ i - offset / Cell.size := by omega
              simp [late, early, past]
          · simp [late]
        · simp [inside]
      · rw [apply, Function.update_of_ne same, put, if_neg fun both => same both.1.symm]
        simp
  | _ => cases write

theorem replay_concat {c : Command α} :
    m.replay (commands ++ [c]) = (m.replay commands).apply c := by
  simp [replay]

theorem getElem?_replay (writes : ∀ c ∈ commands, c.isWrite = true) :
    (m.replay commands h)[i]? = (m h)[i]?.map fun old => (puts commands h i).getLastD old := by
  induction commands using List.reverseRecOn with
  | nil => exact Option.map_id'.symm
  | append_singleton commands c ih =>
      have own := writes c (by simp)
      have before := ih fun other member => writes other (List.mem_append_left _ member)
      rw [replay_concat, getElem?_apply own, before, puts_append, puts_singleton, Option.map_map]
      congr 1
      funext old
      cases put : c.put h i with
      | none => simp
      | some cell => simp

theorem replay_comm (writes : ∀ c ∈ first ++ second, c.isWrite = true)
    (apart : ∀ h i, puts first h i = [] ∨ puts second h i = []) :
    m.replay (first ++ second) = m.replay (second ++ first) := by
  funext h
  refine List.ext_getElem? fun i => ?_
  have swapped : ∀ c ∈ second ++ first, c.isWrite = true := fun c member =>
    writes c (List.mem_append.mpr (List.mem_append.mp member).symm)
  rw [getElem?_replay writes, getElem?_replay swapped, puts_append, puts_append]
  rcases apart h i with none | none
  · rw [none, List.nil_append, List.append_nil]
  · rw [none, List.nil_append, List.append_nil]

end Memory

end Puts

section Texels

variable {n : Nat}

theorem getElem?_flatten_block {texels : List (List β)} (block : ∀ t ∈ texels, t.length = n)
    (e : Nat) {k : Nat} (inside : k < n) :
    texels.flatten[e * n + k]? = texels[e]?.bind (·[k]?) := by
  have cells : ∀ t ∈ texels, (id t).length = n := block
  rw [← List.flatMap_id, Nat.mul_comm e n]
  by_cases there : e < texels.length
  · rw [getElem?_flatMap_block cells (List.getElem?_eq_getElem there) inside,
      List.getElem?_eq_getElem there]
    rfl
  · have past : (texels.flatMap id).length ≤ n * e + k := by
      rw [length_flatMap_block cells]
      exact (Nat.mul_le_mul_left n (Nat.not_lt.mp there)).trans (Nat.le_add_right _ _)
    rw [List.getElem?_eq_none past, List.getElem?_eq_none (Nat.not_lt.mp there)]
    rfl

namespace BufferName

def isCaptured : BufferName → Bool
  | atlasDepth | atlasSurfaces | atlasDirect => true
  | _ => false

def texelCells : BufferName → Nat
  | atlasDepth => 1
  | _ => 4

end BufferName

namespace Capture

def cellsOf (c : Capture α) : BufferName → List (List (Cell α))
  | .atlasDepth => c.depth.toList.map fun d => [.scalar d]
  | .atlasSurfaces => c.surfaces.toList.map (·.cells)
  | .atlasDirect => c.direct.toList.map Cell.ofScalars
  | _ => []

variable {c : Capture α} {b : BufferName} {width i texels : Nat}

theorem length_cells {t : List (Cell α)} (listed : t ∈ c.cellsOf b) : t.length = b.texelCells := by
  cases b
  case atlasDepth | atlasSurfaces | atlasDirect =>
    obtain ⟨_, -, rfl⟩ := List.mem_map.mp listed
    rfl
  all_goals exact absurd listed List.not_mem_nil

theorem length_cellsOf (sized : c.hasSize texels = true) (captured : b.isCaptured = true) :
    (c.cellsOf b).length = texels := by
  simp only [hasSize, Bool.and_eq_true, decide_eq_true_eq] at sized
  cases b
  case atlasDepth | atlasSurfaces | atlasDirect => simp [cellsOf, sized]
  all_goals cases captured

theorem length_flatten_cellsOf (sized : c.hasSize texels = true) (captured : b.isCaptured = true) :
    (c.cellsOf b).flatten.length = b.texelCells * texels := by
  have cells : ∀ t ∈ c.cellsOf b, (id t).length = b.texelCells := fun _ listed =>
    length_cells listed
  rw [← List.flatMap_id, length_flatMap_block cells, length_cellsOf sized captured]

theorem hasSize_row (sized : c.hasSize (width * texels) = true) (inside : i < texels) :
    (c.row width i).hasSize width = true := by
  have fits : (i + 1) * width ≤ width * texels := by
    rw [Nat.mul_comm width]
    exact Nat.mul_le_mul_right width inside
  have count : (i + 1) * width - i * width = width := by
    rw [Nat.succ_mul]
    omega
  simp only [hasSize, Bool.and_eq_true, decide_eq_true_eq] at sized ⊢
  simp [row, sized, Nat.min_eq_left fits, count]

theorem cellsOf_row : (c.row width i).cellsOf b = ((c.cellsOf b).drop (i * width)).take width := by
  have count : (i + 1) * width - i * width = width := by
    rw [Nat.succ_mul]
    omega
  cases b
  case atlasDepth | atlasSurfaces | atlasDirect =>
    simp [cellsOf, row, List.extract_eq_take_drop, List.map_take, List.map_drop, count]
  all_goals simp [cellsOf]

end Capture

end Texels

namespace Renderer

open Command Recorded

section Commands

variable {r : Renderer A α} {rect : Rect} {c : Capture α} {b : BufferName} {i start : Nat}

def capturedBuffers : List BufferName := [.atlasDepth, .atlasSurfaces, .atlasDirect]

theorem mem_capturedBuffers : b ∈ capturedBuffers ↔ b.isCaptured = true := by
  cases b <;> decide

def texelsCommand (r : Renderer A α) (start : Nat) (c : Capture α) (b : BufferName) : Command α :=
  .write (r.buffer b) (start * (b.texelCells * Cell.size)) (c.cellsOf b).flatten

def rowStart (resolution : Nat) (rect : Rect) (i : Nat) : Nat :=
  (rect.origin.y + i) * resolution + rect.origin.x

def tileCommands (r : Renderer A α) (rect : Rect) (c : Capture α) : List (Command α) :=
  (List.range rect.size.y).flatMap fun i =>
    capturedBuffers.map
      (r.texelsCommand (rowStart r.config.atlasResolution rect i) (c.row rect.size.x i))

theorem write_eq {size offset : Nat} {cells : List (Cell α)} (sized : b.size r.config = .ok size)
    (fits : offset + cells.length * 4 ≤ size) :
    r.write b offset cells = ⟨[.write (r.buffer b) offset cells], [], .ok ()⟩ := by
  have room : decide (offset + cells.length * Cell.size ≤ size) = true := decide_eq_true fits
  rw [write, sized]
  change (ensure _ _ >>= fun _ => emit _) = _
  rw [room]
  rfl

theorem forM_eq {ι : Type} {f : ι → Recorded α Unit} {commands : ι → List (Command α)} {l : List ι}
    (each : ∀ i ∈ l, f i = ⟨commands i, [], .ok ()⟩) :
    l.forM f = ⟨l.flatMap commands, [], .ok ()⟩ := by
  induction l with
  | nil => rfl
  | cons i rest ih =>
      change (f i >>= fun _ => rest.forM f) = _
      rw [each i List.mem_cons_self, ih fun j listed => each j (.tail _ listed)]
      rfl

theorem texels_le {config : Config α} {size : Nat} (captured : b.isCaptured = true)
    (sized : b.size config = .ok size) :
    config.atlasResolution * config.atlasResolution * (b.texelCells * Cell.size) ≤ size := by
  cases b
  case atlasDepth | atlasSurfaces | atlasDirect =>
    obtain ⟨content, held, room⟩ := BufferName.content_le rfl sized
    obtain ⟨count, counted, total⟩ := bind_eq_ok.mp held
    obtain ⟨rfl, -⟩ := Size.mul_eq_ok.mp counted
    obtain ⟨rfl, -⟩ := Size.mul_eq_ok.mp total
    exact room
  all_goals cases captured

theorem writeAtlasTexels_eq {texels : Nat} (full : c.hasSize texels = true)
    (sized : ∀ b : BufferName, ∃ size, b.size r.config = .ok size)
    (inside : start + texels ≤ r.config.atlasResolution * r.config.atlasResolution) :
    r.writeAtlasTexels start c = ⟨capturedBuffers.map (r.texelsCommand start c), [], .ok ()⟩ := by
  have each : ∀ b : BufferName, b.isCaptured = true →
      r.write b (start * (b.texelCells * Cell.size)) (c.cellsOf b).flatten =
        ⟨[r.texelsCommand start c b], [], .ok ()⟩ := by
    intro b captured
    obtain ⟨size, known⟩ := sized b
    apply write_eq known
    calc start * (b.texelCells * Cell.size) + (c.cellsOf b).flatten.length * 4
        = (start + texels) * (b.texelCells * Cell.size) := by
          rw [Capture.length_flatten_cellsOf full captured, Cell.size]
          ring
      _ ≤ r.config.atlasResolution * r.config.atlasResolution * (b.texelCells * Cell.size) :=
          Nat.mul_le_mul_right _ inside
      _ ≤ size := texels_le captured known
  have depth : c.depth.toList.map .scalar = (c.cellsOf .atlasDepth).flatten := by
    rw [Capture.cellsOf, ← List.flatMap_def, List.map_eq_flatMap]
  have surfaces : c.surfaces.toList.flatMap (·.cells) = (c.cellsOf .atlasSurfaces).flatten := rfl
  have direct : c.direct.toList.flatMap Cell.ofScalars = (c.cellsOf .atlasDirect).flatten := rfl
  rw [writeAtlasTexels, depth, surfaces, direct]
  change (r.write .atlasDepth (start * (BufferName.atlasDepth.texelCells * Cell.size)) _ >>= fun _ =>
    r.write .atlasSurfaces (start * (BufferName.atlasSurfaces.texelCells * Cell.size)) _ >>= fun _ =>
      r.write .atlasDirect (start * (BufferName.atlasDirect.texelCells * Cell.size)) _) = _
  rw [each _ rfl, each _ rfl, each _ rfl]
  rfl

theorem rowStart_le {resolution : Nat} (within : rect.Within resolution) (inside : i < rect.size.y) :
    rowStart resolution rect i + rect.size.x ≤ resolution * resolution := by
  obtain ⟨hx, hy⟩ := within
  calc rowStart resolution rect i + rect.size.x
      ≤ (rect.origin.y + i) * resolution + resolution := by
        rw [rowStart]
        omega
    _ = (rect.origin.y + i + 1) * resolution := (Nat.succ_mul _ _).symm
    _ ≤ resolution * resolution := Nat.mul_le_mul_right _ (by omega)

theorem writeTile_eq (sized : ∀ b : BufferName, ∃ size, b.size r.config = .ok size)
    (small : r.config.atlasResolution * r.config.atlasResolution ≤ 8388608)
    (within : rect.Within r.config.atlasResolution)
    (full : c.hasSize (rect.size.x * rect.size.y) = true) :
    r.writeTile rect c = ⟨r.tileCommands rect c, [], .ok ()⟩ := by
  have few : rect.size.x * rect.size.y < 4294967296 := by
    have area : rect.size.x * rect.size.y ≤ r.config.atlasResolution * r.config.atlasResolution :=
      Nat.mul_le_mul (by have := within.1; omega) (by have := within.2; omega)
    omega
  have rows : ∀ i ∈ List.range rect.size.y,
      r.writeAtlasTexels (rowStart r.config.atlasResolution rect i) (c.row rect.size.x i) =
        ⟨capturedBuffers.map (r.texelsCommand (rowStart r.config.atlasResolution rect i)
          (c.row rect.size.x i)), [], .ok ()⟩ := by
    intro i member
    have inside := List.mem_range.mp member
    exact writeAtlasTexels_eq (Capture.hasSize_row full inside) sized (rowStart_le within inside)
  change (checked (Word.mul rect.size.x rect.size.y) >>= fun texels =>
    ensure (c.hasSize texels) (.tileTexels rect.size) >>= fun _ =>
      (List.range rect.size.y).forM fun i =>
        r.writeAtlasTexels (rowStart r.config.atlasResolution rect i) (c.row rect.size.x i)) = _
  rw [Word.mul_eq_ok.mpr ⟨rfl, few⟩, forM_eq rows]
  change (ensure (c.hasSize (rect.size.x * rect.size.y)) _ >>= fun _ => _) = _
  rw [full]
  rfl

end Commands

section Places

variable {r : Renderer A α} {rect : Rect} {c : Capture α} {b : BufferName} {start texels : Nat}
  {h : Handle BufferName} {i : Nat}

def cellOf (c : Capture α) (b : BufferName) (e lane : Nat) : Option (Cell α) :=
  (c.cellsOf b)[e]?.bind (·[lane]?)

theorem texelCells_pos : 0 < b.texelCells := by cases b <;> decide

theorem put_texelsCommand {e lane : Nat} (inside : lane < b.texelCells) :
    (r.texelsCommand start c b).put h (e * b.texelCells + lane) =
      if r.buffer b = h ∧ start ≤ e then cellOf c b (e - start) lane else none := by
  have offset : start * (b.texelCells * Cell.size) / Cell.size = start * b.texelCells := by
    rw [← Nat.mul_assoc, Nat.mul_div_cancel _ (by decide : 0 < Cell.size)]
  rw [texelsCommand, put, offset]
  by_cases late : start ≤ e
  · have place : e * b.texelCells + lane - start * b.texelCells =
        (e - start) * b.texelCells + lane := by
      rw [Nat.sub_mul, Nat.sub_add_comm (Nat.mul_le_mul_right _ late)]
    have reached : start * b.texelCells ≤ e * b.texelCells + lane :=
      (Nat.mul_le_mul_right _ late).trans (Nat.le_add_right _ _)
    rw [place, getElem?_flatten_block (fun _ listed => Capture.length_cells listed) _ inside]
    simp only [late, reached, and_true, cellOf]
  · have missed : ¬start * b.texelCells ≤ e * b.texelCells + lane := by
      have next : (e + 1) * b.texelCells ≤ start * b.texelCells :=
        Nat.mul_le_mul_right _ (Nat.lt_of_not_le late)
      rw [Nat.succ_mul] at next
      omega
    simp only [late, missed, and_false, if_false]

theorem puts_row {e lane : Nat} (captured : b.isCaptured = true) (inside : lane < b.texelCells) :
    puts (capturedBuffers.map (r.texelsCommand start c)) (r.buffer b) (e * b.texelCells + lane) =
      if start ≤ e then (cellOf c b (e - start) lane).toList else [] := by
  have others : ∀ d : BufferName, d ≠ b → ∀ i,
      (r.texelsCommand start c d).put (r.buffer b) i = none := by
    intro d other i
    rw [texelsCommand, put, if_neg]
    simp [buffer, other]
  have own : ((r.texelsCommand start c b).put (r.buffer b) (e * b.texelCells + lane)).toList =
      if start ≤ e then (cellOf c b (e - start) lane).toList else [] := by
    rw [put_texelsCommand inside]
    by_cases late : start ≤ e
    · simp [late]
    · simp [late]
  rw [← own, ← puts_singleton]
  cases b
  case atlasDepth | atlasSurfaces | atlasDirect =>
    simp [capturedBuffers, puts, List.filterMap_cons, others]
  all_goals cases captured

theorem cellOf_row {j e lane : Nat} : cellOf (c.row texels j) b e lane =
    if e < texels then cellOf c b (j * texels + e) lane else none := by
  rw [cellOf, Capture.cellsOf_row, List.getElem?_take, cellOf]
  by_cases there : e < texels
  · rw [if_pos there, if_pos there, List.getElem?_drop]
  · rw [if_neg there, if_neg there]
    rfl

theorem flatMap_range_eq {f : Nat → List β} {n j : Nat} (inside : j < n)
    (others : ∀ i < n, i ≠ j → f i = []) : (List.range n).flatMap f = f j := by
  induction n with
  | zero => exact absurd inside (Nat.not_lt_zero j)
  | succ n ih =>
      rw [List.range_succ, List.flatMap_append, List.flatMap_singleton]
      by_cases last : j = n
      · have earlier : (List.range n).flatMap f = [] := by
          apply List.flatMap_eq_nil_iff.mpr
          intro i member
          have before := List.mem_range.mp member
          exact others i (Nat.lt_succ_of_lt before) (by omega)
        rw [earlier, List.nil_append, last]
      · rw [others n (Nat.lt_succ_self n) (Ne.symm last), List.append_nil]
        exact ih (by omega) fun i before => others i (Nat.lt_succ_of_lt before)

def elementAt (resolution : Nat) (p : Vec2 Nat) : Nat := p.y * resolution + p.x

def elementIn (rect : Rect) (p : Vec2 Nat) : Nat :=
  (p.y - rect.origin.y) * rect.size.x + (p.x - rect.origin.x)

theorem rowStart_le_iff {resolution j : Nat} {p : Vec2 Nat} (within : rect.Within resolution)
    (inside : p.x < resolution) :
    (rowStart resolution rect j ≤ elementAt resolution p ∧
      elementAt resolution p - rowStart resolution rect j < rect.size.x) ↔
      rect.origin.y + j = p.y ∧ rect.origin.x ≤ p.x ∧ p.x < rect.origin.x + rect.size.x := by
  obtain ⟨hx, -⟩ := within
  rw [rowStart, elementAt]
  constructor
  · rintro ⟨late, early⟩
    have same : (rect.origin.y + j) * resolution +
        (rect.origin.x + (p.y * resolution + p.x - ((rect.origin.y + j) * resolution + rect.origin.x)))
          = p.y * resolution + p.x := by omega
    obtain ⟨row, column⟩ := mul_add_unique (by omega) inside same
    exact ⟨row, by omega, by omega⟩
  · rintro ⟨row, low, high⟩
    rw [row]
    omega

theorem puts_of_contains {p : Vec2 Nat} {lane : Nat}
    (within : rect.Within r.config.atlasResolution) (captured : b.isCaptured = true)
    (inside : rect.Contains p) (short : lane < b.texelCells) :
    puts (r.tileCommands rect c) (r.buffer b)
      (elementAt r.config.atlasResolution p * b.texelCells + lane) =
        (cellOf c b (elementIn rect p) lane).toList := by
  obtain ⟨left, right, top, bottom⟩ := inside
  have reached : p.x < r.config.atlasResolution := right.trans_le within.1
  have height : p.y - rect.origin.y < rect.size.y := by omega
  have row : ∀ j, puts (capturedBuffers.map
      (r.texelsCommand (rowStart r.config.atlasResolution rect j) (c.row rect.size.x j)))
      (r.buffer b) (elementAt r.config.atlasResolution p * b.texelCells + lane) =
        if rect.origin.y + j = p.y then (cellOf c b (elementIn rect p) lane).toList else [] := by
    intro j
    have meets := rowStart_le_iff (j := j) within reached
    rw [puts_row captured short, cellOf_row]
    by_cases own : rect.origin.y + j = p.y
    · obtain ⟨late, early⟩ := meets.mpr ⟨own, left, right⟩
      have place : j * rect.size.x + (elementAt r.config.atlasResolution p -
          rowStart r.config.atlasResolution rect j) = elementIn rect p := by
        have first : p.y - rect.origin.y = j := by omega
        rw [elementIn, first, elementAt, rowStart, own]
        omega
      rw [if_pos late, if_pos early, if_pos own, place]
    · rw [if_neg own]
      by_cases late : rowStart r.config.atlasResolution rect j ≤
          elementAt r.config.atlasResolution p
      · have past := fun early => own (meets.mp ⟨late, early⟩).1
        rw [if_pos late, if_neg past]
        rfl
      · rw [if_neg late]
  rw [tileCommands, puts_flatMap, flatMap_range_eq height, row, if_pos (by omega)]
  intro j _ other
  rw [row, if_neg (by omega)]

theorem contains_of_puts (written : puts (r.tileCommands rect c) h i ≠ []) :
    ∃ b p lane, b.isCaptured = true ∧ h = r.buffer b ∧ rect.Contains p ∧ lane < b.texelCells ∧
      i = elementAt r.config.atlasResolution p * b.texelCells + lane := by
  obtain ⟨cell, listed⟩ := List.exists_mem_of_ne_nil _ written
  obtain ⟨command, member, put⟩ := List.mem_filterMap.mp listed
  obtain ⟨j, row, member⟩ := List.mem_flatMap.mp member
  obtain ⟨b, captured, rfl⟩ := List.mem_map.mp member
  have split : i = i / b.texelCells * b.texelCells + i % b.texelCells :=
    (Nat.div_add_mod' i b.texelCells).symm
  have short : i % b.texelCells < b.texelCells := Nat.mod_lt _ texelCells_pos
  rw [split, put_texelsCommand short] at put
  split_ifs at put with reached
  obtain ⟨rfl, late⟩ := reached
  rw [cellOf_row] at put
  split_ifs at put with early
  have inside := List.mem_range.mp row
  refine ⟨b, ⟨rect.origin.x + (i / b.texelCells - rowStart r.config.atlasResolution rect j),
    rect.origin.y + j⟩, _, mem_capturedBuffers.mp captured, rfl, ?_, short, ?_⟩
  · refine ⟨?_, ?_, ?_, ?_⟩
    · exact Nat.le_add_right _ _
    · exact Nat.add_lt_add_left early _
    · exact Nat.le_add_right _ _
    · exact Nat.add_lt_add_left inside _
  · have place : elementAt r.config.atlasResolution
        ⟨rect.origin.x + (i / b.texelCells - rowStart r.config.atlasResolution rect j),
          rect.origin.y + j⟩ = i / b.texelCells := by
      simp only [elementAt, rowStart] at late ⊢
      omega
    rw [place]
    exact split

end Places

section Contents

variable {r : Renderer A α} {rect : Rect} {c : Capture α} {b : BufferName} {m : Memory α}
  {p : Vec2 Nat} {lane : Nat}

theorem elementIn_lt (inside : rect.Contains p) :
    elementIn rect p < rect.size.x * rect.size.y := by
  obtain ⟨left, right, top, bottom⟩ := inside
  have row : p.y - rect.origin.y < rect.size.y := by omega
  calc elementIn rect p
      < (p.y - rect.origin.y) * rect.size.x + rect.size.x := by
        rw [elementIn]
        omega
    _ = rect.size.x * (p.y - rect.origin.y + 1) := by ring
    _ ≤ rect.size.x * rect.size.y := Nat.mul_le_mul_left _ row

theorem elementAt_lt {resolution : Nat} (within : rect.Within resolution)
    (inside : rect.Contains p) : elementAt resolution p < resolution * resolution := by
  obtain ⟨left, right, top, bottom⟩ := inside
  obtain ⟨hx, hy⟩ := within
  have row : p.y + 1 ≤ resolution := by omega
  calc elementAt resolution p
      < p.y * resolution + resolution := by
        rw [elementAt]
        omega
    _ = (p.y + 1) * resolution := (Nat.succ_mul _ _).symm
    _ ≤ resolution * resolution := Nat.mul_le_mul_right _ row

theorem cellOf_eq_some (full : c.hasSize (rect.size.x * rect.size.y) = true)
    (captured : b.isCaptured = true) (inside : rect.Contains p) (short : lane < b.texelCells) :
    ∃ cell, cellOf c b (elementIn rect p) lane = some cell := by
  have there : elementIn rect p < (c.cellsOf b).length := by
    rw [Capture.length_cellsOf full captured]
    exact elementIn_lt inside
  have whole := Capture.length_cells (List.getElem_mem there)
  rw [cellOf, List.getElem?_eq_getElem there]
  exact ⟨_, List.getElem?_eq_getElem (whole ▸ short)⟩

theorem cellOf_depth {e : Nat} : cellOf c .atlasDepth e 0 = c.depth[e]?.map .scalar := by
  cases found : c.depth[e]? <;> simp [cellOf, Capture.cellsOf, found]

theorem cellOf_surfaces {e : Nat} :
    cellOf c .atlasSurfaces e lane = c.surfaces[e]?.bind (·.cells[lane]?) := by
  cases found : c.surfaces[e]? <;> simp [cellOf, Capture.cellsOf, found]

theorem cellOf_direct {e : Nat} :
    cellOf c .atlasDirect e lane = c.direct[e]?.bind fun v => (Cell.ofScalars v)[lane]? := by
  cases found : c.direct[e]? <;> simp [cellOf, Capture.cellsOf, found]

theorem index_of_contains {resolution : Nat} (small : resolution * resolution ≤ 8388608)
    (within : rect.Within resolution) (inside : rect.Contains p) :
    Texels.index (.splat resolution) p = .ok (elementAt resolution p) := by
  have below := elementAt_lt within inside
  rw [elementAt] at below ⊢
  have row : p.y * resolution < 4294967296 := by omega
  have short : p.y * resolution + p.x < 4294967296 := by omega
  rw [Texels.index]
  exact (congrArg (· >>= _) (Word.mul_eq_ok.mpr ⟨rfl, row⟩)).trans
    (Word.add_eq_ok.mpr ⟨rfl, short⟩)

theorem isWrite_of_mem_tileCommands {command : Command α}
    (member : command ∈ r.tileCommands rect c) : command.isWrite = true := by
  obtain ⟨i, -, member⟩ := List.mem_flatMap.mp member
  obtain ⟨b, -, rfl⟩ := List.mem_map.mp member
  rfl

theorem getElem?_uploaded (within : rect.Within r.config.atlasResolution)
    (full : c.hasSize (rect.size.x * rect.size.y) = true)
    (room : r.config.atlasResolution * r.config.atlasResolution * b.texelCells ≤
      (m (r.buffer b)).length)
    (captured : b.isCaptured = true) (inside : rect.Contains p) (short : lane < b.texelCells) :
    (m.replay (r.tileCommands rect c) (r.buffer b))[
      elementAt r.config.atlasResolution p * b.texelCells + lane]? =
        cellOf c b (elementIn rect p) lane := by
  have there : elementAt r.config.atlasResolution p * b.texelCells + lane <
      (m (r.buffer b)).length := by
    have next : (elementAt r.config.atlasResolution p + 1) * b.texelCells ≤
        r.config.atlasResolution * r.config.atlasResolution * b.texelCells :=
      Nat.mul_le_mul_right _ (elementAt_lt within inside)
    rw [Nat.succ_mul] at next
    omega
  obtain ⟨cell, found⟩ := cellOf_eq_some full captured inside short
  rw [Memory.getElem?_replay fun _ member => isWrite_of_mem_tileCommands member,
    puts_of_contains within captured inside short, found, List.getElem?_eq_getElem there]
  rfl

end Contents

end Renderer

end IrradianceField
