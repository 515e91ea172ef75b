import IrradianceField.Proofs.Framing

/-!
Bordering: the threads of both border passes in any order, with whatever idle ones in between. Each
texel of a border has a thread of its own, and no thread reads what another one stores.
-/

namespace IrradianceField

namespace Border

variable {β : Type} {pass : BorderPass} {columns rows place : Nat} {src size : Vec2 Nat}
  {atlas mid after : Texels β}

/-- A pass over tiles of atlases of a size, which are in so many columns and rows. -/
structure Covers (pass : BorderPass) (columns rows : Nat) (size : Vec2 Nat) : Prop where
  some : 0 < pass.resolution
  short : pass.resolution + 2 < 4294967296
  tiles : pass.tilesCount ≤ columns * rows
  sides : size = ⟨columns * (pass.resolution + 2), rows * (pass.resolution + 2)⟩
  words : size.x * size.y ≤ 4294967296

theorem Covers.isTiled (covers : Covers pass columns rows size) (sized : atlas.size = size)
    (full : atlas.data.size = size.x * size.y) : IsTiled pass.resolution columns rows atlas :=
  ⟨sized.trans covers.sides, sized ▸ full, sized ▸ covers.words⟩

namespace Call

variable {call other : Call}

theorem run_of_not_isWorker (short : pass.resolution + 1 < 4294967296) (idle : ¬call.IsWorker pass) :
    call.run pass atlas = .ok atlas := by
  have last : Word.add pass.resolution 1 = .ok (pass.resolution + 1) :=
    Word.add_eq_ok.mpr ⟨rfl, short⟩
  have unlisted : ∀ {tile texel}, pass.tilesCount ≤ tile →
      copyTexel pass tile texel atlas = .ok atlas := fun beyond => if_pos beyond
  cases call with
  | row tile thread =>
      by_cases busy : thread.x ≤ pass.resolution + 1 ∧ thread.y ≤ 1
      · have beyond : pass.tilesCount ≤ tile := Nat.not_lt.mp fun listed => idle ⟨listed, busy⟩
        exact (updateRows_eq short busy.1 busy.2).trans (unlisted beyond)
      · have out : (decide (pass.resolution + 1 < thread.x) || decide (1 < thread.y)) = true := by
          rw [Bool.or_eq_true, decide_eq_true_iff, decide_eq_true_iff]
          omega
        rw [run, updateRows, last, ok_bind, if_pos out]
        rfl
  | column tile thread =>
      by_cases busy : thread.x ≤ 1 ∧ thread.y < pass.resolution
      · have beyond : pass.tilesCount ≤ tile := Nat.not_lt.mp fun listed => idle ⟨listed, busy⟩
        exact (updateColumns_eq short busy.1 busy.2).trans (unlisted beyond)
      · have out : (decide (1 < thread.x) || decide (pass.resolution ≤ thread.y)) = true := by
          rw [Bool.or_eq_true, decide_eq_true_iff, decide_eq_true_iff]
          omega
        rw [run, updateColumns, last, ok_bind, if_pos out]
        rfl

theorem IsWorker.on_border (works : call.IsWorker pass) :
    ((call.texel pass.resolution).x ≤ pass.resolution + 1 ∧
        (call.texel pass.resolution).y ≤ pass.resolution + 1) ∧
      ¬IsInner pass.resolution (call.texel pass.resolution) := by
  have far : ∀ side ≤ 1, side * (pass.resolution + 1) ≤ pass.resolution + 1 ∧
      ¬(1 ≤ side * (pass.resolution + 1) ∧ side * (pass.resolution + 1) ≤ pass.resolution) := by
    intro side near
    interval_cases side <;> omega
  cases call with
  | row tile thread =>
      obtain ⟨-, x, y⟩ := works
      exact ⟨⟨x, (far _ y).1⟩, fun inner => (far _ y).2 inner.2⟩
  | column tile thread =>
      obtain ⟨-, x, y⟩ := works
      exact ⟨⟨(far _ x).1, Nat.succ_le_succ y.le⟩, fun inner => (far _ x).2 inner.1⟩

theorem IsWorker.listed (works : call.IsWorker pass) : call.tile < pass.tilesCount := by
  cases call with
  | row => exact works.1
  | column => exact works.1

theorem IsWorker.exists_source (short : pass.resolution + 1 < 4294967296)
    (works : call.IsWorker pass) :
    ∃ src, source (call.texel pass.resolution) pass.resolution = .ok (some src) :=
  (inner_or_source short works.on_border.1).resolve_left works.on_border.2

theorem IsWorker.eq_of_texel (works : call.IsWorker pass) (works' : other.IsWorker pass)
    (tiles : call.tile = other.tile)
    (texels : call.texel pass.resolution = other.texel pass.resolution) : call = other := by
  have sides : ∀ {a b}, a * (pass.resolution + 1) = b * (pass.resolution + 1) → a = b :=
    fun same => Nat.eq_of_mul_eq_mul_right (Nat.succ_pos _) same
  -- rows are at the ends of the tile, and the texels of columns are in between
  have apart : ∀ {side y}, side ≤ 1 → y < pass.resolution → side * (pass.resolution + 1) ≠ y + 1 := by
    intro side y near short
    interval_cases side <;> omega
  cases call with
  | row tile thread =>
      cases other with
      | row tile' thread' =>
          obtain ⟨x, y⟩ := Vec2.mk.inj texels
          exact congrArg₂ row tiles (congrArg₂ Vec2.mk x (sides y))
      | column tile' thread' =>
          exact absurd (Vec2.mk.inj texels).2 (apart works.2.2 works'.2.2)
  | column tile thread =>
      cases other with
      | row tile' thread' =>
          exact absurd (Vec2.mk.inj texels).2.symm (apart works'.2.2 works.2.2)
      | column tile' thread' =>
          obtain ⟨x, y⟩ := Vec2.mk.inj texels
          exact congrArg₂ column tiles (congrArg₂ Vec2.mk (sides x) (Nat.succ.inj y))

def element (resolution columns : Nat) (call : Call) : Nat :=
  elementOf resolution columns call.tile (call.texel resolution)

theorem run_eq_ok (covers : Covers pass columns rows size) (sized : atlas.size = size)
    (full : atlas.data.size = size.x * size.y) (works : call.IsWorker pass)
    (found : source (call.texel pass.resolution) pass.resolution = .ok (some src)) :
    ∃ value, atlas.data[elementOf pass.resolution columns call.tile src]? = some value ∧
      call.element pass.resolution columns < atlas.data.size ∧ call.run pass atlas = .ok
        ⟨atlas.data.setIfInBounds (call.element pass.resolution columns) value, size⟩ := by
  have tiled := covers.isTiled sized full
  have short := covers.short
  obtain ⟨after, ran⟩ : ∃ after,
      copyTexel pass call.tile (call.texel pass.resolution) atlas = .ok after :=
    copyTexel_ends tiled covers.tiles covers.short works.on_border.1
  obtain ⟨value, held, room, stored⟩ := copied_of_copyTexel tiled covers.tiles works.listed found ran
  have same : after.size = size := (copyTexel_keeps ran).size.trans sized
  refine ⟨value, held, room, ?_⟩
  rw [run_of_isWorker (by omega) works, ran, element, ← stored, ← same]

theorem IsWorker.columns_pos (works : call.IsWorker pass) (covers : Covers pass columns rows size) :
    0 < columns :=
  Nat.pos_of_mul_pos_right (Nat.zero_lt_of_lt (works.listed.trans_le covers.tiles))

theorem IsWorker.eq_of_element (works : call.IsWorker pass) (works' : other.IsWorker pass)
    (some : 0 < columns)
    (same : call.element pass.resolution columns = other.element pass.resolution columns) :
    call = other := by
  obtain ⟨tiles, texels⟩ := elementOf_inj some works.on_border.1 works'.on_border.1 same
  exact works.eq_of_texel works' tiles texels

/-- A thread stores to an element if there is an atlas in which it changes it. -/
def StoresTo (pass : BorderPass) (size : Vec2 Nat) (call : Call) (place : Nat) : Prop :=
  ∃ atlas after : Texels Bool, atlas.size = size ∧ atlas.data.size = size.x * size.y ∧
    call.run pass atlas = .ok after ∧ after.data[place]? ≠ atlas.data[place]?

theorem storesTo_iff (covers : Covers pass columns rows size) :
    call.StoresTo pass size place ↔
      call.IsWorker pass ∧ place = call.element pass.resolution columns := by
  have short := covers.short
  constructor
  · rintro ⟨t, after, sized, full, ran, changed⟩
    by_cases works : call.IsWorker pass
    · obtain ⟨src, found⟩ := works.exists_source (by omega)
      obtain ⟨value, -, -, stored⟩ := run_eq_ok covers sized full works found
      obtain rfl := Except.ok.inj (ran.symm.trans stored)
      refine ⟨works, by_contra fun other => changed ?_⟩
      exact Array.getElem?_setIfInBounds_ne (Ne.symm other)
    · rw [run_of_not_isWorker (by omega) works] at ran
      obtain rfl := Except.ok.inj ran
      exact absurd rfl changed
  · rintro ⟨works, rfl⟩
    obtain ⟨src, found⟩ := works.exists_source (by omega)
    -- an atlas with a single mark, at the source of the copy
    let marked : Texels Bool := ⟨(Array.replicate (size.x * size.y) false).setIfInBounds
      (elementOf pass.resolution columns call.tile src) true, size⟩
    have full : marked.data.size = size.x * size.y := by simp [marked]
    have sized : marked.size = size := rfl
    obtain ⟨value, held, room, stored⟩ := run_eq_ok covers sized full works found
    have apart : elementOf pass.resolution columns call.tile src ≠
        call.element pass.resolution columns := by
      intro same
      obtain ⟨-, rfl⟩ := elementOf_inj (works.columns_pos covers) (source_inside found)
        works.on_border.1 same
      exact works.on_border.2 (isInner_of_source covers.some found)
    have inside := (Array.getElem?_eq_some_iff.mp held).1
    have mark : value = true := by
      rw [Array.getElem?_setIfInBounds_self_of_lt (by simpa [marked] using inside)] at held
      exact (Option.some.inj held).symm
    refine ⟨marked, _, sized, full, stored, ?_⟩
    rw [Array.getElem?_setIfInBounds_self_of_lt room, Array.getElem?_setIfInBounds_ne apart,
      Array.getElem?_replicate, if_pos (full ▸ room), mark]
    decide

theorem copied_of_run (ran : call.run pass mid = .ok after) :
    after = mid ∨ ∃ texel, copyTexel pass call.tile texel mid = .ok after := by
  cases call with
  | row => exact copied_of_updateRows ran
  | column => exact copied_of_updateColumns ran

theorem run_keeps (ran : call.run pass mid = .ok after) : Keeps pass mid after := by
  cases call with
  | row => exact updateRows_keeps ran
  | column => exact updateColumns_keeps ran

theorem run_ends (covers : Covers pass columns rows size)
    (tiled : IsTiled pass.resolution columns rows atlas) (call : Call) :
    ∃ after, call.run pass atlas = .ok after := by
  cases call with
  | row tile thread => exact updateRows_ends tiled covers.tiles covers.short thread
  | column tile thread => exact updateColumns_ends tiled covers.tiles covers.short thread

theorem run_elsewhere (covers : Covers pass columns rows size) (sized : mid.size = size)
    (full : mid.data.size = size.x * size.y) (ran : call.run pass mid = .ok after)
    (free : call.IsWorker pass → place ≠ call.element pass.resolution columns) :
    after.data[place]? = mid.data[place]? := by
  have short := covers.short
  by_cases works : call.IsWorker pass
  · obtain ⟨src, found⟩ := works.exists_source (by omega)
    obtain ⟨value, -, -, stored⟩ := run_eq_ok covers sized full works found
    obtain rfl := Except.ok.inj (ran.symm.trans stored)
    exact Array.getElem?_setIfInBounds_ne (free works).symm
  · rw [run_of_not_isWorker (by omega) works] at ran
    obtain rfl := Except.ok.inj ran
    rfl

end Call

def runCalls (pass : BorderPass) (calls : List Call) (atlas : Texels β) : Except Fault (Texels β) :=
  calls.foldlM (fun atlas call => call.run pass atlas) atlas

/-- Each thread that is not idle runs once, in whatever order and with whatever idle ones. -/
def IsDispatch (pass : BorderPass) (calls : List Call) : Prop :=
  ∀ call : Call, call.IsWorker pass → calls.count call = 1

def StoredOnce (pass : BorderPass) (size : Vec2 Nat) (calls : List Call) (place : Nat) : Prop :=
  ∃ before call rest, calls = before ++ call :: rest ∧ call.StoresTo pass size place ∧
    ∀ other ∈ before ++ rest, ¬other.StoresTo pass size place

def IsBorder (resolution : Nat) (texel : Vec2 Nat) : Prop :=
  (texel.x ≤ resolution + 1 ∧ texel.y ≤ resolution + 1) ∧ ¬IsInner resolution texel

/-- The borders of the listed tiles are copies of what was inside of the tiles before, and all else
is as it was. -/
structure Fills (pass : BorderPass) (columns : Nat) (atlas after : Texels β) : Prop where
  size : after.size = atlas.size
  length : after.data.size = atlas.data.size
  copies : ∀ tile < pass.tilesCount, ∀ texel, IsBorder pass.resolution texel →
    ∃ src, source texel pass.resolution = .ok (some src) ∧ IsInner pass.resolution src ∧
      Mirrors pass.resolution columns tile texel src atlas after
  inner : ∀ tile < pass.tilesCount, ∀ texel, IsInner pass.resolution texel →
    Mirrors pass.resolution columns tile texel texel atlas after
  outside : ∀ place, (∀ tile < pass.tilesCount, ∀ texel : Vec2 Nat,
    texel.x ≤ pass.resolution + 1 ∧ texel.y ≤ pass.resolution + 1 →
      place ≠ elementOf pass.resolution columns tile texel) → after.data[place]? = atlas.data[place]?

section Runs

variable {calls : List Call} {tile : Nat} {texel : Vec2 Nat}
  (covers : Covers pass columns rows size)

include covers

theorem runCalls_ends (tiled : IsTiled pass.resolution columns rows atlas) (calls : List Call) :
    ∃ after, runCalls pass calls atlas = .ok after := by
  obtain ⟨after, ran, -⟩ := foldlM_ends (fun _ t => IsTiled pass.resolution columns rows t)
    (f := fun atlas (call : Call) => call.run pass atlas) (l := calls) (s := atlas)
    (fun _ call _ t _ tiled => by
      obtain ⟨t', ran⟩ := call.run_ends covers tiled
      exact ⟨t', ran, (Call.run_keeps ran).isTiled tiled⟩) tiled
  exact ⟨after, ran⟩

theorem runCalls_elsewhere (sized : atlas.size = size) (full : atlas.data.size = size.x * size.y)
    (ran : runCalls pass calls atlas = .ok after)
    (free : ∀ call : Call, call.IsWorker pass → place ≠ call.element pass.resolution columns) :
    after.data[place]? = atlas.data[place]? := by
  have both : Keeps pass atlas after ∧ after.data[place]? = atlas.data[place]? :=
    foldlM_keeps (fun t => Keeps pass atlas t ∧ t.data[place]? = atlas.data[place]?)
      (fun call _ t t' both ran => by
        obtain ⟨kept, same⟩ := both
        refine ⟨kept.trans (Call.run_keeps ran), ?_⟩
        exact (Call.run_elsewhere covers (kept.size.trans sized) (kept.length.trans full) ran
          (free call)).trans same) ⟨.refl pass atlas, rfl⟩ ran
  exact both.2

theorem inner_free (inner : IsInner pass.resolution texel) (call : Call)
    (works : call.IsWorker pass) :
    elementOf pass.resolution columns tile texel ≠ call.element pass.resolution columns := by
  intro same
  obtain ⟨x, y⟩ := inner
  obtain ⟨-, rfl⟩ := elementOf_inj (works.columns_pos covers)
    ⟨Nat.le_succ_of_le x.2, Nat.le_succ_of_le y.2⟩ works.on_border.1 same
  exact works.on_border.2 ⟨x, y⟩

theorem mirrors_of_runCalls (sized : atlas.size = size) (full : atlas.data.size = size.x * size.y)
    (dispatch : IsDispatch pass calls) (listed : tile < pass.tilesCount)
    (found : source texel pass.resolution = .ok (some src))
    (ran : runCalls pass calls atlas = .ok after) :
    Mirrors pass.resolution columns tile texel src atlas after := by
  have tiled := covers.isTiled sized full
  have short := covers.short
  obtain ⟨call, works, rfl, rfl⟩ := Call.exists_isWorker listed found
  have member : call ∈ calls := List.count_pos_iff.mp (by rw [dispatch call works]; decide)
  refine foldlM_reaches (Keeps pass atlas) _ ?_ member ?_ (.refl pass atlas) ran
  · intro other _ t t' kept ran
    exact kept.step covers.tiles covers.some tiled listed found (Call.copied_of_run ran)
  · intro t t' kept ran
    rw [Call.run_of_isWorker (by omega) works] at ran
    exact kept.mirrors_of_copyTexel covers.tiles covers.some tiled listed found ran

theorem fills_of_runCalls (sized : atlas.size = size) (full : atlas.data.size = size.x * size.y)
    (dispatch : IsDispatch pass calls) (ran : runCalls pass calls atlas = .ok after) :
    Fills pass columns atlas after := by
  have kept : Keeps pass atlas after := foldlM_keeps (Keeps pass atlas)
    (fun call _ t t' kept ran => kept.trans (Call.run_keeps ran)) (.refl pass atlas) ran
  have short := covers.short
  constructor
  case size => exact kept.size
  case length => exact kept.length
  case copies =>
    intro tile listed texel border
    obtain ⟨src, found⟩ := (inner_or_source (by omega) border.1).resolve_left border.2
    exact ⟨src, found, isInner_of_source covers.some found,
      mirrors_of_runCalls covers sized full dispatch listed found ran⟩
  case inner =>
    intro tile listed texel inner
    exact runCalls_elsewhere covers sized full ran (inner_free covers inner)
  case outside =>
    intro place free
    exact runCalls_elsewhere covers sized full ran fun call works =>
      free call.tile works.listed _ works.on_border.1

theorem storedOnce (dispatch : IsDispatch pass calls) (listed : tile < pass.tilesCount)
    (border : IsBorder pass.resolution texel) :
    StoredOnce pass size calls (elementOf pass.resolution columns tile texel) := by
  have short := covers.short
  obtain ⟨src, found⟩ := (inner_or_source (by omega) border.1).resolve_left border.2
  obtain ⟨call, works, rfl, rfl⟩ := Call.exists_isWorker listed found
  have once := dispatch call works
  obtain ⟨before, rest, rfl⟩ := List.append_of_mem (List.count_pos_iff.mp (by rw [once]; decide))
  refine ⟨before, call, rest, rfl, (Call.storesTo_iff covers).mpr ⟨works, rfl⟩, ?_⟩
  intro other member stores
  obtain ⟨works', same⟩ := (Call.storesTo_iff covers).mp stores
  obtain rfl := works.eq_of_element works' (works.columns_pos covers) same
  have more : 0 < (before ++ rest).count call := List.count_pos_iff.mpr member
  rw [List.count_append, List.count_cons_self] at once
  rw [List.count_append] at more
  omega

theorem Fills.run_eq (fills : Fills pass columns atlas after) (sized : atlas.size = size)
    (full : atlas.data.size = size.x * size.y) (call : Call) : call.run pass after = .ok after := by
  have short := covers.short
  by_cases works : call.IsWorker pass
  · obtain ⟨src, found, inner, made⟩ := fills.copies call.tile works.listed _ works.on_border
    obtain ⟨value, held, room, stored⟩ := Call.run_eq_ok covers (fills.size.trans sized)
      (fills.length.trans full) works found
    have kept := fills.inner call.tile works.listed src inner
    have same : after.data[call.element pass.resolution columns]? = some value :=
      made.trans (kept.symm.trans held)
    have data : after.data.setIfInBounds (call.element pass.resolution columns) value =
        after.data := by
      apply Array.ext_getElem?
      intro i
      by_cases here : call.element pass.resolution columns = i
      · rw [← here, Array.getElem?_setIfInBounds_self_of_lt room, same]
      · exact Array.getElem?_setIfInBounds_ne here
    rw [stored, data, ← sized, ← fills.size]
  · exact Call.run_of_not_isWorker (by omega) works

theorem Fills.runCalls_eq (fills : Fills pass columns atlas after) (sized : atlas.size = size)
    (full : atlas.data.size = size.x * size.y) (calls : List Call) :
    runCalls pass calls after = .ok after := by
  induction calls with
  | nil => rfl
  | cons call rest ih =>
      exact foldlM_cons_eq_ok.mpr ⟨after, fills.run_eq covers sized full call, ih⟩

end Runs

theorem covers_of_grid {g : Grid} (some : 0 < pass.resolution)
    (sized : g.atlasSize pass.resolution = .ok size) (words : size.x * size.y ≤ 4294967296)
    (listed : pass.tilesCount ≤ g.size * g.cascades) :
    Covers pass g.counts.x (g.counts.y * g.counts.z * g.cascades) size := by
  obtain ⟨sides, short, -⟩ := Grid.atlasSize_eq_ok.mp sized
  have tiles : g.size * g.cascades = g.counts.x * (g.counts.y * g.counts.z * g.cascades) := by
    rw [Grid.size]
    ring
  exact ⟨some, short, tiles ▸ listed, by rw [sides, Nat.mul_right_comm], words⟩

/-- Whatever the order in which the threads of both passes run, all of them end, each texel of a
border is stored to by one of them and holds what the inner texel that it stands for held before,
and all other texels are left alone. After that, no thread changes anything any more. The texels of
the atlas are as many as words can number. -/
theorem fills_in_any_order (g : Grid) (pass : BorderPass) (calls : List Call) (atlas : Texels β)
    (some : 1 ≤ pass.resolution) (sized : g.atlasSize pass.resolution = .ok atlas.size)
    (full : atlas.data.size = atlas.size.x * atlas.size.y) (words : atlas.data.size ≤ 4294967296)
    (listed : pass.tilesCount ≤ g.size * g.cascades) (dispatch : IsDispatch pass calls) :
    ∃ after, runCalls pass calls atlas = .ok after ∧ Fills pass g.counts.x atlas after ∧
      (∀ tile < pass.tilesCount, ∀ texel, IsBorder pass.resolution texel →
        StoredOnce pass atlas.size calls (elementOf pass.resolution g.counts.x tile texel)) ∧
      ∀ again, runCalls pass again after = .ok after := by
  have covers := covers_of_grid some sized (full ▸ words) listed
  obtain ⟨after, ran⟩ := runCalls_ends covers (covers.isTiled rfl full) calls
  have fills := fills_of_runCalls covers rfl full dispatch ran
  exact ⟨after, ran, fills, fun tile listed texel border => storedOnce covers dispatch listed border,
    fun again => fills.runCalls_eq covers rfl full again⟩

/-- Both passes over three of four tiles, the columns first, with idle threads around them. -/
def backwardCalls : List Call :=
  [.row 3 ⟨0, 0⟩, .column 0 ⟨0, 1⟩] ++
    ((List.range 3).flatMap fun tile => (threads 3 2).map (.row tile) ++
      (threads 2 1).map (.column tile)).reverse ++ [.row 1 ⟨3, 0⟩, .column 5 ⟨1, 0⟩]

theorem fills_in_any_order_backward :
    ∃ after, runCalls ⟨1, 3⟩ backwardCalls ⟨Array.range 36, ⟨6, 6⟩⟩ = .ok after ∧
      Fills ⟨1, 3⟩ 2 ⟨Array.range 36, ⟨6, 6⟩⟩ after := by
  have dispatch : IsDispatch ⟨1, 3⟩ backwardCalls := by
    have rows : ∀ tile < 3, ∀ x < 3, ∀ y < 2, backwardCalls.count (.row tile ⟨x, y⟩) = 1 := by
      decide
    have columns : ∀ tile < 3, ∀ x < 2, ∀ y < 1, backwardCalls.count (.column tile ⟨x, y⟩) = 1 := by
      decide
    rintro (⟨tile, x, y⟩ | ⟨tile, x, y⟩) ⟨listed, hx, hy⟩
    · exact rows tile listed x (Nat.lt_succ_of_le hx) y (Nat.lt_succ_of_le hy)
    · exact columns tile listed x (Nat.lt_succ_of_le hx) y hy
  obtain ⟨after, ran, fills, -⟩ := fills_in_any_order ⟨⟨2, 1, 1⟩, 2⟩ ⟨1, 3⟩ backwardCalls
    ⟨Array.range 36, ⟨6, 6⟩⟩ (by decide) (by decide) (by decide) (by decide) (by decide) dispatch
  exact ⟨after, ran, fills⟩

end Border

end IrradianceField
