import IrradianceField.Proofs.Borders

/-!
Framing: once the border passes are over, each texel of a tile's border holds what the inner texel
that it stands for held before them.
-/

namespace IrradianceField

namespace Border

section Copies

variable {β : Type} {pass : BorderPass} {resolution columns rows tile tile' : Nat}
  {texel texel' src : Vec2 Nat} {atlas mid after : Texels β}

/-- Element of an atlas that holds a texel of a tile, border included; tiles are numbered row by
row. -/
def elementOf (resolution columns tile : Nat) (texel : Vec2 Nat) : Nat :=
  (tile / columns * (resolution + 2) + texel.y) * (columns * (resolution + 2)) +
    (tile % columns * (resolution + 2) + texel.x)

def IsInner (resolution : Nat) (texel : Vec2 Nat) : Prop :=
  (1 ≤ texel.x ∧ texel.x ≤ resolution) ∧ 1 ≤ texel.y ∧ texel.y ≤ resolution

/-- A texel of a tile holds what another one of the same tile held in an earlier atlas. -/
def Mirrors (resolution columns tile : Nat) (texel src : Vec2 Nat) (atlas after : Texels β) : Prop :=
  after.data[elementOf resolution columns tile texel]? =
    atlas.data[elementOf resolution columns tile src]?

theorem column_lt (some : 0 < columns) (inside : texel.x ≤ resolution + 1) :
    tile % columns * (resolution + 2) + texel.x < columns * (resolution + 2) := by
  have column := Nat.mul_le_mul_right (resolution + 2) (Nat.mod_lt tile some)
  rw [Nat.succ_mul] at column
  omega

theorem elementOf_inj (some : 0 < columns)
    (inside : texel.x ≤ resolution + 1 ∧ texel.y ≤ resolution + 1)
    (inside' : texel'.x ≤ resolution + 1 ∧ texel'.y ≤ resolution + 1)
    (same : elementOf resolution columns tile texel = elementOf resolution columns tile' texel') :
    tile = tile' ∧ texel = texel' := by
  obtain ⟨rows, columns⟩ := mul_add_unique (column_lt some inside.1) (column_lt some inside'.1) same
  obtain ⟨row, y⟩ := mul_add_unique (Nat.lt_succ_of_le inside.2) (Nat.lt_succ_of_le inside'.2) rows
  obtain ⟨column, x⟩ :=
    mul_add_unique (Nat.lt_succ_of_le inside.1) (Nat.lt_succ_of_le inside'.1) columns
  constructor
  · rw [← Nat.div_add_mod tile, ← Nat.div_add_mod tile', row, column]
  · exact congrArg₂ Vec2.mk x y

theorem isInner_of_source (some : 0 < resolution)
    (found : source texel resolution = .ok (.some src)) : IsInner resolution src := by
  obtain ⟨last, sum, found⟩ := bind_eq_ok.mp found
  obtain ⟨rfl, -⟩ := Word.add_eq_ok.mp sum
  dsimp only at found
  unfold IsInner
  repeat' split at found
  all_goals cases found
  all_goals
    dsimp only
    omega

theorem inner_or_source (short : resolution + 1 < 4294967296)
    (inside : texel.x ≤ resolution + 1 ∧ texel.y ≤ resolution + 1) :
    IsInner resolution texel ∨ ∃ src, source texel resolution = .ok (some src) := by
  have last : Word.add resolution 1 = .ok (resolution + 1) := Word.add_eq_ok.mpr ⟨rfl, short⟩
  simp only [source, last, ok_bind, IsInner]
  repeat' split
  all_goals first
    | exact .inr ⟨_, rfl⟩
    | omega

theorem Keeps.mirrors_inner (kept : Keeps pass atlas after)
    (tiled : IsTiled pass.resolution columns rows atlas) (some : 0 < columns)
    (inner : IsInner pass.resolution texel) :
    Mirrors pass.resolution columns tile texel texel atlas after := by
  obtain ⟨x, y⟩ := inner
  have left : tile % columns * (pass.resolution + 2) + texel.x < columns * (pass.resolution + 2) :=
    column_lt some (Nat.le_succ_of_le x.2)
  have offX : (tile % columns * (pass.resolution + 2) + texel.x) % (pass.resolution + 2) = texel.x :=
    Nat.mul_add_mod_of_lt (by omega)
  have offY : (tile / columns * (pass.resolution + 2) + texel.y) % (pass.resolution + 2) = texel.y :=
    Nat.mul_add_mod_of_lt (by omega)
  have width : atlas.size.x = columns * (pass.resolution + 2) := congrArg Vec2.x tiled.size
  have same := kept.inside ⟨tile % columns * (pass.resolution + 2) + texel.x,
    tile / columns * (pass.resolution + 2) + texel.y⟩ (width ▸ left) ⟨offX.symm ▸ x, offY.symm ▸ y⟩
  rw [width] at same
  exact same

theorem copied_of_copyTexel (tiled : IsTiled pass.resolution columns rows mid)
    (covered : pass.tilesCount ≤ columns * rows) (listed : tile < pass.tilesCount)
    (found : source texel pass.resolution = .ok (some src))
    (ran : copyTexel pass tile texel mid = .ok after) :
    ∃ value, mid.data[elementOf pass.resolution columns tile src]? = some value ∧
      elementOf pass.resolution columns tile texel < mid.data.size ∧
      after.data = mid.data.setIfInBounds (elementOf pass.resolution columns tile texel) value := by
  obtain ⟨wordX, wordY⟩ := tiled.sides_lt (Nat.zero_lt_of_lt (listed.trans_le covered))
  rw [copyTexel_eq tiled.size wordX wordY covered listed found] at ran
  simp only [Texels.read, Texels.write, bind_eq_ok, fetch_eq_ok, store_eq_ok, pure_eq_ok,
    Except.ok.injEq] at ran
  obtain ⟨value, ⟨i, indexed, held⟩, j, indexed', _, ⟨room, rfl⟩, rfl⟩ := ran
  obtain rfl := Texels.index_eq_ok indexed
  obtain rfl := Texels.index_eq_ok indexed'
  rw [tiled.size] at held room
  refine ⟨value, held, room, ?_⟩
  dsimp only
  rw [tiled.size]
  rfl

variable (covered : pass.tilesCount ≤ columns * rows) (some : 0 < pass.resolution)

include covered some

/-- A copy is one of what the inner texel held at the start, as inner texels do not change. -/
theorem Keeps.mirrors_of_copyTexel (kept : Keeps pass atlas mid)
    (tiled : IsTiled pass.resolution columns rows atlas) (listed : tile < pass.tilesCount)
    (found : source texel pass.resolution = .ok (.some src))
    (ran : copyTexel pass tile texel mid = .ok after) :
    Mirrors pass.resolution columns tile texel src atlas after := by
  have columned : 0 < columns :=
    Nat.pos_of_mul_pos_right (Nat.zero_lt_of_lt (listed.trans_le covered))
  obtain ⟨value, held, room, stored⟩ :=
    copied_of_copyTexel (kept.isTiled tiled) covered listed found ran
  have same : Mirrors pass.resolution columns tile src src atlas mid :=
    kept.mirrors_inner tiled columned (isInner_of_source some found)
  rw [Mirrors, stored, Array.getElem?_setIfInBounds_self_of_lt room, ← held]
  exact same

theorem Keeps.mirrors_copyTexel (kept : Keeps pass atlas mid)
    (tiled : IsTiled pass.resolution columns rows atlas) (listed : tile < pass.tilesCount)
    (found : source texel pass.resolution = .ok (.some src))
    (mirrors : Mirrors pass.resolution columns tile texel src atlas mid)
    (ran : copyTexel pass tile' texel' mid = .ok after) :
    Mirrors pass.resolution columns tile texel src atlas after := by
  have columned : 0 < columns :=
    Nat.pos_of_mul_pos_right (Nat.zero_lt_of_lt (listed.trans_le covered))
  by_cases listed' : pass.tilesCount ≤ tile'
  · rw [copyTexel, if_pos listed'] at ran
    obtain rfl := Except.ok.inj ran
    exact mirrors
  obtain ⟨last, sum, -⟩ := bind_eq_ok.mp found
  obtain ⟨src?, found', -⟩ := source_ends (Word.add_eq_ok.mp sum).2 texel'
  cases src? with
  | none =>
      rw [copyTexel, if_neg listed', found'] at ran
      obtain rfl := Except.ok.inj ran
      exact mirrors
  | some src' =>
      obtain ⟨value, held, room, stored⟩ :=
        copied_of_copyTexel (kept.isTiled tiled) covered (Nat.not_le.mp listed') found' ran
      by_cases same : elementOf pass.resolution columns tile' texel' =
          elementOf pass.resolution columns tile texel
      · obtain ⟨rfl, rfl⟩ := elementOf_inj columned (source_eq_some found').1
          (source_eq_some found).1 same
        exact kept.mirrors_of_copyTexel covered some tiled listed found ran
      · rw [Mirrors, stored, Array.getElem?_setIfInBounds_ne same]
        exact mirrors

theorem Keeps.step (kept : Keeps pass atlas mid)
    (tiled : IsTiled pass.resolution columns rows atlas) (listed : tile < pass.tilesCount)
    (found : source texel pass.resolution = .ok (.some src))
    (ran : after = mid ∨ ∃ texel', copyTexel pass tile' texel' mid = .ok after) :
    Keeps pass atlas after ∧ (Mirrors pass.resolution columns tile texel src atlas mid →
      Mirrors pass.resolution columns tile texel src atlas after) := by
  obtain rfl | ⟨texel', copied⟩ := ran
  · exact ⟨kept, id⟩
  · exact ⟨kept.trans (copyTexel_keeps copied),
      fun mirrors => kept.mirrors_copyTexel covered some tiled listed found mirrors copied⟩

omit covered some

theorem updateRows_eq {thread : Vec2 Nat} (short : pass.resolution + 1 < 4294967296)
    (x : thread.x ≤ pass.resolution + 1) (y : thread.y ≤ 1) :
    updateRows pass tile thread atlas =
      copyTexel pass tile ⟨thread.x, thread.y * (pass.resolution + 1)⟩ atlas := by
  have last : Word.add pass.resolution 1 = .ok (pass.resolution + 1) :=
    Word.add_eq_ok.mpr ⟨rfl, short⟩
  have below : thread.y * (pass.resolution + 1) ≤ 1 * (pass.resolution + 1) :=
    Nat.mul_le_mul_right _ y
  have moved : Word.mul thread.y (pass.resolution + 1) = .ok (thread.y * (pass.resolution + 1)) :=
    Word.mul_eq_ok.mpr ⟨rfl, by omega⟩
  have busy : (decide (pass.resolution + 1 < thread.x) || decide (1 < thread.y)) = false := by
    simpa using ⟨x, y⟩
  rw [updateRows, last, ok_bind, busy, moved]
  rfl

theorem updateColumns_eq {thread : Vec2 Nat} (short : pass.resolution + 1 < 4294967296)
    (x : thread.x ≤ 1) (y : thread.y < pass.resolution) :
    updateColumns pass tile thread atlas =
      copyTexel pass tile ⟨thread.x * (pass.resolution + 1), thread.y + 1⟩ atlas := by
  have last : Word.add pass.resolution 1 = .ok (pass.resolution + 1) :=
    Word.add_eq_ok.mpr ⟨rfl, short⟩
  have below : thread.x * (pass.resolution + 1) ≤ 1 * (pass.resolution + 1) :=
    Nat.mul_le_mul_right _ x
  have moved : Word.mul thread.x (pass.resolution + 1) = .ok (thread.x * (pass.resolution + 1)) :=
    Word.mul_eq_ok.mpr ⟨rfl, by omega⟩
  have next : Word.add thread.y 1 = .ok (thread.y + 1) := Word.add_eq_ok.mpr ⟨rfl, by omega⟩
  have busy : (decide (1 < thread.x) || decide (pass.resolution ≤ thread.y)) = false := by
    simpa using ⟨x, y⟩
  rw [updateColumns, last, ok_bind, busy, moved, next]
  rfl

end Copies

section Threads

variable {β : Type} {pass : BorderPass} {src : Vec2 Nat} {atlas : Texels β}

/-- A thread of one of the passes, at a tile. -/
inductive Call where
  | row (tile : Nat) (thread : Vec2 Nat)
  | column (tile : Nat) (thread : Vec2 Nat)
  deriving DecidableEq

namespace Call

variable {call : Call}

def run (pass : BorderPass) : Call → Texels β → Except Fault (Texels β)
  | row tile thread => updateRows pass tile thread
  | column tile thread => updateColumns pass tile thread

def IsWorker (pass : BorderPass) : Call → Prop
  | row tile thread => tile < pass.tilesCount ∧ thread.x ≤ pass.resolution + 1 ∧ thread.y ≤ 1
  | column tile thread => tile < pass.tilesCount ∧ thread.x ≤ 1 ∧ thread.y < pass.resolution

instance : Decidable (call.IsWorker pass) :=
  match call with
  | row .. => inferInstanceAs (Decidable (_ ∧ _ ∧ _))
  | column .. => inferInstanceAs (Decidable (_ ∧ _ ∧ _))

def tile : Call → Nat
  | row tile _ => tile
  | column tile _ => tile

def texel (resolution : Nat) : Call → Vec2 Nat
  | row _ thread => ⟨thread.x, thread.y * (resolution + 1)⟩
  | column _ thread => ⟨thread.x * (resolution + 1), thread.y + 1⟩

theorem run_of_isWorker (short : pass.resolution + 1 < 4294967296) (works : call.IsWorker pass) :
    call.run pass atlas = copyTexel pass call.tile (call.texel pass.resolution) atlas := by
  cases call with
  | row tile thread => exact updateRows_eq short works.2.1 works.2.2
  | column tile thread => exact updateColumns_eq short works.2.1 works.2.2

theorem exists_isWorker {tile : Nat} {texel : Vec2 Nat} (listed : tile < pass.tilesCount)
    (found : source texel pass.resolution = .ok (some src)) :
    ∃ call : Call, call.IsWorker pass ∧ call.tile = tile ∧ call.texel pass.resolution = texel := by
  obtain ⟨⟨x, y⟩, edge⟩ := source_eq_some found
  by_cases side : 1 ≤ texel.y ∧ texel.y ≤ pass.resolution
  · obtain ⟨column, near, same⟩ : ∃ column ≤ 1, texel.x = column * (pass.resolution + 1) := by
      by_cases left : texel.x = 0
      · exact ⟨0, by omega, by omega⟩
      · exact ⟨1, by omega, by omega⟩
    refine ⟨.column tile ⟨column, texel.y - 1⟩, ⟨listed, near, ?_⟩, rfl, ?_⟩
    · dsimp only
      omega
    · exact congrArg₂ Vec2.mk same.symm (Nat.sub_add_cancel side.1)
  · obtain ⟨row, near, same⟩ : ∃ row ≤ 1, texel.y = row * (pass.resolution + 1) := by
      by_cases top : texel.y = 0
      · exact ⟨0, by omega, by omega⟩
      · exact ⟨1, by omega, by omega⟩
    exact ⟨.row tile ⟨texel.x, row⟩, ⟨listed, x, near⟩, rfl, congrArg₂ Vec2.mk rfl same.symm⟩

end Call

end Threads

theorem mem_threads {width height : Nat} {thread : Vec2 Nat} :
    thread ∈ threads width height ↔ thread.x < width ∧ thread.y < height := by
  obtain ⟨x, y⟩ := thread
  simp [threads, and_comm]

end Border

namespace Frame

open Border

variable {α : Type} [Scalar α] {config : Config α} {resolution columns rows tile : Nat}
  {texel src : Vec2 Nat} {atlas after : Texels (Vec4 α)}

omit [Scalar α] in
/-- All texels of the borders are filled: those of the top and the bottom by the first pass, those
of the sides by the second. -/
theorem mirrors_of_fillBorders (counted : config.probesCount = .ok (columns * rows))
    (some : 0 < resolution) (short : resolution + 2 ≤ groupLength)
    (tiled : IsTiled resolution columns rows atlas)
    (ran : fillBorders config resolution atlas = .ok after) (listed : tile < columns * rows)
    (found : source texel resolution = .ok (.some src)) :
    Mirrors resolution columns tile texel src atlas after := by
  rw [fillBorders, counted, ok_bind] at ran
  obtain ⟨mid, first, second⟩ := bind_eq_ok.mp ran
  simp only [groupLength] at short
  let pass : BorderPass := ⟨resolution, columns * rows⟩
  have wordy : pass.resolution + 1 < 4294967296 := by
    dsimp only [pass]
    omega
  have rowStep : ∀ tile' thread t t', Keeps pass atlas t → updateRows pass tile' thread t = .ok t' →
      Keeps pass atlas t' ∧ (Mirrors resolution columns tile texel src atlas t →
        Mirrors resolution columns tile texel src atlas t') :=
    fun _ _ _ _ kept ran => kept.step le_rfl some tiled listed found (copied_of_updateRows ran)
  have columnStep : ∀ tile' thread t t', Keeps pass atlas t →
      updateColumns pass tile' thread t = .ok t' →
      Keeps pass atlas t' ∧ (Mirrors resolution columns tile texel src atlas t →
        Mirrors resolution columns tile texel src atlas t') :=
    fun _ _ _ _ kept ran => kept.step le_rfl some tiled listed found (copied_of_updateColumns ran)
  have kept : Keeps pass atlas mid := runGroups_keeps (fun _ _ _ _ => updateRows_keeps) first
  have made : ∀ t t', Keeps pass atlas t → copyTexel pass tile texel t = .ok t' →
      Mirrors resolution columns tile texel src atlas t' :=
    fun t t' kept ran => kept.mirrors_of_copyTexel le_rfl some tiled listed found ran
  obtain ⟨call, works, rfl, rfl⟩ : ∃ call : Call, call.IsWorker pass ∧ call.tile = tile ∧
      call.texel resolution = texel := Call.exists_isWorker listed found
  cases call with
  | column tile thread =>
      obtain ⟨-, x, y⟩ := works
      have member : thread ∈ threads groupWidth groupLength :=
        mem_threads.mpr ⟨Nat.lt_succ_of_le x, y.trans_le (by simp only [pass, groupLength]; omega)⟩
      refine runGroups_reaches (Keeps pass atlas) _ columnStep listed listed member ?_ kept second
      intro t t' kept ran
      rw [updateColumns_eq wordy x y] at ran
      exact made t t' kept ran
  | row tile thread =>
      obtain ⟨-, x, y⟩ := works
      have member : thread ∈ threads groupLength groupWidth :=
        mem_threads.mpr ⟨(Nat.lt_succ_of_le x).trans_le short, Nat.lt_succ_of_le y⟩
      let own : Vec2 Nat := (Call.row tile thread).texel resolution
      have mirrors : Mirrors resolution columns tile own src atlas mid := by
        refine runGroups_reaches (Keeps pass atlas) _ rowStep listed listed member ?_ (.refl _ _)
          first
        intro t t' kept ran
        rw [updateRows_eq wordy x y] at ran
        exact made t t' kept ran
      have both : Keeps pass atlas after ∧ Mirrors resolution columns tile own src atlas after :=
        runGroups_invariant (fun t => Keeps pass atlas t ∧
          Mirrors resolution columns tile own src atlas t) (fun tile' thread t t' both ran => by
            obtain ⟨kept, holds⟩ := columnStep tile' thread t t' both.1 ran
            exact ⟨kept, holds both.2⟩) ⟨kept, mirrors⟩ second
      exact both.2

theorem fillBorders_frames (counted : config.probesCount = .ok (columns * rows))
    (some : 0 < resolution) (short : resolution + 2 ≤ groupLength)
    (tiled : IsTiled resolution columns rows atlas)
    (ran : fillBorders config resolution atlas = .ok after) (listed : tile < columns * rows)
    (inside : texel.x ≤ resolution + 1 ∧ texel.y ≤ resolution + 1) :
    ∃ src, IsInner resolution src ∧ Mirrors resolution columns tile texel src atlas after := by
  have wordy : resolution + 1 < 4294967296 := by
    simp only [groupLength] at short
    omega
  rcases inner_or_source wordy inside with inner | ⟨src, found⟩
  · obtain ⟨tiles, kept⟩ := fillBorders_keeps ran
    exact ⟨texel, inner,
      kept.mirrors_inner tiled (Nat.pos_of_mul_pos_right (Nat.zero_lt_of_lt listed)) inner⟩
  · exact ⟨src, isInner_of_source some found,
      mirrors_of_fillBorders counted some short tiled ran listed found⟩

end Frame

end IrradianceField
