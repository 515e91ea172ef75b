import IrradianceField.Frame
import IrradianceField.Proofs.Updating

/-!
Borders: the border passes store to borders only, so that the texels that the updates have stored
are still there when the next frame blends with them.
-/

namespace IrradianceField

def Border.IsInside (resolution : Nat) (pos : Vec2 Nat) : Prop :=
  (1 ≤ pos.x % (resolution + 2) ∧ pos.x % (resolution + 2) ≤ resolution) ∧
    1 ≤ pos.y % (resolution + 2) ∧ pos.y % (resolution + 2) ≤ resolution

theorem Grid.isInside_texelAt (g : Grid) (cascade slot : Nat) {resolution : Nat} {t : Vec2 Nat}
    (ht : t.x < resolution ∧ t.y < resolution) :
    Border.IsInside resolution (g.texelAt cascade slot resolution t) := by
  have own : ∀ tile offset, offset < resolution →
      (tile * (resolution + 2) + (1 + offset)) % (resolution + 2) = 1 + offset :=
    fun tile offset short => Nat.mul_add_mod_of_lt (by omega)
  simp only [Border.IsInside, texelAt, own _ _ ht.1, own _ _ ht.2]
  omega

namespace Border

variable {β : Type} {pass : BorderPass} {tile : Nat} {texel : Vec2 Nat} {atlas after : Texels β}

theorem source_eq_some {resolution : Nat} {src : Vec2 Nat}
    (found : source texel resolution = .ok (some src)) :
    (texel.x ≤ resolution + 1 ∧ texel.y ≤ resolution + 1) ∧
      (texel.x = 0 ∨ texel.x = resolution + 1 ∨ texel.y = 0 ∨ texel.y = resolution + 1) := by
  obtain ⟨last, sum, found⟩ := bind_eq_ok.mp found
  obtain ⟨rfl, -⟩ := Word.add_eq_ok.mp sum
  obtain ⟨x, y⟩ := texel
  dsimp only at found ⊢
  repeat' split at found
  all_goals first
    | omega
    | exact absurd found (by simp)

structure Keeps (pass : BorderPass) (atlas after : Texels β) : Prop where
  size : after.size = atlas.size
  length : after.data.size = atlas.data.size
  inside : ∀ pos : Vec2 Nat, pos.x < atlas.size.x → IsInside pass.resolution pos →
    after.data[pos.y * atlas.size.x + pos.x]? = atlas.data[pos.y * atlas.size.x + pos.x]?

theorem Keeps.refl (pass : BorderPass) (atlas : Texels β) : Keeps pass atlas atlas :=
  ⟨rfl, rfl, fun _ _ _ => rfl⟩

theorem Keeps.trans {next : Texels β} (first : Keeps pass atlas after)
    (second : Keeps pass after next) : Keeps pass atlas next := by
  refine ⟨second.size.trans first.size, second.length.trans first.length, fun pos left inside => ?_⟩
  have later := second.inside pos (first.size ▸ left) inside
  rw [first.size] at later
  exact later.trans (first.inside pos left inside)

/-- A texel of a tile's border becomes a copy of another texel of the tile. -/
structure Copies (pass : BorderPass) (texel : Vec2 Nat) (atlas after : Texels β)
    (column row : Nat) (src : Vec2 Nat) (value : β) : Prop where
  found : source texel pass.resolution = .ok (some src)
  fits : (column + 1) * (pass.resolution + 2) ≤ atlas.size.x
  read : atlas.read ⟨column * (pass.resolution + 2) + src.x,
    row * (pass.resolution + 2) + src.y⟩ = .ok value
  written : atlas.write ⟨column * (pass.resolution + 2) + texel.x,
    row * (pass.resolution + 2) + texel.y⟩ value = .ok after

theorem copies_of_copyTexel (ran : copyTexel pass tile texel atlas = .ok after) :
    after = atlas ∨ ∃ column row src value, Copies pass texel atlas after column row src value := by
  unfold copyTexel at ran
  split at ran
  · exact .inl (Except.ok.inj ran).symm
  · obtain ⟨src?, found, ran⟩ := bind_eq_ok.mp ran
    cases src? with
    | none => exact .inl (Except.ok.inj ran).symm
    | some src =>
        simp only [bind_eq_ok, Word.add_eq_ok, Word.div_eq_ok, Word.rem_eq_ok, Word.mul_eq_ok,
          Vec2.mapM_eq_ok, Vec2.zipWithM_eq_ok] at ran
        obtain ⟨_, ⟨rfl, -⟩, perRow, ⟨rows, -⟩, _, ⟨rfl, some⟩, _, ⟨rfl, -⟩, ⟨_, _⟩,
          ⟨⟨rfl, -⟩, rfl, -⟩, ⟨_, _⟩, ⟨⟨rfl, -⟩, rfl, -⟩, value, read, ⟨_, _⟩,
          ⟨⟨rfl, -⟩, rfl, -⟩, written⟩ := ran
        have column : tile % perRow + 1 ≤ perRow := Nat.mod_lt _ some
        refine .inr ⟨_, _, src, value, found, ?_, read, written⟩
        calc (tile % perRow + 1) * (pass.resolution + 2)
            ≤ perRow * (pass.resolution + 2) := Nat.mul_le_mul_right _ column
          _ ≤ atlas.size.x := by
              rw [rows]
              exact Nat.div_mul_le_self ..

theorem copyTexel_keeps (ran : copyTexel pass tile texel atlas = .ok after) :
    Keeps pass atlas after := by
  obtain rfl | ⟨column, row, src, value, copied⟩ := copies_of_copyTexel ran
  · exact .refl pass after
  · obtain ⟨⟨tx, ty⟩, edge⟩ := source_eq_some copied.found
    have fits := copied.fits
    rw [Nat.succ_mul] at fits
    have written := copied.written
    simp only [Texels.write, bind_eq_ok, store_eq_ok, pure_eq_ok, Except.ok.injEq] at written
    obtain ⟨i, indexed, _, ⟨room, rfl⟩, rfl⟩ := written
    refine ⟨rfl, by simp, fun other left inside => ?_⟩
    obtain rfl := Texels.index_eq_ok indexed
    rw [Array.getElem?_setIfInBounds_ne]
    intro same
    dsimp only at same
    obtain ⟨sameY, sameX⟩ := mul_add_unique (by omega) left same
    have offX : other.x % (pass.resolution + 2) = texel.x := by
      rw [← sameX]
      exact Nat.mul_add_mod_of_lt (by omega)
    have offY : other.y % (pass.resolution + 2) = texel.y := by
      rw [← sameY]
      exact Nat.mul_add_mod_of_lt (by omega)
    obtain ⟨insideX, insideY⟩ := inside
    rw [offX] at insideX
    rw [offY] at insideY
    omega

structure IsTiled (resolution columns rows : Nat) (atlas : Texels β) : Prop where
  size : atlas.size = ⟨columns * (resolution + 2), rows * (resolution + 2)⟩
  texels : atlas.data.size = atlas.size.x * atlas.size.y
  words : atlas.size.x * atlas.size.y ≤ 4294967296

theorem Keeps.isTiled {columns rows : Nat} (kept : Keeps pass atlas after)
    (tiled : IsTiled pass.resolution columns rows atlas) :
    IsTiled pass.resolution columns rows after :=
  ⟨kept.size.trans tiled.size, by rw [kept.length, kept.size, tiled.texels],
    by rw [kept.size]; exact tiled.words⟩

theorem source_ends {resolution : Nat} (short : resolution + 1 < 4294967296) (texel : Vec2 Nat) :
    ∃ src?, source texel resolution = .ok src? ∧ ∀ src, src? = some src →
      src.x ≤ resolution + 1 ∧ src.y ≤ resolution + 1 := by
  have last : Word.add resolution 1 = .ok (resolution + 1) := Word.add_eq_ok.mpr ⟨rfl, short⟩
  simp only [source, last, ok_bind]
  repeat' split
  all_goals
    refine ⟨_, rfl, fun src found => ?_⟩
    cases found
  all_goals
    dsimp only
    omega

theorem source_inside {resolution : Nat} {src : Vec2 Nat}
    (found : source texel resolution = .ok (some src)) :
    src.x ≤ resolution + 1 ∧ src.y ≤ resolution + 1 := by
  obtain ⟨last, sum, -⟩ := bind_eq_ok.mp found
  obtain ⟨src?, again, bounds⟩ := source_ends (Word.add_eq_ok.mp sum).2 texel
  exact bounds src (Except.ok.inj (again.symm.trans found))

theorem IsTiled.index_of_tile {resolution columns rows : Nat}
    (tiled : IsTiled resolution columns rows atlas) {column row : Nat} {t : Vec2 Nat}
    (hc : column < columns) (hr : row < rows) (ht : t.x ≤ resolution + 1 ∧ t.y ≤ resolution + 1) :
    ∃ i, Texels.index atlas.size
      ⟨column * (resolution + 2) + t.x, row * (resolution + 2) + t.y⟩ = .ok i ∧
        i < atlas.data.size := by
  have wide := Nat.mul_le_mul_right (resolution + 2) hc
  have high := Nat.mul_le_mul_right (resolution + 2) hr
  rw [Nat.succ_mul] at wide high
  have left : column * (resolution + 2) + t.x < atlas.size.x := by
    rw [tiled.size]
    dsimp only
    omega
  have above : row * (resolution + 2) + t.y < atlas.size.y := by
    rw [tiled.size]
    dsimp only
    omega
  obtain ⟨indexed, inside⟩ := @Texels.index_of_lt atlas.size ⟨_, _⟩ left above tiled.words
  exact ⟨_, indexed, tiled.texels ▸ inside⟩

theorem copyTexel_eq {columns rows : Nat} {src : Vec2 Nat}
    (size : atlas.size = ⟨columns * (pass.resolution + 2), rows * (pass.resolution + 2)⟩)
    (wordX : columns * (pass.resolution + 2) < 4294967296)
    (wordY : rows * (pass.resolution + 2) < 4294967296) (covered : pass.tilesCount ≤ columns * rows)
    (listed : tile < pass.tilesCount) (found : source texel pass.resolution = .ok (some src)) :
    copyTexel pass tile texel atlas = (do
      let value ← atlas.read ⟨tile % columns * (pass.resolution + 2) + src.x,
        tile / columns * (pass.resolution + 2) + src.y⟩
      atlas.write ⟨tile % columns * (pass.resolution + 2) + texel.x,
        tile / columns * (pass.resolution + 2) + texel.y⟩ value) := by
  have within : tile < columns * rows := listed.trans_le covered
  have positive : 0 < columns := Nat.pos_of_mul_pos_right (Nat.zero_lt_of_lt within)
  have column : tile % columns < columns := Nat.mod_lt _ positive
  have row : tile / columns < rows := (Nat.div_lt_iff_lt_mul positive).mpr (by rwa [Nat.mul_comm])
  have columnEnd := Nat.mul_le_mul_right (pass.resolution + 2) column
  have rowEnd := Nat.mul_le_mul_right (pass.resolution + 2) row
  rw [Nat.succ_mul] at columnEnd rowEnd
  have tileSize : Word.add pass.resolution 2 = .ok (pass.resolution + 2) :=
    Word.add_eq_ok.mpr ⟨rfl, by omega⟩
  have perRow : Word.div atlas.size.x (pass.resolution + 2) = .ok columns := by
    apply Word.div_eq_ok.mpr
    rw [size]
    exact ⟨(Nat.mul_div_cancel _ (by omega)).symm, by omega⟩
  have inRow : Word.rem tile columns = .ok (tile % columns) := Word.rem_eq_ok.mpr ⟨rfl, positive⟩
  have above : Word.div tile columns = .ok (tile / columns) := Word.div_eq_ok.mpr ⟨rfl, positive⟩
  have origin : (⟨tile % columns, tile / columns⟩ : Vec2 Nat).mapM
      (Word.mul · (pass.resolution + 2)) = .ok ⟨tile % columns * (pass.resolution + 2),
        tile / columns * (pass.resolution + 2)⟩ :=
    Vec2.mapM_eq_ok.mpr ⟨Word.mul_eq_ok.mpr ⟨rfl, by dsimp only; omega⟩,
      Word.mul_eq_ok.mpr ⟨rfl, by dsimp only; omega⟩⟩
  have moved : ∀ t : Vec2 Nat, t.x ≤ pass.resolution + 1 ∧ t.y ≤ pass.resolution + 1 →
      (⟨tile % columns * (pass.resolution + 2), tile / columns * (pass.resolution + 2)⟩ :
        Vec2 Nat).zipWithM Word.add t = .ok ⟨tile % columns * (pass.resolution + 2) + t.x,
          tile / columns * (pass.resolution + 2) + t.y⟩ := fun t ht =>
    Vec2.zipWithM_eq_ok.mpr ⟨Word.add_eq_ok.mpr ⟨rfl, by dsimp only; omega⟩,
      Word.add_eq_ok.mpr ⟨rfl, by dsimp only; omega⟩⟩
  simp only [copyTexel, if_neg (Nat.not_le.mpr listed), found, tileSize, perRow, inRow, above,
    origin, moved src (source_inside found), moved texel (source_eq_some found).1, ok_bind]

theorem IsTiled.sides_lt {resolution columns rows : Nat}
    (tiled : IsTiled resolution columns rows atlas) (some : 0 < columns * rows) :
    columns * (resolution + 2) < 4294967296 ∧ rows * (resolution + 2) < 4294967296 := by
  have words := tiled.words
  rw [tiled.size] at words
  dsimp only at words
  have wide : 2 ≤ columns * (resolution + 2) :=
    (by omega : 2 ≤ resolution + 2).trans (Nat.le_mul_of_pos_left _ (Nat.pos_of_mul_pos_right some))
  have high : 2 ≤ rows * (resolution + 2) :=
    (by omega : 2 ≤ resolution + 2).trans (Nat.le_mul_of_pos_left _ (Nat.pos_of_mul_pos_left some))
  have twice := Nat.mul_le_mul_left (columns * (resolution + 2)) high
  have twice' := Nat.mul_le_mul_right (rows * (resolution + 2)) wide
  omega

theorem copyTexel_ends {columns rows : Nat} (tiled : IsTiled pass.resolution columns rows atlas)
    (covered : pass.tilesCount ≤ columns * rows) (short : pass.resolution + 2 < 4294967296)
    (inside : texel.x ≤ pass.resolution + 1 ∧ texel.y ≤ pass.resolution + 1) :
    ∃ after, copyTexel pass tile texel atlas = .ok after := by
  by_cases listed : pass.tilesCount ≤ tile
  · exact ⟨atlas, if_pos listed⟩
  obtain ⟨src?, found, bounds⟩ := source_ends (by omega : pass.resolution + 1 < 4294967296) texel
  cases src? with
  | none =>
      rw [copyTexel, if_neg listed, found]
      exact ⟨atlas, rfl⟩
  | some src =>
      have within : tile < columns * rows := by omega
      have positive : 0 < columns := Nat.pos_of_mul_pos_right (Nat.zero_lt_of_lt within)
      have column : tile % columns < columns := Nat.mod_lt _ positive
      have row : tile / columns < rows := (Nat.div_lt_iff_lt_mul positive).mpr (by rwa [Nat.mul_comm])
      obtain ⟨wordX, wordY⟩ := tiled.sides_lt (Nat.zero_lt_of_lt within)
      obtain ⟨i, read, room⟩ := tiled.index_of_tile column row (bounds src rfl)
      obtain ⟨j, written, room'⟩ := tiled.index_of_tile column row inside
      obtain ⟨value, held⟩ := fetch_of_lt room
      rw [copyTexel_eq tiled.size wordX wordY covered (Nat.not_le.mp listed) found]
      simp only [Texels.read, Texels.write, read, written, held, store_of_lt room', ok_bind,
        pure_eq_ok]
      exact ⟨_, rfl⟩

theorem updateRows_ends {columns rows : Nat} (tiled : IsTiled pass.resolution columns rows atlas)
    (covered : pass.tilesCount ≤ columns * rows) (short : pass.resolution + 2 < 4294967296)
    (thread : Vec2 Nat) : ∃ after, updateRows pass tile thread atlas = .ok after := by
  have last : Word.add pass.resolution 1 = .ok (pass.resolution + 1) :=
    Word.add_eq_ok.mpr ⟨rfl, by omega⟩
  simp only [updateRows, last, ok_bind]
  split
  · exact ⟨atlas, rfl⟩
  · rename_i busy
    simp only [Bool.or_eq_true, decide_eq_true_eq, not_or, Nat.not_lt] at busy
    have y : thread.y * (pass.resolution + 1) ≤ pass.resolution + 1 := by nlinarith
    have moved : Word.mul thread.y (pass.resolution + 1) =
        .ok (thread.y * (pass.resolution + 1)) := Word.mul_eq_ok.mpr ⟨rfl, by omega⟩
    rw [moved, ok_bind]
    exact copyTexel_ends tiled covered short ⟨busy.1, y⟩

theorem updateColumns_ends {columns rows : Nat} (tiled : IsTiled pass.resolution columns rows atlas)
    (covered : pass.tilesCount ≤ columns * rows) (short : pass.resolution + 2 < 4294967296)
    (thread : Vec2 Nat) : ∃ after, updateColumns pass tile thread atlas = .ok after := by
  have last : Word.add pass.resolution 1 = .ok (pass.resolution + 1) :=
    Word.add_eq_ok.mpr ⟨rfl, by omega⟩
  simp only [updateColumns, last, ok_bind]
  split
  · exact ⟨atlas, rfl⟩
  · rename_i busy
    simp only [Bool.or_eq_true, decide_eq_true_eq, not_or, Nat.not_lt, Nat.not_le] at busy
    have x : thread.x * (pass.resolution + 1) ≤ pass.resolution + 1 := by nlinarith
    have moved : Word.mul thread.x (pass.resolution + 1) =
        .ok (thread.x * (pass.resolution + 1)) := Word.mul_eq_ok.mpr ⟨rfl, by omega⟩
    have next : Word.add thread.y 1 = .ok (thread.y + 1) := Word.add_eq_ok.mpr ⟨rfl, by omega⟩
    rw [moved, next, ok_bind, ok_bind]
    exact copyTexel_ends tiled covered short ⟨x, by dsimp only; omega⟩

theorem copied_of_updateRows {thread : Vec2 Nat}
    (ran : updateRows pass tile thread atlas = .ok after) :
    after = atlas ∨ ∃ texel, copyTexel pass tile texel atlas = .ok after := by
  obtain ⟨last, -, ran⟩ := bind_eq_ok.mp ran
  split at ran
  · exact .inl (Except.ok.inj ran).symm
  · obtain ⟨y, -, ran⟩ := bind_eq_ok.mp ran
    exact .inr ⟨_, ran⟩

theorem copied_of_updateColumns {thread : Vec2 Nat}
    (ran : updateColumns pass tile thread atlas = .ok after) :
    after = atlas ∨ ∃ texel, copyTexel pass tile texel atlas = .ok after := by
  obtain ⟨last, -, ran⟩ := bind_eq_ok.mp ran
  split at ran
  · exact .inl (Except.ok.inj ran).symm
  · obtain ⟨x, -, ran⟩ := bind_eq_ok.mp ran
    obtain ⟨y, -, ran⟩ := bind_eq_ok.mp ran
    exact .inr ⟨_, ran⟩

theorem updateRows_keeps {thread : Vec2 Nat} (ran : updateRows pass tile thread atlas = .ok after) :
    Keeps pass atlas after := by
  obtain rfl | ⟨texel, copied⟩ := copied_of_updateRows ran
  · exact .refl pass after
  · exact copyTexel_keeps copied

theorem updateColumns_keeps {thread : Vec2 Nat}
    (ran : updateColumns pass tile thread atlas = .ok after) : Keeps pass atlas after := by
  obtain rfl | ⟨texel, copied⟩ := copied_of_updateColumns ran
  · exact .refl pass after
  · exact copyTexel_keeps copied

theorem runGroups_reaches
    {kernel : BorderPass → Nat → Vec2 Nat → Texels β → Except Fault (Texels β)}
    {group : List (Vec2 Nat)} {groups : Nat} {thread : Vec2 Nat} (Inv P : Texels β → Prop)
    (each : ∀ tile thread t t', Inv t → kernel pass tile thread t = .ok t' → Inv t' ∧ (P t → P t'))
    (listed : tile < pass.tilesCount) (covered : tile < groups) (member : thread ∈ group)
    (made : ∀ t t', Inv t → kernel pass tile thread t = .ok t' → P t') (start : Inv atlas)
    (ran : runGroups kernel pass group groups atlas = .ok after) : P after := by
  refine foldlM_reaches Inv P ?_ (List.mem_range.mpr covered) ?_ start ran
  · intro tile _ t t' kept ran
    split at ran
    · obtain rfl := Except.ok.inj ran
      exact ⟨kept, id⟩
    · constructor
      · exact foldlM_keeps Inv (fun thread _ t t' kept ran => (each tile thread t t' kept ran).1) kept
          ran
      · intro holds
        have both : Inv t' ∧ P t' := foldlM_keeps (fun t => Inv t ∧ P t)
          (fun thread _ t t' both ran => by
            obtain ⟨kept, holds⟩ := each tile thread t t' both.1 ran
            exact ⟨kept, holds both.2⟩) ⟨kept, holds⟩ ran
        exact both.2
  · intro t t' kept ran
    rw [if_neg (Nat.not_le.mpr listed)] at ran
    exact foldlM_reaches Inv P (fun thread _ t t' kept ran => each tile thread t t' kept ran) member
      made kept ran

theorem runGroups_invariant
    {kernel : BorderPass → Nat → Vec2 Nat → Texels β → Except Fault (Texels β)}
    {group : List (Vec2 Nat)} {groups : Nat} (Inv : Texels β → Prop)
    (each : ∀ tile thread t t', Inv t → kernel pass tile thread t = .ok t' → Inv t')
    (start : Inv atlas) (ran : runGroups kernel pass group groups atlas = .ok after) :
    Inv after := by
  refine foldlM_keeps Inv ?_ start ran
  intro tile _ t t' kept ran
  split at ran
  · obtain rfl := Except.ok.inj ran
    exact kept
  · exact foldlM_keeps Inv (fun thread _ t t' kept ran => each tile thread t t' kept ran) kept ran

theorem runGroups_keeps
    {kernel : BorderPass → Nat → Vec2 Nat → Texels β → Except Fault (Texels β)}
    {group : List (Vec2 Nat)} {groups : Nat}
    (each : ∀ tile thread t t', kernel pass tile thread t = .ok t' → Keeps pass t t')
    (ran : runGroups kernel pass group groups atlas = .ok after) : Keeps pass atlas after :=
  runGroups_invariant (Keeps pass atlas)
    (fun tile thread t t' kept ran => kept.trans (each tile thread t t' ran)) (.refl pass atlas) ran

theorem runGroups_ends
    {kernel : BorderPass → Nat → Vec2 Nat → Texels β → Except Fault (Texels β)}
    {group : List (Vec2 Nat)} {groups columns rows : Nat}
    (keeps : ∀ tile thread t t', kernel pass tile thread t = .ok t' → Keeps pass t t')
    (ends : ∀ tile thread t, IsTiled pass.resolution columns rows t →
      ∃ t', kernel pass tile thread t = .ok t')
    (tiled : IsTiled pass.resolution columns rows atlas) :
    ∃ after, runGroups kernel pass group groups atlas = .ok after := by
  have step : ∀ tile thread t, IsTiled pass.resolution columns rows t →
      ∃ t', kernel pass tile thread t = .ok t' ∧ IsTiled pass.resolution columns rows t' := by
    intro tile thread t tiled
    obtain ⟨t', ran⟩ := ends tile thread t tiled
    exact ⟨t', ran, (keeps tile thread t t' ran).isTiled tiled⟩
  obtain ⟨after, ran, -⟩ := foldlM_ends (fun _ t => IsTiled pass.resolution columns rows t)
    (f := fun atlas tile => if pass.tilesCount ≤ tile then .ok atlas
      else group.foldlM (fun atlas thread => kernel pass tile thread atlas) atlas)
    (l := List.range groups) (s := atlas)
    (fun _ tile _ t _ tiled => by
      split
      · exact ⟨t, rfl, tiled⟩
      · exact foldlM_ends (fun _ t => IsTiled pass.resolution columns rows t)
          (fun _ thread _ t _ tiled => step tile thread t tiled) tiled)
    tiled
  exact ⟨after, ran⟩

end Border

theorem Frame.fillBorders_keeps {α : Type} [Scalar α] {config : Config α} {resolution : Nat}
    {atlas after : Texels (Vec4 α)} (ran : fillBorders config resolution atlas = .ok after) :
    ∃ tiles, Border.Keeps ⟨resolution, tiles⟩ atlas after := by
  obtain ⟨tiles, -, ran⟩ := bind_eq_ok.mp ran
  obtain ⟨rows, first, second⟩ := bind_eq_ok.mp ran
  exact ⟨tiles, (Border.runGroups_keeps (fun _ _ _ _ => Border.updateRows_keeps) first).trans
    (Border.runGroups_keeps (fun _ _ _ _ => Border.updateColumns_keeps) second)⟩

theorem Frame.fillBorders_ends {α : Type} [Scalar α] {config : Config α} {resolution : Nat}
    {columns rows : Nat} {atlas : Texels (Vec4 α)}
    (counted : config.probesCount = .ok (columns * rows)) (short : resolution + 2 < 4294967296)
    (tiled : Border.IsTiled resolution columns rows atlas) :
    ∃ after, fillBorders config resolution atlas = .ok after := by
  obtain ⟨mid, first⟩ : ∃ mid, Border.runRows ⟨resolution, columns * rows⟩ (columns * rows) atlas =
      .ok mid := Border.runGroups_ends (fun _ _ _ _ => Border.updateRows_keeps)
    (fun _ thread _ tiled => Border.updateRows_ends tiled le_rfl short thread) tiled
  have kept := Border.runGroups_keeps (fun _ _ _ _ => Border.updateRows_keeps) first
  obtain ⟨after, second⟩ : ∃ after,
      Border.runColumns ⟨resolution, columns * rows⟩ (columns * rows) mid = .ok after :=
    Border.runGroups_ends (fun _ _ _ _ => Border.updateColumns_keeps)
      (fun _ thread _ tiled => Border.updateColumns_ends tiled le_rfl short thread)
      (kept.isTiled tiled)
  refine ⟨after, ?_⟩
  rw [fillBorders, counted, ok_bind]
  exact bind_eq_ok.mpr ⟨mid, first, second⟩

end IrradianceField
