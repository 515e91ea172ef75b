import IrradianceField.Proofs.Tracing

/-!
Updating as edits of the atlases: each texel of a probe's tile is changed once, by what the probe's
own rays see.
-/

namespace IrradianceField

/-- The atlases that are updated, in the same way but for the size of tiles and what is stored. -/
inductive Layer where
  | irradiance
  | distance
  deriving DecidableEq

namespace Layer

open Updating

variable {α : Type} [Scalar α]

def resolution : Layer → Nat
  | irradiance => irradianceResolution
  | distance => distanceResolution

theorem resolution_bounds (layer : Layer) : 0 < layer.resolution ∧ layer.resolution ≤ 14 := by
  cases layer with
  | irradiance => decide
  | distance => decide

def update (layer : Layer) (volume : Volume α) (pass : BatchPass) (probes : Array PackedProbe)
    (active : ActiveList) (trace : Array (Vec4 α)) (batchProbe : Nat) (texel : Vec2 Nat)
    (atlas : Texels (Vec4 α)) : Except Fault (Texels (Vec4 α)) :=
  match layer with
  | irradiance => updateIrradiance volume pass probes active trace batchProbe texel atlas
  | distance => updateDistance volume pass probes active trace batchProbe texel atlas

def run (layer : Layer) (volume : Volume α) (pass : BatchPass) (probes : Array PackedProbe)
    (active : ActiveList) (trace : Array (Vec4 α)) (probesCount : Nat) (atlas : Texels (Vec4 α)) :
    Except Fault (Texels (Vec4 α)) :=
  match layer with
  | irradiance => runIrradiance volume pass probes active trace probesCount atlas
  | distance => runDistance volume pass probes active trace probesCount atlas

theorem run_eq (layer : Layer) (volume : Volume α) (pass : BatchPass)
    (probes : Array PackedProbe) (active : ActiveList) (trace : Array (Vec4 α)) (probesCount : Nat)
    (atlas : Texels (Vec4 α)) :
    layer.run volume pass probes active trace probesCount atlas =
      (List.range probesCount).foldlM (fun atlas batchProbe =>
        (tileTexels layer.resolution).foldlM (fun atlas texel =>
          layer.update volume pass probes active trace batchProbe texel atlas) atlas) atlas := by
  cases layer with
  | irradiance => rfl
  | distance => rfl

def gather (layer : Layer) (volume : Volume α) (cascade : Nat) (trace : Array (Vec4 α))
    (batchProbe : Nat) (texel : Vec2 Nat) : Except Fault (Vec4 α) :=
  let dir := Octahedral.texelDirection texel layer.resolution
  match layer with
  | irradiance => do
    let gathered ← gatherIrradiance volume trace batchProbe dir
    return (gathered.xyz.powPositive (1.0 / volume.gamma)).extend 1.0
  | distance => do
    let raw ← gatherDistance volume trace batchProbe dir (← distanceLimit volume cascade)
    return (raw.extend 0.0).extend 0.0

/-- What is stored for something gathered, by what the texel held and the weight of that. -/
def blend (layer : Layer) (volume : Volume α) (cascade : Nat) (weight : α)
    (gathered old : Vec4 α) : Except Fault (Vec4 α) :=
  match layer with
  | irradiance => return (blendIrradiance gathered.xyz old.xyz weight).extend 1.0
  | distance => do
    let out ← blendDistance gathered.xy old.xy weight (← distanceLimit volume cascade)
    return (out.extend 0.0).extend 0.0

end Layer

theorem Texels.index_eq_ok {size pos : Vec2 Nat} {i : Nat} (ran : index size pos = .ok i) :
    i = pos.y * size.x + pos.x := by
  simp only [index, bind_eq_ok, Word.mul_eq_ok, Word.add_eq_ok] at ran
  obtain ⟨_, ⟨rfl, -⟩, rfl, -⟩ := ran
  rfl

theorem Layer.blend_weightless {α : Type} [Scalar α] (law : Scalar.le (0.0 : α) 0.0 = true)
    (layer : Layer) (volume : Volume α) (cascade : Nat) (gathered old old' : Vec4 α) :
    layer.blend volume cascade 0.0 gathered old = layer.blend volume cascade 0.0 gathered old' := by
  cases layer with
  | irradiance => simp only [Layer.blend, Updating.blendIrradiance, law, if_true]
  | distance => simp only [Layer.blend, Updating.blendDistance, law, if_true]

theorem Texels.index_of_lt {size pos : Vec2 Nat} (left : pos.x < size.x) (above : pos.y < size.y)
    (words : size.x * size.y ≤ 4294967296) :
    index size pos = .ok (pos.y * size.x + pos.x) ∧ pos.y * size.x + pos.x < size.x * size.y := by
  have rows := Nat.mul_le_mul_right size.x above
  rw [Nat.succ_mul, Nat.mul_comm size.y] at rows
  refine ⟨?_, by omega⟩
  simp only [index, bind_eq_ok, Word.mul_eq_ok, Word.add_eq_ok]
  exact ⟨_, ⟨rfl, by omega⟩, rfl, by omega⟩

namespace Updating

variable {α : Type} [Scalar α]

def historyOf (volume : Volume α) (probes : Array PackedProbe) (cascade : Nat) (resetBlend : Bool)
    (index : Nat) : Except Fault α := do
  let probe : Probe α ← volume.readProbe probes cascade index
  return if resetBlend || probe.state.isActivated then 0.0 else volume.historyWeight

def position (volume : Volume α) (cascade resolution index : Nat) (texel : Vec2 Nat) :
    Except Fault (Vec2 Nat) := do
  let slot ← volume.physicalIndex cascade index
  Target.texel ⟨cascade, slot, (0.0 : α)⟩ volume.grid texel resolution

def place (volume : Volume α) (cascade resolution index : Nat) (texel : Vec2 Nat)
    (size : Vec2 Nat) : Except Fault Nat := do
  Texels.index size (← position volume cascade resolution index texel)

/-- Blends what the rays at a place of the batch have seen into a texel of a probe's tile. -/
def revise (layer : Layer) (volume : Volume α) (pass : BatchPass) (probes : Array PackedProbe)
    (trace : Array (Vec4 α)) (batchProbe index : Nat) (texel : Vec2 Nat) (atlas : Texels (Vec4 α)) :
    Except Fault (Texels (Vec4 α)) := do
  let weight ← historyOf volume probes pass.cascade pass.resetBlend index
  let slot ← volume.physicalIndex pass.cascade index
  let gathered ← layer.gather volume pass.cascade trace batchProbe texel
  let pos ← Target.texel ⟨pass.cascade, slot, weight⟩ volume.grid texel layer.resolution
  let old ← atlas.read pos
  atlas.write pos (← layer.blend volume pass.cascade weight gathered old)

variable {volume : Volume α} {pass : BatchPass} {probes : Array PackedProbe} {active : ActiveList}
  {trace : Array (Vec4 α)} {batchProbe index : Nat} {texel : Vec2 Nat} {layer : Layer}
  {atlas after : Texels (Vec4 α)}

theorem target_eq (words : pass.probesOffset + batchProbe < 4294967296)
    (inBatch : batchProbe < Batch.probesLimit)
    (listed : pass.probesOffset + batchProbe < active.count) :
    target? volume pass probes active batchProbe = (do
      let index ← fetch active.entries (pass.probesOffset + batchProbe)
      let weight ← historyOf volume probes pass.cascade pass.resetBlend index
      return some ⟨pass.cascade, ← volume.physicalIndex pass.cascade index, weight⟩) := by
  have sum : Word.add pass.probesOffset batchProbe = .ok (pass.probesOffset + batchProbe) :=
    Word.add_eq_ok.mpr ⟨rfl, words⟩
  have early : (decide (Batch.probesLimit ≤ batchProbe) ||
      decide (active.count ≤ pass.probesOffset + batchProbe)) = false := by
    simpa using ⟨inBatch, listed⟩
  simp only [target?, sum, early, ok_bind, historyOf, bind_assoc, pure_eq_ok,
    Bool.false_eq_true, if_false]

theorem target_eq_some {target : Target α}
    (found : target? volume pass probes active batchProbe = .ok (some target)) :
    ∃ index slot, ∃ probe : Probe α, pass.probesOffset + batchProbe < active.count ∧
      fetch active.entries (pass.probesOffset + batchProbe) = .ok index ∧
      volume.readProbe probes pass.cascade index = .ok probe ∧
      volume.physicalIndex pass.cascade index = .ok slot ∧
      target = ⟨pass.cascade, slot,
        if pass.resetBlend || probe.state.isActivated then 0.0 else volume.historyWeight⟩ := by
  obtain ⟨_, sum, found⟩ := bind_eq_ok.mp found
  obtain ⟨rfl, -⟩ := Word.add_eq_ok.mp sum
  split at found
  · exact absurd found (by simp)
  · rename_i listed
    obtain ⟨index, held, found⟩ := bind_eq_ok.mp found
    obtain ⟨probe, read, found⟩ := bind_eq_ok.mp found
    dsimp only at found
    obtain ⟨slot, physical, found⟩ := bind_eq_ok.mp found
    have listed : pass.probesOffset + batchProbe < active.count := by
      simp only [Bool.or_eq_true, decide_eq_true_eq, not_or, Nat.not_le] at listed
      exact listed.2
    exact ⟨index, slot, probe, listed, held, read, physical,
      (Option.some.inj (Except.ok.inj found)).symm⟩

theorem update_eq (words : pass.probesOffset + batchProbe < 4294967296)
    (inBatch : batchProbe < Batch.probesLimit)
    (listed : pass.probesOffset + batchProbe < active.count)
    (inside : texel.x < layer.resolution ∧ texel.y < layer.resolution) :
    layer.update volume pass probes active trace batchProbe texel atlas = (do
      let index ← fetch active.entries (pass.probesOffset + batchProbe)
      revise layer volume pass probes trace batchProbe index texel atlas) := by
  have target : target? volume pass probes active batchProbe = (do
      let index ← fetch active.entries (pass.probesOffset + batchProbe)
      let weight ← historyOf volume probes pass.cascade pass.resetBlend index
      return some ⟨pass.cascade, ← volume.physicalIndex pass.cascade index, weight⟩) :=
    target_eq words inBatch listed
  cases layer with
  | irradiance =>
      have early : (decide (irradianceResolution ≤ texel.x) ||
          decide (irradianceResolution ≤ texel.y)) = false := by simpa [Layer.resolution] using inside
      simp only [Layer.update, updateIrradiance, target, early, bind_assoc, ok_bind, pure_eq_ok,
        Bool.false_eq_true, if_false, revise, Layer.gather, Layer.blend, Layer.resolution]
      rfl
  | distance =>
      have early : (decide (distanceResolution ≤ texel.x) ||
          decide (distanceResolution ≤ texel.y)) = false := by simpa [Layer.resolution] using inside
      simp only [Layer.update, updateDistance, target, early, bind_assoc, ok_bind, pure_eq_ok,
        Bool.false_eq_true, if_false, revise, Layer.gather, Layer.blend, Layer.resolution]
      -- the limit is looked up once there, and here again to blend
      rcases ok_or_error (distanceLimit volume pass.cascade) with ⟨limit, limited⟩ | ⟨e, failed⟩
      · simp only [limited, ok_bind]
        rfl
      · simp only [failed, error_bind]

theorem update_eq_ok (words : pass.probesOffset + batchProbe < 4294967296)
    (inBatch : batchProbe < Batch.probesLimit)
    (listed : pass.probesOffset + batchProbe < active.count)
    (held : fetch active.entries (pass.probesOffset + batchProbe) = .ok index)
    (inside : texel.x < layer.resolution ∧ texel.y < layer.resolution) :
    layer.update volume pass probes active trace batchProbe texel atlas = .ok after ↔
      ∃ weight gathered i old new,
        historyOf volume probes pass.cascade pass.resetBlend index = .ok weight ∧
        layer.gather volume pass.cascade trace batchProbe texel = .ok gathered ∧
        place volume pass.cascade layer.resolution index texel atlas.size = .ok i ∧
        atlas.data[i]? = some old ∧
        layer.blend volume pass.cascade weight gathered old = .ok new ∧
        after = ⟨atlas.data.setIfInBounds i new, atlas.size⟩ := by
  simp only [update_eq words inBatch listed inside, held, ok_bind, revise, place, position,
    Texels.read, Texels.write, bind_eq_ok, pure_eq_ok, fetch_eq_ok, store_eq_ok, Except.ok.injEq]
  constructor
  · intro ran
    obtain ⟨weight, history, slot, physical, gathered, rays, pos, texelOf, old, ⟨i, indexed, stored⟩,
      new, blended, _, again, _, ⟨-, rfl⟩, rfl⟩ := ran
    obtain rfl := Except.ok.inj (indexed.symm.trans again)
    exact ⟨weight, gathered, i, old, new, history, rays, ⟨pos, ⟨slot, physical, texelOf⟩, indexed⟩,
      stored, blended, rfl⟩
  · intro ran
    obtain ⟨weight, gathered, i, old, new, history, rays, ⟨pos, ⟨slot, physical, texelOf⟩, indexed⟩,
      stored, blended, rfl⟩ := ran
    exact ⟨weight, history, slot, physical, gathered, rays, pos, texelOf, old, ⟨i, indexed, stored⟩,
      new, blended, i, indexed, _, ⟨(Array.getElem?_eq_some_iff.mp stored).1, rfl⟩, rfl⟩

theorem gather_congr {other : Array (Vec4 α)} {otherProbe : Nat} {cascade : Nat}
    (same : ∀ ray < raysRead volume,
      rayAt volume trace batchProbe ray = rayAt volume other otherProbe ray) :
    layer.gather volume cascade trace batchProbe texel =
      layer.gather volume cascade other otherProbe texel := by
  cases layer with
  | irradiance =>
      simp only [Layer.gather, gatherIrradiance]
      rw [foldlM_congr fun ray member s => by rw [same ray (List.mem_range.mp member)]]
  | distance =>
      simp only [Layer.gather, gatherDistance]
      refine bind_congr fun limit => ?_
      rw [foldlM_congr fun ray member s => by rw [same ray (List.mem_range.mp member)]]

omit [Scalar α] in
theorem origin_of_texel {target : Target α} {grid : Grid} {resolution : Nat} {pos : Vec2 Nat}
    (ran : target.texel grid texel resolution = .ok pos) :
    ∃ origin, grid.tileOrigin target.cascade target.physicalIndex resolution = .ok origin ∧
      pos = ⟨origin.x + 1 + texel.x, origin.y + 1 + texel.y⟩ := by
  simp only [Target.texel, bind_eq_ok, Vec2.mapM_eq_ok, Vec2.zipWithM_eq_ok, Word.add_eq_ok] at ran
  obtain ⟨origin, found, _, ⟨⟨x, -⟩, y, -⟩, ⟨x', -⟩, y', -⟩ := ran
  refine ⟨origin, found, ?_⟩
  rw [← x, ← y, ← x', ← y']

omit [Scalar α] in
theorem texel_eq_ok {target : Target α} {grid : Grid} {resolution : Nat} {pos : Vec2 Nat}
    (ran : target.texel grid texel resolution = .ok pos) :
    pos = grid.texelAt target.cascade target.physicalIndex resolution texel := by
  obtain ⟨origin, found, rfl⟩ := origin_of_texel ran
  rw [Grid.tileOrigin_eq_ok found]
  simp only [Grid.texelAt, Vec2.mk.injEq]
  omega

def placeAt (volume : Volume α) (cascade resolution index : Nat) (texel : Vec2 Nat)
    (size : Vec2 Nat) : Nat :=
  volume.grid.texelPlace cascade (volume.grid.slotAt (volume.scrollOf cascade) index) resolution
    texel size.x

theorem position_eq_ok {cascade resolution : Nat} {pos : Vec2 Nat} (small : volume.grid.IsSmall)
    (inside : index < volume.grid.size)
    (ran : position volume cascade resolution index texel = .ok pos) :
    pos = volume.texel cascade resolution index texel := by
  obtain ⟨slot, physical, found⟩ := bind_eq_ok.mp ran
  rw [texel_eq_ok found, Volume.physicalIndex_eq_ok small inside physical]
  rfl

theorem place_eq_ok {cascade resolution i : Nat} {size : Vec2 Nat} (small : volume.grid.IsSmall)
    (inside : index < volume.grid.size)
    (ran : place volume cascade resolution index texel size = .ok i) :
    i = placeAt volume cascade resolution index texel size := by
  obtain ⟨pos, found, indexed⟩ := bind_eq_ok.mp ran
  rw [Texels.index_eq_ok indexed, position_eq_ok small inside found]
  rfl

/-- How a texel of a probe's tile is changed, whatever batch the probe is in. -/
def edit (layer : Layer) (volume : Volume α) (probes : Array PackedProbe) (s : Surroundings α)
    (cascade : Nat) (resetBlend : Bool) (size : Vec2 Nat) (index : Nat) (texel : Vec2 Nat) :
    Edit (Vec4 α) :=
  ⟨placeAt volume cascade layer.resolution index texel size, fun old => do
    let weight ← historyOf volume probes cascade resetBlend index
    let gathered ← layer.gather volume cascade (← Tracing.row volume probes s cascade index) 0 texel
    let _ ← place volume cascade layer.resolution index texel size
    layer.blend volume cascade weight gathered old⟩

def tileEdits (layer : Layer) (volume : Volume α) (probes : Array PackedProbe) (s : Surroundings α)
    (cascade : Nat) (resetBlend : Bool) (size : Vec2 Nat) (index : Nat) : List (Edit (Vec4 α)) :=
  (tileTexels layer.resolution).map
    (edit layer volume probes s cascade resetBlend size index)

theorem mem_tileTexels {resolution : Nat} :
    texel ∈ tileTexels resolution ↔ texel.x < resolution ∧ texel.y < resolution := by
  obtain ⟨x, y⟩ := texel
  simp [tileTexels, and_comm]

theorem nodup_tileTexels {resolution : Nat} : (tileTexels resolution).Nodup := by
  refine List.nodup_flatMap.mpr ⟨fun y _ => ?_, ?_⟩
  · exact List.nodup_range.map fun _ _ same => (Vec2.mk.inj same).1
  · refine List.nodup_range.imp fun different texel member member' => ?_
    obtain ⟨_, -, rfl⟩ := List.mem_map.mp member
    obtain ⟨_, -, same⟩ := List.mem_map.mp member'
    exact different (Vec2.mk.inj same).2.symm

omit [Scalar α] in
theorem placeAt_inj {cascade cascade' resolution i j : Nat} {t t' size : Vec2 Nat}
    (width : size.x = volume.grid.counts.x * (resolution + 2)) (hi : i < volume.grid.size)
    (hj : j < volume.grid.size) (ht : t.x < resolution ∧ t.y < resolution)
    (ht' : t'.x < resolution ∧ t'.y < resolution)
    (same : placeAt volume cascade resolution i t size =
      placeAt volume cascade' resolution j t' size) : cascade = cascade' ∧ i = j ∧ t = t' := by
  obtain ⟨rfl, slots, texels⟩ :=
    Grid.texelPlace_inj width (Grid.slotAt_lt hi) (Grid.slotAt_lt hj) ht ht' same
  exact ⟨rfl, Grid.slotAt_inj hi hj slots, texels⟩

theorem rayAt_congr {rays : Array (Vec4 α)} {ray : Nat} (inBatch : batchProbe < Batch.probesLimit)
    (inside : ray < raysRead volume)
    (same : fetch trace (batchProbe * Batch.raysLimit + ray) = fetch rays ray) :
    rayAt volume trace batchProbe ray = rayAt volume rays 0 ray := by
  have below := inside.trans_le Tracing.raysRead_le
  simp only [Batch.raysLimit, Batch.probesLimit] at below inBatch same
  have own : Batch.traceIndex batchProbe ray = .ok (batchProbe * 256 + ray) :=
    Tracing.traceIndex_eq_ok.mpr ⟨rfl, by simp only [Batch.raysLimit]; omega⟩
  have first : Batch.traceIndex 0 ray = .ok ray :=
    Tracing.traceIndex_eq_ok.mpr ⟨by omega, by omega⟩
  simp only [rayAt, own, first, ok_bind, same]

/-- The places of a batch hold the given probes of a grid, and their rays have been traced. -/
structure Traced (volume : Volume α) (pass : BatchPass) (probes : Array PackedProbe)
    (active : ActiveList) (s : Surroundings α) (trace : Array (Vec4 α)) (indices : List Nat) :
    Prop where
  small : ∀ index ∈ indices, volume.grid.IsSmall ∧ index < volume.grid.size
  inBatch : indices.length ≤ Batch.probesLimit
  listed : ∀ b index, indices[b]? = some index → pass.probesOffset + b < 4294967296 ∧
    pass.probesOffset + b < active.count ∧
      fetch active.entries (pass.probesOffset + b) = .ok index
  rays : ∀ b index, indices[b]? = some index → ∃ rays,
    Tracing.row volume probes s pass.cascade index = .ok rays ∧ ∀ ray < raysRead volume,
      fetch trace (b * Batch.raysLimit + ray) = fetch rays ray

variable {s : Surroundings α} {indices : List Nat}

theorem update_performs (traced : Traced volume pass probes active s trace indices)
    (size : Vec2 Nat) (member : indices[batchProbe]? = some index)
    (inside : texel.x < layer.resolution ∧ texel.y < layer.resolution) :
    Edit.Performs (⟨·, size⟩)
      (layer.update volume pass probes active trace batchProbe texel)
      [edit layer volume probes s pass.cascade pass.resetBlend size index texel] := by
  have below : batchProbe < indices.length := (List.getElem?_eq_some_iff.mp member).1
  obtain ⟨small, inBatch, listed, rays⟩ := traced
  obtain ⟨small, indexInside⟩ := small index (List.mem_of_getElem? member)
  obtain ⟨words, listed, held⟩ := listed batchProbe index member
  obtain ⟨rays, found, same⟩ := rays batchProbe index member
  have gathers : layer.gather volume pass.cascade trace batchProbe texel =
      layer.gather volume pass.cascade rays 0 texel :=
    gather_congr fun ray inside => rayAt_congr (by omega) inside (same ray inside)
  intro a t
  rw [Edit.foldlM_apply_singleton, update_eq_ok words (by omega) listed held inside]
  simp only [Edit.apply_eq_ok, edit, found, gathers, ok_bind, bind_eq_ok]
  constructor
  · intro ran
    obtain ⟨weight, gathered, i, old, new, history, around, placed, stored, blended, rfl⟩ := ran
    obtain rfl := place_eq_ok small indexInside placed
    exact ⟨_, ⟨old, new, stored, ⟨weight, history, gathered, around, _, placed, blended⟩, rfl⟩, rfl⟩
  · intro ran
    obtain ⟨_, ⟨old, new, stored, ⟨weight, history, gathered, around, i, placed, blended⟩, rfl⟩,
      rfl⟩ := ran
    obtain rfl := place_eq_ok small indexInside placed
    exact ⟨weight, gathered, _, old, new, history, around, placed, stored, blended, rfl⟩

theorem run_performs (layer : Layer) (traced : Traced volume pass probes active s trace indices)
    (size : Vec2 Nat) :
    Edit.Performs (⟨·, size⟩) (layer.run volume pass probes active trace indices.length)
      (indices.flatMap (tileEdits layer volume probes s pass.cascade pass.resetBlend size)) := by
  have tile : ∀ batchProbe ∈ List.range indices.length, Edit.Performs (⟨·, size⟩)
      ((tileTexels layer.resolution).foldlM fun atlas texel =>
        layer.update volume pass probes active trace batchProbe texel atlas)
      (tileEdits layer volume probes s pass.cascade pass.resetBlend size
        (indices.getD batchProbe 0)) := by
    intro batchProbe member
    have below := List.mem_range.mp member
    have found : indices[batchProbe]? = some (indices.getD batchProbe 0) := by
      simp [List.getElem?_eq_getElem below]
    rw [tileEdits, ← List.flatMap_singleton' ((tileTexels layer.resolution).map _), List.flatMap_map]
    exact Edit.Performs.foldlM fun texel member =>
      update_performs traced size found (mem_tileTexels.mp member)
  have places : (List.range indices.length).map (indices.getD · 0) = indices := by
    refine List.ext_getElem (by simp) fun i _ inside => ?_
    simp [List.getElem?_eq_getElem inside]
  intro a t
  rw [Layer.run_eq]
  conv in indices.flatMap _ => rw [← places, List.flatMap_map]
  exact Edit.Performs.foldlM tile a t

end Updating

end IrradianceField
