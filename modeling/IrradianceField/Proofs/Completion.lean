import IrradianceField.Proofs.FrameLogs

/-!
Completion: what the passes of a frame need to end without a fault. With an accepted configuration,
that is only that its probes can be classified and the rays of the listed ones be traced.
-/

namespace IrradianceField

variable {α : Type}

namespace Updating

variable [Scalar α] {volume : Volume α} {cascade index : Nat} {texel size : Vec2 Nat}
  {layer : Layer}

/-- The distances of a cascade can be cut at a limit. -/
def IsLimited (volume : Volume α) (cascade : Nat) : Prop :=
  ∃ limit, distanceLimit volume cascade = .ok limit ∧ Scalar.le 0.0 limit = true ∧
    Scalar.le 0.0 (Scalar.sqr limit) = true

theorem clampMoments_ends {limit : α} (low : Scalar.le 0.0 limit = true)
    (low' : Scalar.le 0.0 (Scalar.sqr limit) = true) (moments : Vec2 α) :
    ∃ out, clampMoments moments limit = .ok out := by
  simp only [clampMoments, Scalar.clamp, low, low', if_true, ok_bind, pure_eq_ok]
  exact ⟨_, rfl⟩

theorem gatherDistance_ends {trace : Array (Vec4 α)} {batchProbe : Nat} {limit : α}
    (low : Scalar.le 0.0 limit = true) (low' : Scalar.le 0.0 (Scalar.sqr limit) = true)
    (stored : ∀ ray < raysRead volume, ∃ found, rayAt volume trace batchProbe ray = .ok found)
    (dir : Vec3 α) : ∃ raw, gatherDistance volume trace batchProbe dir limit = .ok raw := by
  apply bind_ends
  · refine foldlM_ends_of_each fun ray member s => ?_
    obtain ⟨found, read⟩ := stored ray (List.mem_range.mp member)
    simp only [read, ok_bind, DistanceSum.add, Scalar.clamp, low, if_true, pure_eq_ok]
    exact ⟨_, rfl⟩
  · exact fun total => clampMoments_ends low low' _

theorem blendDistance_ends {limit : α} (low : Scalar.le 0.0 limit = true)
    (low' : Scalar.le 0.0 (Scalar.sqr limit) = true) (raw previous : Vec2 α) (weight : α) :
    ∃ out, blendDistance raw previous weight limit = .ok out := by
  rw [blendDistance]
  split
  · exact ⟨raw, rfl⟩
  · exact clampMoments_ends low low' _

theorem gather_ends (limited : IsLimited volume cascade) {rays : Array (Vec4 α)}
    (full : rays.size = raysRead volume) (layer : Layer) (texel : Vec2 Nat) :
    ∃ gathered, layer.gather volume cascade rays 0 texel = .ok gathered := by
  obtain ⟨limit, cut, low, low'⟩ := limited
  have stored : ∀ ray < raysRead volume, ∃ found, rayAt volume rays 0 ray = .ok found := by
    intro ray inside
    have short := inside.trans_le Tracing.raysRead_le
    simp only [Batch.raysLimit] at short
    have place : Batch.traceIndex 0 ray = .ok ray :=
      Tracing.traceIndex_eq_ok.mpr ⟨by omega, by omega⟩
    obtain ⟨value, held⟩ := fetch_of_lt (full ▸ inside)
    rw [rayAt, place, ok_bind, held]
    exact ⟨_, rfl⟩
  cases layer with
  | irradiance =>
      simp only [Layer.gather, gatherIrradiance, Layer.resolution, bind_assoc]
      apply bind_ends
      · refine foldlM_ends_of_each fun ray member s => ?_
        obtain ⟨found, read⟩ := stored ray (List.mem_range.mp member)
        rw [read]
        exact ⟨_, rfl⟩
      · intro total
        split <;> exact ⟨_, rfl⟩
  | distance =>
      simp only [Layer.gather, cut, ok_bind]
      exact bind_ends (gatherDistance_ends low low' stored _) fun raw => ⟨_, rfl⟩

theorem blend_ends (limited : IsLimited volume cascade) (layer : Layer) (weight : α)
    (gathered old : Vec4 α) : ∃ new, layer.blend volume cascade weight gathered old = .ok new := by
  obtain ⟨limit, cut, low, low'⟩ := limited
  cases layer with
  | irradiance => exact ⟨_, rfl⟩
  | distance =>
      simp only [Layer.blend, cut, ok_bind]
      exact bind_ends (blendDistance_ends low low' _ _ weight) fun out => ⟨_, rfl⟩

omit [Scalar α] in
theorem texel_ends {g : Grid} (target : Target α) {resolution : Nat}
    (sized : g.atlasSize resolution = .ok size) (words : size.x * size.y ≤ 4294967296)
    (present : target.cascade < g.cascades) (below : target.physicalIndex < g.size)
    (tile : texel.x < resolution ∧ texel.y < resolution) :
    target.texel g texel resolution =
        .ok (g.texelAt target.cascade target.physicalIndex resolution texel) ∧
      Texels.index size (g.texelAt target.cascade target.physicalIndex resolution texel) =
        .ok (g.texelPlace target.cascade target.physicalIndex resolution texel size.x) ∧
      g.texelPlace target.cascade target.physicalIndex resolution texel size.x <
        size.x * size.y := by
  obtain ⟨left, above⟩ := Grid.texelAt_lt sized present below tile
  obtain ⟨same, -, width, -, -, height⟩ := Grid.atlasSize_eq_ok.mp sized
  have wide : size.x < 4294967296 := by rw [same]; exact width
  have high : size.y < 4294967296 := by rw [same]; exact height
  refine ⟨?_, Texels.index_of_lt left above words⟩
  simp only [Grid.texelAt] at left above
  rw [Target.texel, Grid.tileOrigin_of_lt sized present below, ok_bind]
  simp only [bind_eq_ok, Vec2.mapM_eq_ok, Vec2.zipWithM_eq_ok, Word.add_eq_ok, Grid.texelAt]
  refine ⟨⟨_, _⟩, ⟨⟨rfl, by omega⟩, rfl, by omega⟩, ?_⟩
  dsimp only
  omega

theorem place_ends (sized : volume.grid.atlasSize layer.resolution = .ok size)
    (words : size.x * size.y ≤ 4294967296) (present : cascade < volume.grid.cascades)
    (small : volume.grid.IsSmall) (inside : index < volume.grid.size) {slot : Nat}
    (physical : volume.physicalIndex cascade index = .ok slot)
    (tile : texel.x < layer.resolution ∧ texel.y < layer.resolution) :
    place volume cascade layer.resolution index texel size =
        .ok (placeAt volume cascade layer.resolution index texel size) ∧
      placeAt volume cascade layer.resolution index texel size < size.x * size.y := by
  obtain rfl := Volume.physicalIndex_eq_ok small inside physical
  have below : volume.grid.slotAt (volume.scrollOf cascade) index < volume.grid.size :=
    Grid.slotAt_lt inside
  obtain ⟨found, indexed, fits⟩ :=
    texel_ends ⟨cascade, volume.grid.slotAt (volume.scrollOf cascade) index, (0.0 : α)⟩ sized words
      present below tile
  rw [place, position, physical, ok_bind, found, ok_bind]
  exact ⟨indexed, fits⟩

end Updating

theorem Tracing.row_ends [Scalar α] {volume : Volume α} {probes : Array PackedProbe}
    {s : Surroundings α} {cascade index : Nat} {probe : Probe α} {origin : Vec3 α}
    (read : volume.readProbe probes cascade index = .ok probe)
    (placed : volume.relocatedPosition cascade index probe = .ok origin)
    (answers : ∀ ray < Updating.raysRead volume, ∃ seen, traceRay s
      ⟨origin, Ray.probeDirection ray volume.raysCount volume.raysRotation⟩ volume.rayMaxDistance =
        .ok seen) :
    ∃ rays, row volume probes s cascade index = .ok rays := by
  have sights : ∀ ray < Updating.raysRead volume, ∃ value,
      seen volume probes s cascade index ray = .ok value := by
    intro ray inside
    rw [seen, read, ok_bind, placed, ok_bind]
    exact answers ray inside
  choose! values sights using sights
  refine ⟨((List.range (Updating.raysRead volume)).map values).toArray, row_eq_ok.mpr ⟨by simp, ?_⟩⟩
  intro ray inside
  exact ⟨values ray, sights ray inside, by simp [inside]⟩

namespace Config

variable [Scalar α] {config : Config α}

theorem rays_of_valid (valid : config.validate = .ok []) :
    0 < config.raysCount ∧ config.raysCount ≤ Batch.raysLimit := by
  obtain ⟨some, few, -⟩ := (isAccepted_of_valid valid).rays
  exact ⟨Nat.lt_of_lt_of_le (by decide) some, few⟩

end Config

namespace Frame

variable [Scalar α] {input : FrameInput α} {met : Surroundings α} {m : FrameMemory α}
  {cascade : Nat} {resetBlend : Bool}

theorem Ready.edits_end (ready : Ready input m) (layer : Layer)
    (texels : (layer.atlas m).data.size = (layer.atlas m).size.x * (layer.atlas m).size.y)
    (words : (layer.atlas m).size.x * (layer.atlas m).size.y ≤ 4294967296)
    (present : cascade < input.volume.grid.cascades) (some : 0 < input.volume.raysCount)
    (limited : Updating.IsLimited input.volume cascade)
    (rows : ∀ index ∈ m.store.active.toList, ∃ rays,
      Tracing.row input.volume m.store.probes met cascade index = .ok rays) :
    ∃ data, (edits input met cascade resetBlend layer m m.store.active.toList).foldlM Edit.apply
      (layer.atlas m).data = .ok data := by
  refine Edit.run_ends (distinct_edits (ready.width layer) ready.inside ready.once)
    fun e member => ?_
  obtain ⟨index, listed, texel, tile, rfl⟩ := mem_edits member
  have inside := ready.inside index listed
  have small := Grid.isSmall_of_atlasSize inside (ready.atlases layer)
  obtain ⟨rays, row⟩ := rows index listed
  obtain ⟨full, each⟩ := Tracing.row_eq_ok.mp row
  obtain ⟨_, sight, -⟩ := each 0 (Nat.lt_min.mpr ⟨some, by decide⟩)
  obtain ⟨probe, read, -⟩ := bind_eq_ok.mp sight
  obtain ⟨slot, physical, -⟩ := bind_eq_ok.mp read
  obtain ⟨gathered, around⟩ := Updating.gather_ends limited full layer texel
  obtain ⟨placed, below⟩ := Updating.place_ends (ready.atlases layer) words present small inside
    physical tile
  rw [← texels] at below
  obtain ⟨new, blended⟩ := Updating.blend_ends limited layer (if resetBlend ||
    probe.state.isActivated then 0.0 else input.volume.historyWeight) gathered
      (layer.atlas m).data[Updating.placeAt input.volume cascade layer.resolution index texel
        (layer.atlas m).size]
  refine ⟨_, new, Array.getElem?_eq_getElem below, ?_⟩
  simp only [Updating.edit, Updating.historyOf, read, row, around, placed, ok_bind, pure_eq_ok]
  exact blended

/-- The probes of a cascade of an accepted configuration can be classified if the field answers, and
neither the scroll of the grid nor the planes that entered it are too many. -/
theorem classifyProbes_ends {pass : ClassificationPass} (valid : input.config.validate = .ok [])
    (grid : input.volume.grid = input.config.grid) (sized : m.IsSized input.config)
    (present : cascade < input.config.cascades)
    (told : input.cascades.classificationPass input.config cascade = .ok pass)
    (answers : input.scene.field.Answers) (planes : pass.Fits input.volume.grid.counts)
    (fits : input.volume.grid.Fits (input.volume.scrollOf cascade)) :
    ∃ judged, classifyProbes input m cascade = .ok judged := by
  obtain ⟨small, -, counted, few, most⟩ := Config.small_of_valid valid
  have counted : input.config.grid.probesPerCascade = .ok input.config.grid.size := counted
  obtain rfl := cascade_of_pass told
  have room : (pass.cascade + 1) * input.config.grid.size ≤ m.store.probes.size := by
    rw [sized.probes, Nat.mul_comm]
    exact Nat.mul_le_mul_left _ present
  have capacity := sized.entries.ge
  have total := sized.probes
  simp only [maxProbes] at most
  rw [← grid] at small counted room capacity most total
  have least : input.volume.grid.size ≤ (pass.cascade + 1) * input.volume.grid.size :=
    Nat.le_mul_of_pos_left _ (Nat.succ_pos _)
  have threads : Word.groups input.volume.grid.size Classification.groupSize = .ok _ :=
    Word.groups_eq_ok.mpr ⟨rfl, by simp only [Classification.groupSize]; omega,
      by simp only [Classification.groupSize]; omega⟩
  obtain ⟨store, ran⟩ : ∃ store, Classification.run input.volume pass input.scene.field m.store =
      .ok store := by
    simp only [Classification.run, Classification.threads, counted, threads, ok_bind, pure_eq_ok]
    exact Classification.run_ends counted small List.nodup_range rfl room capacity
      fun index inside => Classification.judge_of_answers answers planes (present.trans_le few) fits
        counted inside (by omega) room
  rw [classifyProbes, told, ok_bind, ran]
  exact ⟨_, rfl⟩

theorem Ready.light_ends (ready : Ready input m) (valid : input.config.validate = .ok [])
    (sized : m.IsSized input.config) (grid : input.volume.grid = input.config.grid)
    (same : input.volume.raysCount = input.config.raysCount)
    (present : cascade < input.volume.grid.cascades)
    (limited : Updating.IsLimited input.volume cascade)
    (rows : ∀ index ∈ m.store.active.toList, ∃ rays,
      Tracing.row input.volume m.store.probes met cascade index = .ok rays) :
    ∃ after, light input met cascade resetBlend m = .ok after := by
  obtain ⟨-, -, -, -, most⟩ := Config.small_of_valid valid
  obtain ⟨some, few⟩ := Config.rays_of_valid valid
  have probes : input.volume.grid.size ≤ maxProbes := by
    have least : input.volume.grid.size ≤ input.volume.grid.size * input.volume.grid.cascades :=
      Nat.le_mul_of_pos_right _ (Nat.zero_lt_of_lt present)
    rw [grid] at least ⊢
    exact least.trans most
  simp only [maxProbes, Batch.raysLimit] at probes few
  have needed : Batch.needed input.volume.grid.size = .ok _ :=
    Word.groups_eq_ok.mpr ⟨rfl, by simp only [Batch.probesLimit]; omega,
      by simp only [Batch.probesLimit]; omega⟩
  have groups : Word.groups input.volume.raysCount Batch.traceGroupSize = .ok _ :=
    Word.groups_eq_ok.mpr ⟨rfl, by simp only [Batch.traceGroupSize]; omega,
      by simp only [Batch.traceGroupSize]; omega⟩
  obtain ⟨-, batches, -⟩ := ready.batches needed
  obtain ⟨args, stored⟩ := BatchDispatch.storeAll_ends groups batches
    (ready.dispatches _ needed)
  refine Frame.light_ends ready needed stored fun layer => ?_
  exact ready.edits_end layer (sized.texels layer) (sized.isTiled valid layer).1.words present
    (same ▸ some) limited rows

end Frame

namespace FrameLog

variable [Scalar α] {config : Config α} {log : FrameLog α}

/-- The probes of a cascade can be classified when it is up, and the rays of the listed ones be
traced. -/
structure Works (log : FrameLog α) (cascade : Nat) (m : FrameMemory α) : Prop where
  limited : Updating.IsLimited log.input.volume cascade
  judged : ∃ pass mid, Frame.classifyProbes log.input m cascade = .ok (pass, mid) ∧
    ∀ index ∈ mid.store.active.toList, ∃ rays,
      Tracing.row log.input.volume mid.store.probes log.met cascade index = .ok rays

theorem ends (valid : config.validate = .ok []) (own : IsOf config log)
    (works : ∀ cascade < config.cascades, ∀ m, log.before cascade = .ok m → log.Works cascade m) :
    ∃ last after, log.before config.cascades = .ok last ∧
      Frame.borders log.input last = .ok after := by
  obtain ⟨small, counted, grid⟩ := FrameLog.small valid own
  have rays := own.rays
  have looped : ∀ count ≤ config.cascades, ∃ m, log.before count = .ok m := by
    intro count
    induction count with
    | zero => exact fun _ => ⟨log.start, rfl⟩
    | succ cascade ih =>
        intro present
        obtain ⟨m, ran⟩ := ih (by omega)
        obtain ⟨limited, pass, mid, judged, rows⟩ := works cascade (by omega) m ran
        have found : log.classified cascade = .ok (pass, mid) := by
          rw [FrameLog.classified, ran, ok_bind, judged]
        obtain ⟨_, again, classified, ready⟩ := stages_of_classified valid own found
        obtain rfl := Except.ok.inj (again.symm.trans ran)
        have sized := (before_keeps valid own ran).1
        rw [← own.configured] at sized rays valid
        have below : cascade < log.input.volume.grid.cascades := by
          rw [own.grid]
          exact present
        obtain ⟨after, lit⟩ : ∃ after, Frame.light log.input log.met cascade
            (log.input.isFirst || pass.reset) mid = .ok after :=
          ready.light_ends valid (classified.sized sized) grid rays below limited rows
        exact ⟨after, before_succ.mpr ⟨_, ran, Frame.runCascade_eq_ok.mpr ⟨pass, mid, judged, lit⟩⟩⟩
  obtain ⟨last, ran⟩ := looped config.cascades le_rfl
  have sized := (before_keeps valid own ran).1
  rw [← own.configured] at sized valid
  obtain ⟨after, filled⟩ := Frame.borders_ends valid sized
  exact ⟨last, after, ran, filled⟩

end FrameLog

end IrradianceField
