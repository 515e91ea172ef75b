import IrradianceField.Proofs.Moments
import IrradianceField.Proofs.Completion

/-!
The distance atlas: its texels hold moments, whatever the kernels are told and in whatever order
their threads run, and no thread faults that has what it reads.
-/

namespace IrradianceField

namespace Grid

variable {g : Grid} {cascade slot row t t' : Nat}

/-- Cascade that the tiles belong to which lie on a row of texels of the distance atlas. -/
def cascadeOfRow (g : Grid) (y : Nat) : Nat :=
  y / (distanceResolution + 2) / (g.counts.y * g.counts.z)

theorem cascadeOfRow_congr (inside : t < distanceResolution + 2)
    (inside' : t' < distanceResolution + 2) :
    g.cascadeOfRow (row * (distanceResolution + 2) + t) =
      g.cascadeOfRow (row * (distanceResolution + 2) + t') := by
  have own : ∀ t < distanceResolution + 2, (row * (distanceResolution + 2) + t) /
      (distanceResolution + 2) = row := by
    intro t inside
    simp only [distanceResolution] at inside ⊢
    omega
  rw [cascadeOfRow, cascadeOfRow, own t inside, own t' inside']

theorem cascadeOfRow_tile (inside : slot < g.size) (low : t < distanceResolution + 2) :
    g.cascadeOfRow ((cascade * (g.counts.y * g.counts.z) + slot / g.counts.x) *
      (distanceResolution + 2) + t) = cascade := by
  have below := slot_row_lt inside
  rw [cascadeOfRow_congr low (Nat.zero_lt_succ _), cascadeOfRow, Nat.add_zero,
    Nat.mul_div_cancel _ (Nat.zero_lt_succ _), Nat.add_comm,
    Nat.add_mul_div_right _ _ (Nat.zero_lt_of_lt below), Nat.div_eq_of_lt below, Nat.zero_add]

end Grid

namespace Volume

variable {v : Volume ℝ} {g : Grid} {cascade : Nat} {spacing : ℝ}

/-- A volume that places a grid with given spacing, traces rays, and lets history fade. -/
structure Spaces (v : Volume ℝ) (g : Grid) (cascade : Nat) (spacing : ℝ) : Prop where
  grid : v.grid = g
  spaced : v.spacing cascade = .ok spacing
  rays : 1 ≤ v.raysCount
  weight : v.historyWeight < 1

theorem Spaces.limited (spaces : v.Spaces g cascade spacing) :
    Updating.distanceLimit v cascade = .ok (3 / 2 * spacing) := by
  have literal : (Classification.distanceLimit : ℝ) = 3 / 2 := by
    norm_num [Classification.distanceLimit]
  rw [Updating.distanceLimit, spaces.spaced, ok_bind, literal, pure_eq_ok]

theorem Spaces.isMoments_of_blend {trace : Array (Vec4 ℝ)} {batchProbe : Nat} {dir : Vec3 ℝ}
    {limit weight : ℝ} {raw previous out : Vec2 ℝ} (spaces : v.Spaces g cascade spacing)
    (positive : 0 < spacing) (limited : Updating.distanceLimit v cascade = .ok limit)
    (gathered : Updating.gatherDistance v trace batchProbe dir limit = .ok raw)
    (earlier : IsMoments (3 / 2 * spacing) previous) (below : weight < 1)
    (blended : Updating.blendDistance raw previous weight limit = .ok out) :
    IsMoments (3 / 2 * spacing) out := by
  rw [spaces.limited] at limited
  obtain rfl := Except.ok.inj limited
  have fresh := Updating.isMoments_of_gather (by positivity) spaces.rays gathered
  obtain ⟨out', again, valid⟩ := Updating.isMoments_of_blend fresh earlier below
  obtain rfl := Except.ok.inj (again.symm.trans blended)
  exact valid

end Volume

/-- An atlas for the distances of a grid that holds moments all over one of its cascades. -/
structure HoldsMoments (g : Grid) (cascade : Nat) (limit : ℝ) (atlas : Texels (Vec4 ℝ)) :
    Prop where
  sized : g.atlasSize distanceResolution = .ok atlas.size
  texels : atlas.data.size = atlas.size.x * atlas.size.y
  moments : ∀ (pos : Vec2 Nat) (value : Vec4 ℝ), pos.x < atlas.size.x →
    g.cascadeOfRow pos.y = cascade → atlas.data[pos.y * atlas.size.x + pos.x]? = some value →
      IsMoments limit value.xy

namespace HoldsMoments

variable {g : Grid} {cascade : Nat} {limit : ℝ} {atlas after : Texels (Vec4 ℝ)} {pos : Vec2 Nat}
  {value : Vec4 ℝ}

theorem blank {size : Vec2 Nat} (sized : g.atlasSize distanceResolution = .ok size)
    (positive : 0 < limit) : HoldsMoments g cascade limit (FrameMemory.blank size) where
  sized := sized
  texels := Array.size_replicate ..
  moments := by
    intro pos value _ _ held
    obtain ⟨_, rfl⟩ := Array.getElem?_eq_some_iff.mp held
    simp only [FrameMemory.blank, Array.getElem_replicate]
    have zero : (Vec4.zero : Vec4 ℝ).xy = ⟨0, 0⟩ := by simp [Vec4.zero, Vec4.xy]
    rw [zero]
    exact isMoments_zero positive

theorem of_read (holds : HoldsMoments g cascade limit atlas) (left : pos.x < atlas.size.x)
    (own : g.cascadeOfRow pos.y = cascade) (read : atlas.read pos = .ok value) :
    IsMoments limit value.xy := by
  obtain ⟨i, indexed, held⟩ := bind_eq_ok.mp read
  obtain rfl := Texels.index_eq_ok indexed
  exact holds.moments pos value left own (fetch_eq_ok.mp held)

theorem write (holds : HoldsMoments g cascade limit atlas) (left : pos.x < atlas.size.x)
    (valid : g.cascadeOfRow pos.y = cascade → IsMoments limit value.xy)
    (written : atlas.write pos value = .ok after) : HoldsMoments g cascade limit after := by
  simp only [Texels.write, bind_eq_ok, store_eq_ok, pure_eq_ok, Except.ok.injEq] at written
  obtain ⟨i, indexed, _, ⟨room, rfl⟩, rfl⟩ := written
  obtain rfl := Texels.index_eq_ok indexed
  refine ⟨holds.sized, ?_, ?_⟩
  · rw [Array.size_setIfInBounds]
    exact holds.texels
  · intro other stored left' own held
    dsimp only at left' held
    by_cases same : pos.y * atlas.size.x + pos.x = other.y * atlas.size.x + other.x
    · rw [← same, Array.getElem?_setIfInBounds_self_of_lt room] at held
      obtain rfl := Option.some.inj held
      rw [← (mul_add_unique left left' same).1] at own
      exact valid own
    · rw [Array.getElem?_setIfInBounds_ne same] at held
      exact holds.moments other stored left' own held

section Updates

variable {volume : Volume ℝ} {pass : BatchPass} {probes : Array PackedProbe} {active : ActiveList}
  {trace : Array (Vec4 ℝ)} {batchProbe : Nat} {texel : Vec2 Nat} {spacing : ℝ}

theorem update (positive : 0 < spacing) (spaces : volume.Spaces g cascade spacing)
    (holds : HoldsMoments g cascade (3 / 2 * spacing) atlas)
    (ran : Updating.updateDistance volume pass probes active trace batchProbe texel atlas =
      .ok after) :
    HoldsMoments g cascade (3 / 2 * spacing) after := by
  obtain ⟨target?, found, ran⟩ := bind_eq_ok.mp ran
  cases target? with
  | none => exact Except.ok.inj ran ▸ holds
  | some target =>
      dsimp only at ran
      split at ran
      · exact Except.ok.inj ran ▸ holds
      · rename_i tile
        simp only [Bool.or_eq_true, decide_eq_true_eq, not_or, Nat.not_le] at tile
        obtain ⟨index, slot, probe, -, -, -, physical, rfl⟩ := Updating.target_eq_some found
        obtain ⟨limit, limited, ran⟩ := bind_eq_ok.mp ran
        obtain ⟨raw, gathered, ran⟩ := bind_eq_ok.mp ran
        obtain ⟨pos, placed, ran⟩ := bind_eq_ok.mp ran
        obtain ⟨previous, read, ran⟩ := bind_eq_ok.mp ran
        obtain ⟨out, blended, written⟩ := bind_eq_ok.mp ran
        obtain rfl := spaces.grid
        obtain rfl := Updating.texel_eq_ok placed
        have inside := Volume.physicalIndex_lt holds.sized physical
        have left : (volume.grid.texelAt pass.cascade slot distanceResolution texel).x <
            atlas.size.x := by
          rw [(Grid.atlasSize_eq_ok.mp holds.sized).1]
          exact Grid.texelAt_x_lt inside tile.1
        have own : volume.grid.cascadeOfRow
            (volume.grid.texelAt pass.cascade slot distanceResolution texel).y = pass.cascade :=
          Grid.cascadeOfRow_tile inside (by omega)
        have below : (if pass.resetBlend || probe.state.isActivated then 0.0
            else volume.historyWeight) < 1 := by
          split
          · norm_num
          · exact spaces.weight
        refine holds.write left (fun here => ?_) written
        rw [own] at here
        exact spaces.isMoments_of_blend positive (here ▸ limited) gathered
          (holds.of_read left (own.trans here) read) below blended

theorem update_ends {limit : ℝ} (holds : HoldsMoments volume.grid cascade limit atlas)
    (words : atlas.size.x * atlas.size.y ≤ 4294967296)
    (present : pass.cascade < volume.grid.cascades)
    (limited : Updating.IsLimited volume pass.cascade)
    (served : ∃ target?, Updating.target? volume pass probes active batchProbe = .ok target?)
    (stored : ∀ ray < Updating.raysRead volume,
      ∃ found, Updating.rayAt volume trace batchProbe ray = .ok found) :
    ∃ after, Updating.updateDistance volume pass probes active trace batchProbe texel atlas =
      .ok after := by
  obtain ⟨target?, found⟩ := served
  rw [Updating.updateDistance, found, ok_bind]
  cases target? with
  | none => exact ⟨atlas, rfl⟩
  | some target =>
      dsimp only
      split
      · exact ⟨atlas, rfl⟩
      · rename_i tile
        simp only [Bool.or_eq_true, decide_eq_true_eq, not_or, Nat.not_le] at tile
        obtain ⟨limit, cut, low, low'⟩ := limited
        obtain ⟨index, slot, probe, -, -, -, physical, same⟩ := Updating.target_eq_some found
        have own : target.cascade < volume.grid.cascades := by rwa [same]
        have inside : target.physicalIndex < volume.grid.size := by
          rw [same]
          exact Volume.physicalIndex_lt holds.sized physical
        obtain ⟨raw, gathered⟩ := Updating.gatherDistance_ends low low' stored
          (Octahedral.texelDirection texel distanceResolution)
        obtain ⟨placed, indexed, fits⟩ :=
          Updating.texel_ends target holds.sized words own inside tile
        rw [← holds.texels] at fits
        obtain ⟨previous, held⟩ := fetch_of_lt fits
        obtain ⟨out, blended⟩ :=
          Updating.blendDistance_ends low low' raw previous.xy target.historyWeight
        simp only [cut, gathered, placed, Texels.read, Texels.write, indexed, held, blended,
          store_of_lt fits, ok_bind]
        exact ⟨_, rfl⟩

end Updates

section Borders

variable {pass : BorderPass} {tile : Nat} {texel : Vec2 Nat}

theorem copyTexel (tiled : pass.resolution = distanceResolution)
    (holds : HoldsMoments g cascade limit atlas)
    (ran : Border.copyTexel pass tile texel atlas = .ok after) :
    HoldsMoments g cascade limit after := by
  obtain rfl | ⟨column, row, src, value, copied⟩ := Border.copies_of_copyTexel ran
  · exact holds
  · obtain ⟨found, fits, read, written⟩ := copied
    obtain ⟨insideX, insideY⟩ := (Border.source_eq_some found).1
    obtain ⟨srcX, srcY⟩ := Border.source_inside found
    rw [tiled] at fits read written insideX insideY srcX srcY
    rw [Nat.succ_mul] at fits
    refine holds.write (by dsimp only; omega) (fun own => ?_) written
    refine holds.of_read (by dsimp only; omega) ?_ read
    rw [← own]
    exact Grid.cascadeOfRow_congr (by omega) (by omega)

theorem isTiled (holds : HoldsMoments g cascade limit atlas)
    (words : atlas.size.x * atlas.size.y ≤ 4294967296) :
    Border.IsTiled distanceResolution g.counts.x (g.counts.y * g.counts.z * g.cascades) atlas := by
  refine ⟨(Grid.atlasSize_eq_ok.mp holds.sized).1.trans ?_, holds.texels, words⟩
  rw [Nat.mul_right_comm]

theorem borderRow (tiled : pass.resolution = distanceResolution)
    (holds : HoldsMoments g cascade limit atlas)
    (ran : Border.updateRows pass tile texel atlas = .ok after) :
    HoldsMoments g cascade limit after := by
  obtain rfl | ⟨texel, copied⟩ := Border.copied_of_updateRows ran
  · exact holds
  · exact holds.copyTexel tiled copied

theorem borderColumn (tiled : pass.resolution = distanceResolution)
    (holds : HoldsMoments g cascade limit atlas)
    (ran : Border.updateColumns pass tile texel atlas = .ok after) :
    HoldsMoments g cascade limit after := by
  obtain rfl | ⟨texel, copied⟩ := Border.copied_of_updateColumns ran
  · exact holds
  · exact holds.copyTexel tiled copied

end Borders

end HoldsMoments

/-- A thread of a kernel that stores to the distance atlas, and what it is told. -/
inductive DistanceThread where
  | update (volume : Volume ℝ) (pass : BatchPass) (probes : Array PackedProbe)
    (active : ActiveList) (trace : Array (Vec4 ℝ)) (batchProbe : Nat) (texel : Vec2 Nat)
  | borderRow (pass : BorderPass) (tile : Nat) (thread : Vec2 Nat)
  | borderColumn (pass : BorderPass) (tile : Nat) (thread : Vec2 Nat)

namespace DistanceThread

variable {g : Grid} {cascade : Nat} {spacing : ℝ} {atlas after : Texels (Vec4 ℝ)}
  {thread : DistanceThread}

noncomputable def run (atlas : Texels (Vec4 ℝ)) :
    DistanceThread → Except Fault (Texels (Vec4 ℝ))
  | update volume pass probes active trace batchProbe texel =>
      Updating.updateDistance volume pass probes active trace batchProbe texel atlas
  | borderRow pass tile thread => Border.updateRows pass tile thread atlas
  | borderColumn pass tile thread => Border.updateColumns pass tile thread atlas

/-- Updates are told the grid and the spacing of a cascade, border passes the size of tiles. -/
def Fits (g : Grid) (cascade : Nat) (spacing : ℝ) : DistanceThread → Prop
  | update volume .. => volume.Spaces g cascade spacing
  | borderRow pass .. => pass.resolution = distanceResolution
  | borderColumn pass .. => pass.resolution = distanceResolution

theorem run_keeps (positive : 0 < spacing) (fits : thread.Fits g cascade spacing)
    (holds : HoldsMoments g cascade (3 / 2 * spacing) atlas) (ran : thread.run atlas = .ok after) :
    HoldsMoments g cascade (3 / 2 * spacing) after := by
  cases thread with
  | update volume pass probes active trace batchProbe texel => exact holds.update positive fits ran
  | borderRow pass tile thread => exact holds.borderRow fits ran
  | borderColumn pass tile thread => exact holds.borderColumn fits ran

/-- An update finds its probe and the rays of that, a border pass has no more tiles than there
are. -/
def IsServed (g : Grid) : DistanceThread → Prop
  | update volume pass probes active trace batchProbe _ =>
      pass.cascade < g.cascades ∧ Updating.IsLimited volume pass.cascade ∧
        (∃ target?, Updating.target? volume pass probes active batchProbe = .ok target?) ∧
        ∀ ray < Updating.raysRead volume,
          ∃ found, Updating.rayAt volume trace batchProbe ray = .ok found
  | borderRow pass .. => pass.tilesCount ≤ g.size * g.cascades
  | borderColumn pass .. => pass.tilesCount ≤ g.size * g.cascades

theorem run_ends {limit : ℝ} (fits : thread.Fits g cascade spacing) (served : thread.IsServed g)
    (holds : HoldsMoments g cascade limit atlas)
    (words : atlas.size.x * atlas.size.y ≤ 4294967296) : ∃ after, thread.run atlas = .ok after := by
  have tiles : g.counts.x * (g.counts.y * g.counts.z * g.cascades) = g.size * g.cascades := by
    rw [Grid.size]
    ring
  have short : distanceResolution + 2 < 4294967296 := by decide
  cases thread with
  | update volume pass probes active trace batchProbe texel =>
      obtain ⟨present, limited, target, stored⟩ := served
      obtain rfl := fits.grid
      exact holds.update_ends words present limited target stored
  | borderRow pass tile thread =>
      have tiled := holds.isTiled words
      rw [← show pass.resolution = distanceResolution from fits] at tiled short
      exact Border.updateRows_ends tiled (tiles ▸ served) short thread
  | borderColumn pass tile thread =>
      have tiled := holds.isTiled words
      rw [← show pass.resolution = distanceResolution from fits] at tiled short
      exact Border.updateColumns_ends tiled (tiles ▸ served) short thread

theorem runs_keep {threads : List DistanceThread} (positive : 0 < spacing)
    (fits : ∀ thread ∈ threads, thread.Fits g cascade spacing)
    (holds : HoldsMoments g cascade (3 / 2 * spacing) atlas)
    (ran : threads.foldlM run atlas = .ok after) :
    HoldsMoments g cascade (3 / 2 * spacing) after := by
  refine foldlM_keeps (HoldsMoments g cascade (3 / 2 * spacing)) ?_ holds ran
  intro thread member atlas after holds ran
  exact run_keeps positive (fits thread member) holds ran

theorem runs_end {threads : List DistanceThread} {size : Vec2 Nat} (positive : 0 < spacing)
    (fits : ∀ thread ∈ threads, thread.Fits g cascade spacing)
    (served : ∀ thread ∈ threads, thread.IsServed g)
    (sized : g.atlasSize distanceResolution = .ok size) (words : size.x * size.y ≤ 4294967296)
    (holds : HoldsMoments g cascade (3 / 2 * spacing) atlas) :
    ∃ after, threads.foldlM run atlas = .ok after := by
  have step : ∀ done thread rest t, threads = done ++ thread :: rest →
      HoldsMoments g cascade (3 / 2 * spacing) t →
      ∃ t', thread.run t = .ok t' ∧ HoldsMoments g cascade (3 / 2 * spacing) t' := by
    intro done thread rest t split holds
    have member : thread ∈ threads := by simp [split]
    obtain rfl := Except.ok.inj (sized.symm.trans holds.sized)
    obtain ⟨t', ran⟩ := run_ends (fits thread member) (served thread member) holds words
    exact ⟨t', ran, run_keeps positive (fits thread member) holds ran⟩
  obtain ⟨after, ran, -⟩ :=
    foldlM_ends (fun _ t => HoldsMoments g cascade (3 / 2 * spacing) t) step holds
  exact ⟨after, ran⟩

end DistanceThread

end IrradianceField
