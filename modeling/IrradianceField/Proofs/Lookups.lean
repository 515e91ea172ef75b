import IrradianceField.DistanceField.Voxels
import IrradianceField.Proofs.ChunkGrid
import IrradianceField.Proofs.Magnitudes
import IrradianceField.Proofs.Supplying

/-!
Lookups: whatever bits a position, a normal and a bias have, what is read for them lies inside of
its buffer: probes and texels, voxels, and chunks.
-/

namespace IrradianceField

section Tiles

open Binary32 (IsAtMost isAtMost_half isAtMost_one isAtMost_ofNat)
open Scalar (floor toInt)

theorem Texels.sampleBilinear_ends {α : Type} [Scalar α] {t : Texels (Vec4 α)} {pos : Vec2 α}
    (reads : ∀ at' : Vec2 Int, ∃ value, t.readClamped at' = .ok value)
    (x : -2147483648 ≤ toInt (floor (pos.x - 0.5)) ∧ toInt (floor (pos.x - 0.5)) < 2147483647)
    (y : -2147483648 ≤ toInt (floor (pos.y - 0.5)) ∧ toInt (floor (pos.y - 0.5)) < 2147483647) :
    ∃ value, t.sampleBilinear pos = .ok value := by
  have moves := @neighbour_of_step (((pos.shiftDown 0.5).map floor).map toInt) x y
  have right := moves 1 0 (by decide) (by decide)
  have down := moves 0 1 (by decide) (by decide)
  have across := moves 1 1 (by decide) (by decide)
  rcases reads (((pos.shiftDown 0.5).map floor).map toInt) with ⟨topLeft, first⟩
  rcases reads ⟨_, _⟩ with ⟨topRight, second⟩
  rcases reads ⟨_, _⟩ with ⟨bottomLeft, third⟩
  rcases reads ⟨_, _⟩ with ⟨bottomRight, fourth⟩
  rw [sampleBilinear, gather]
  dsimp only
  rw [first, ok_bind, right, ok_bind, second, ok_bind, down, ok_bind, third, ok_bind, across,
    ok_bind, fourth]
  exact ⟨_, rfl⟩

theorem Volume.lookUp_ends {v : Volume Float32} {t : Texels (Vec4 Float32)}
    {cascade slot resolution : Nat} {origin : Vec2 Nat} {coords : Vec2 Float32}
    (reads : ∀ at' : Vec2 Int, ∃ value, t.readClamped at' = .ok value)
    (found : v.grid.tileOrigin cascade slot resolution = .ok origin)
    (left : origin.x ≤ 2 ^ 27) (above : origin.y ≤ 2 ^ 27) (small : resolution ≤ 2 ^ 4)
    (x : IsAtMost 2 coords.x) (y : IsAtMost 2 coords.y) :
    ∃ texel, v.lookUp t cascade slot resolution coords = .ok texel := by
  have point : ∀ {corner : Nat} {a : Float32}, corner ≤ 2 ^ 27 → IsAtMost 2 a →
      IsAtMost 29 (Scalar.ofNat corner + 1.0 + (a * 0.5 + 0.5) * Scalar.ofNat resolution) := by
    intro corner a near inside
    have start : IsAtMost 28 (Scalar.ofNat corner + 1.0) :=
      (isAtMost_ofNat near (by decide)).add (by decide) (by decide) (isAtMost_one.mono (by decide))
    have middle : IsAtMost 3 (a * 0.5 + 0.5) :=
      (inside.mul (by decide) (by decide) isAtMost_half).add (by decide) (by decide)
        (isAtMost_half.mono (by decide))
    have offset : IsAtMost 7 ((a * 0.5 + 0.5) * Scalar.ofNat resolution) :=
      middle.mul (by decide) (by decide) (isAtMost_ofNat small (by decide))
    exact start.add (by decide) (by decide) (offset.mono (by decide))
  have bounds : ∀ {a : Float32}, IsAtMost 29 a → -2147483648 ≤ toInt (floor (a - 0.5)) ∧
      toInt (floor (a - 0.5)) < 2147483647 := by
    intro a near
    have moved : IsAtMost (30 : Nat) (a - 0.5) :=
      near.sub (by decide) (by decide) (isAtMost_half.mono (by decide))
    have most := (moved.floor (by decide)).toInt_le
    exact ⟨Binary32.le_toInt _, by omega⟩
  rw [lookUp, atlasPosition, found, ok_bind, pure_eq_ok, ok_bind]
  exact Texels.sampleBilinear_ends reads (bounds (point left x)) (bounds (point above y))

end Tiles

theorem Sampler.IsSupplied.finds {s : Sampler Float32} (supplied : s.IsSupplied) : s.Finds := by
  intro cascade present slot inside way
  rcases Binary32.isAtMost_encode way with ⟨x, y⟩
  constructor
  · have atlas := supplied.irradiance
    rcases supplied.origin_le present inside (by decide : irradianceResolution ≤ _)
      with ⟨left, above⟩
    exact Volume.lookUp_ends (atlas.reads present inside (by decide))
      (Grid.tileOrigin_of_lt atlas.sized present inside) left above (by decide) x y
  · have atlas := supplied.distance
    rcases supplied.origin_le present inside (le_refl distanceResolution) with ⟨left, above⟩
    exact Volume.lookUp_ends (atlas.reads present inside (by decide))
      (Grid.tileOrigin_of_lt atlas.sized present inside) left above (by decide) x y

section Voxels

open Culling (Inside placeOf placeOf_lt)

variable {α : Type} {cascade : Nat}

/-- There is a value for each voxel, and a word for the place of each. -/
structure Voxels.IsSupplied (v : Voxels α) : Prop where
  resolution : 2 ≤ v.layout.resolution
  cascades : 1 ≤ v.layout.cascades ∧ v.layout.cascades ≤ maxVoxelCascades
  sized : v.layout.size = .ok v.values.size
  words : v.values.size < 4294967296

theorem VoxelLayout.size_eq_ok {l : VoxelLayout α} {count : Nat} (sized : l.size = .ok count) :
    count = l.cascades * (l.resolution * l.resolution * l.resolution) := by
  rcases bind_eq_ok.mp sized with ⟨layer, squared, sized⟩
  rcases bind_eq_ok.mp sized with ⟨cube, cubed, sized⟩
  obtain ⟨rfl, -⟩ := Size.mul_eq_ok.mp squared
  obtain ⟨rfl, -⟩ := Size.mul_eq_ok.mp cubed
  rw [(Size.mul_eq_ok.mp sized).1, Nat.mul_comm]

theorem VoxelLayout.index_of_inside {l : VoxelLayout α} {voxel : Vec3 Nat}
    (present : cascade < l.cascades) (inside : Inside l.resolution voxel)
    (words : l.cascades * (l.resolution * l.resolution * l.resolution) ≤ 4294967296) :
    l.index cascade voxel =
      .ok (cascade * (l.resolution * l.resolution * l.resolution) + placeOf l.resolution voxel) ∧
    cascade * (l.resolution * l.resolution * l.resolution) + placeOf l.resolution voxel <
      l.cascades * (l.resolution * l.resolution * l.resolution) := by
  have upper := placeOf_lt inside
  have positive := Nat.zero_lt_of_lt inside.1
  have later : (cascade + 1) * (l.resolution * l.resolution * l.resolution) ≤
      l.cascades * (l.resolution * l.resolution * l.resolution) := Nat.mul_le_mul_right _ present
  rw [Nat.succ_mul] at later
  have own : placeOf l.resolution voxel =
      voxel.z * l.resolution * l.resolution + voxel.y * l.resolution + voxel.x := by
    rw [placeOf, Nat.add_mul]
  have before : cascade * (l.resolution * l.resolution * l.resolution) =
      cascade * l.resolution * l.resolution * l.resolution := by ring
  have planes : cascade * l.resolution * l.resolution ≤
      cascade * l.resolution * l.resolution * l.resolution := Nat.le_mul_of_pos_right _ positive
  have rows : cascade * l.resolution ≤ cascade * l.resolution * l.resolution :=
    Nat.le_mul_of_pos_right _ positive
  have layer : voxel.z * l.resolution ≤ voxel.z * l.resolution * l.resolution :=
    Nat.le_mul_of_pos_right _ positive
  constructor
  · refine bind_eq_ok.mpr ⟨_, Word.mul_eq_ok.mpr ⟨rfl, by omega⟩, ?_⟩
    refine bind_eq_ok.mpr ⟨_, Word.mul_eq_ok.mpr ⟨rfl, by omega⟩, ?_⟩
    refine bind_eq_ok.mpr ⟨_, Word.mul_eq_ok.mpr ⟨rfl, by omega⟩, ?_⟩
    refine bind_eq_ok.mpr ⟨_, Word.mul_eq_ok.mpr ⟨rfl, by omega⟩, ?_⟩
    refine bind_eq_ok.mpr ⟨_, Word.mul_eq_ok.mpr ⟨rfl, by omega⟩, ?_⟩
    refine bind_eq_ok.mpr ⟨_, Word.add_eq_ok.mpr ⟨rfl, by omega⟩, ?_⟩
    refine bind_eq_ok.mpr ⟨_, Word.mul_eq_ok.mpr ⟨rfl, by omega⟩, ?_⟩
    refine bind_eq_ok.mpr ⟨_, Word.add_eq_ok.mpr ⟨rfl, by omega⟩, ?_⟩
    exact Word.add_eq_ok.mpr ⟨by omega, by omega⟩
  · omega

namespace Voxels.IsSupplied

variable {v : Voxels α} (supplied : v.IsSupplied)

include supplied

theorem words_lt : v.layout.cascades *
    (v.layout.resolution * v.layout.resolution * v.layout.resolution) < 4294967296 := by
  rw [← VoxelLayout.size_eq_ok supplied.sized]
  exact supplied.words

theorem resolution_lt : v.layout.resolution < 4294967296 := by
  have some := Nat.zero_lt_of_lt supplied.resolution
  calc
    v.layout.resolution ≤ v.layout.resolution * v.layout.resolution :=
      Nat.le_mul_of_pos_right _ some
    _ ≤ v.layout.resolution * v.layout.resolution * v.layout.resolution :=
      Nat.le_mul_of_pos_right _ some
    _ ≤ v.layout.cascades * (v.layout.resolution * v.layout.resolution * v.layout.resolution) :=
      Nat.le_mul_of_pos_left _ supplied.cascades.1
    _ < 4294967296 := supplied.words_lt

theorem cube_ends (present : cascade < v.layout.cascades) :
    ∃ cube, v.layout.cube cascade = .ok cube :=
  ⟨_, dif_pos (present.trans_le supplied.cascades.2)⟩

theorem voxel_ends {voxel : Vec3 Nat} (present : cascade < v.layout.cascades)
    (inside : Inside v.layout.resolution voxel) : ∃ value, v.voxel cascade voxel = .ok value := by
  rcases VoxelLayout.index_of_inside present inside supplied.words_lt.le with ⟨indexed, within⟩
  rw [← VoxelLayout.size_eq_ok supplied.sized] at within
  rw [Voxels.voxel, indexed, ok_bind]
  exact fetch_of_lt within

variable [Scalar α]

theorem voxelSize_ends (present : cascade < v.layout.cascades) :
    ∃ size, v.layout.voxelSize cascade = .ok size :=
  bind_ends (supplied.cube_ends present) fun _ => ⟨_, rfl⟩

theorem contains_ends (present : cascade < v.layout.cascades) (pos : Vec3 α) :
    ∃ within, v.layout.contains cascade pos = .ok within :=
  bind_ends (supplied.voxelSize_ends present) fun _ =>
    bind_ends (supplied.cube_ends present) fun _ => ⟨_, rfl⟩

theorem firstContaining_ends (pos : Vec3 α) {first remaining : Nat}
    (few : first + remaining ≤ v.layout.cascades) :
    ∃ found, v.layout.firstContaining pos remaining first = .ok found ∧
      ∀ cascade, found = some cascade → cascade < v.layout.cascades := by
  induction remaining generalizing first with
  | zero => exact ⟨none, rfl, fun cascade none => nomatch none⟩
  | succ remaining ih =>
      rcases supplied.contains_ends (by omega : first < _) pos with ⟨within, tested⟩
      rw [VoxelLayout.firstContaining, tested, ok_bind]
      split
      · refine ⟨some first, rfl, ?_⟩
        rintro cascade ⟨rfl⟩
        omega
      · exact ih (by omega)

/-- The voxel that is read first is never one of the last ones of an axis, wherever the point is, so
that its neighbours are there as well. -/
theorem sampleCascade_ends (present : cascade < v.layout.cascades) (pos : Vec3 α) :
    ∃ distance, v.sampleCascade cascade pos = .ok distance := by
  have two := supplied.resolution
  have short := supplied.resolution_lt
  rcases supplied.voxelSize_ends present with ⟨voxelSize, measured⟩
  rcases supplied.cube_ends present with ⟨cube, placed⟩
  have last : Word.sub v.layout.resolution 1 = .ok (v.layout.resolution - 1) :=
    Word.sub_eq_ok.mpr ⟨rfl, by omega⟩
  have lastBase : Word.sub v.layout.resolution 2 = .ok (v.layout.resolution - 2) :=
    Word.sub_eq_ok.mpr ⟨rfl, two⟩
  have corners : ∀ (base : Vec3 Nat) (x y z : Nat), x ≤ 1 → y ≤ 1 → z ≤ 1 →
      ∃ value, ((base.map (min · (v.layout.resolution - 2))).zipWithM Word.add ⟨x, y, z⟩ >>=
        v.voxel cascade) = .ok value := by
    intro base x y z nearX nearY nearZ
    have moved : (base.map (min · (v.layout.resolution - 2))).zipWithM Word.add ⟨x, y, z⟩ =
        .ok ((base.map (min · (v.layout.resolution - 2))).zipWith (· + ·) ⟨x, y, z⟩) := by
      apply Vec3.zipWithM_add_of_lt
      all_goals
        simp only [Vec3.map]
        omega
    rw [moved, ok_bind]
    apply supplied.voxel_ends present
    simp only [Inside, Vec3.zipWith, Vec3.map]
    omega
  rw [sampleCascade, measured, ok_bind, placed, ok_bind, last, ok_bind, lastBase, ok_bind]
  dsimp only
  generalize @Vec3.toNat α _ _ = base
  apply bind_ends (corners base 0 0 0 (by decide) (by decide) (by decide))
  intro c000
  apply bind_ends (corners base 1 0 0 (by decide) (by decide) (by decide))
  intro c100
  apply bind_ends (corners base 0 1 0 (by decide) (by decide) (by decide))
  intro c010
  apply bind_ends (corners base 1 1 0 (by decide) (by decide) (by decide))
  intro c110
  apply bind_ends (corners base 0 0 1 (by decide) (by decide) (by decide))
  intro c001
  apply bind_ends (corners base 1 0 1 (by decide) (by decide) (by decide))
  intro c101
  apply bind_ends (corners base 0 1 1 (by decide) (by decide) (by decide))
  intro c011
  apply bind_ends (corners base 1 1 1 (by decide) (by decide) (by decide))
  intro c111
  exact ⟨_, rfl⟩

theorem sample_ends (pos : Vec3 α) : ∃ distance, v.sample pos = .ok distance := by
  rcases supplied.firstContaining_ends pos (Nat.zero_add _).le with ⟨found, ran, present⟩
  rw [sample, VoxelLayout.locate, ran, ok_bind]
  cases found with
  | some cascade => exact supplied.sampleCascade_ends (present cascade rfl) pos
  | none =>
      have last : Word.sub v.layout.cascades 1 = .ok (v.layout.cascades - 1) :=
        Word.sub_eq_ok.mpr ⟨rfl, supplied.cascades.1⟩
      have some := supplied.cascades.1
      rcases supplied.cube_ends (by omega : v.layout.cascades - 1 < _) with ⟨cube, placed⟩
      dsimp only
      rw [last, ok_bind, placed]
      exact ⟨_, rfl⟩

end Voxels.IsSupplied

end Voxels

section Chunks

open Culling (Inside placeOf placeOf_lt chunkAddress_of_lt)

variable {a : AtlasConstants Float32}

theorem AtlasConstants.chunkCoords_inside (some : 1 ≤ a.chunkResolution)
    (small : a.chunkResolution ≤ 2 ^ 24) (pos : Vec3 Float32) :
    ∃ chunk, a.chunkCoords pos = .ok chunk ∧ Inside a.chunkResolution chunk := by
  have last : Word.sub a.chunkResolution 1 = .ok (a.chunkResolution - 1) :=
    Word.sub_eq_ok.mpr ⟨rfl, some⟩
  have below : ∀ b : Float32, Scalar.toNat (Scalar.minNum (Scalar.maxNum b 0.0)
      (Scalar.ofNat (a.chunkResolution - 1))) < a.chunkResolution := by
    intro b
    have most := Binary32.toNat_confined_le (by omega : a.chunkResolution - 1 < 2 ^ 24) b
    omega
  rw [chunkCoords, last, ok_bind]
  exact ⟨_, rfl, below _, below _, below _⟩

theorem AtlasConstants.chunkAddress_lt_chunksCount (some : 1 ≤ a.chunkResolution)
    (small : a.chunkResolution ≤ 1625) (pos : Vec3 Float32) :
    ∃ chunk place count, a.chunkCoords pos = .ok chunk ∧ a.chunkAddress chunk = .ok place ∧
      a.chunksCount = .ok count ∧ place < count := by
  have words : a.chunkResolution * a.chunkResolution * a.chunkResolution < 4294967296 :=
    calc
      _ ≤ 1625 * 1625 * 1625 := Nat.mul_le_mul (Nat.mul_le_mul small small) small
      _ < 4294967296 := by decide
  have layer : a.chunkResolution * a.chunkResolution ≤
      a.chunkResolution * a.chunkResolution * a.chunkResolution := Nat.le_mul_of_pos_right _ some
  have counted : a.chunksCount =
      .ok (a.chunkResolution * a.chunkResolution * a.chunkResolution) :=
    bind_eq_ok.mpr ⟨_, Word.mul_eq_ok.mpr ⟨rfl, layer.trans_lt words⟩,
      Word.mul_eq_ok.mpr ⟨rfl, words⟩⟩
  rcases AtlasConstants.chunkCoords_inside some (by omega) pos with ⟨chunk, coords, inside⟩
  exact ⟨chunk, _, _, coords, chunkAddress_of_lt inside words, counted, placeOf_lt inside⟩

end Chunks

/-- Whatever a position, a normal and a bias are, undefined and infinite ones included, what is read
for them is there: the probes and the texels that a sampler reads, with a fault only at a cascade that
cannot be placed, the voxels of a distance field, and the chunk of a surface atlas. -/
theorem lookups_inside :
    (∀ s : Sampler Float32, s.IsSupplied → ∀ (pos normal : Vec3 Float32) (bias : Float32),
      (∃ light, s.sample pos normal bias = .ok light) ∨
        maxCascades < s.volume.grid.cascades ∧
          s.sample pos normal bias = .error (.indexOutOfBounds maxCascades maxCascades)) ∧
    (∀ v : Voxels Float32, v.IsSupplied → ∀ pos, ∃ distance, v.sample pos = .ok distance) ∧
    ∀ a : AtlasConstants Float32, 1 ≤ a.chunkResolution → a.chunkResolution ≤ 1625 → ∀ pos,
      ∃ chunk place count, a.chunkCoords pos = .ok chunk ∧ a.chunkAddress chunk = .ok place ∧
        a.chunksCount = .ok count ∧ place < count := by
  refine ⟨?_, ?_, ?_⟩
  · intro s supplied pos normal bias
    exact supplied.sample_ends supplied.finds pos normal bias
  · intro v supplied pos
    exact supplied.sample_ends pos
  · intro a some small pos
    exact AtlasConstants.chunkAddress_lt_chunksCount some small pos

section Undefined

def undefinedPoint : Vec3 Float32 := ⟨0.0 / 0.0, 1.0 / 0.0, -1.0 / 0.0⟩

def scrolledSampler : Sampler Float32 where
  volume := Volume.octet
  probes := .replicate 8 ⟨0, 131072⟩
  irradiance := ⟨.replicate 512 .zero, ⟨16, 32⟩⟩
  distance := ⟨.replicate 2048 .zero, ⟨32, 64⟩⟩

theorem scrolledSampler_isSupplied : scrolledSampler.IsSupplied := by
  constructor
  case counts => exact (by decide : 2 ≤ 2 ∧ 2 ≤ 2 ∧ 2 ≤ 2)
  case fits =>
    intro cascade present p placed
    obtain rfl : cascade = 0 := Nat.lt_one_iff.mp present
    obtain rfl := Except.ok.inj placed
    exact (by decide : Grid.Fits ⟨⟨2, 2, 2⟩, 1⟩ ⟨3, -1, 0⟩)
  case probes => simp [scrolledSampler, Volume.octet, Grid.size]
  case irradiance => exact ⟨rfl, by simp [scrolledSampler], by decide⟩
  case distance => exact ⟨rfl, by simp [scrolledSampler], by decide⟩

def voxelCube : Voxels Float32 where
  layout := ⟨.replicate _ ⟨⟨0.0, 0.0, 0.0⟩, 1.0⟩, 2, 1⟩
  values := .replicate 8 1.0

theorem voxelCube_isSupplied : voxelCube.IsSupplied := by
  constructor
  case resolution => exact (by decide : 2 ≤ 2)
  case cascades => exact (by decide : 1 ≤ 1 ∧ 1 ≤ maxVoxelCascades)
  case sized =>
    simp only [voxelCube, Array.size_replicate]
    rfl
  case words => simp [voxelCube]

def vastAtlas : AtlasConstants Float32 :=
  { (default : AtlasConstants Float32) with chunkResolution := 1625 }

/-- Something is read even where there is no position. -/
theorem lookups_inside_undefinedPoint :
    (∃ light, scrolledSampler.sample undefinedPoint undefinedPoint (0.0 / 0.0) = .ok light) ∧
    (∃ distance, voxelCube.sample undefinedPoint = .ok distance) ∧
    ∃ chunk place count,
      vastAtlas.chunkCoords undefinedPoint = .ok chunk ∧ vastAtlas.chunkAddress chunk = .ok place ∧
        vastAtlas.chunksCount = .ok count ∧ place < count := by
  rcases lookups_inside with ⟨probes, voxels, chunks⟩
  refine ⟨?_, ?_, ?_⟩
  · rcases probes _ scrolledSampler_isSupplied undefinedPoint undefinedPoint (0.0 / 0.0)
      with ends | ⟨many, -⟩
    · exact ends
    · exact absurd many (by decide)
  · exact voxels voxelCube voxelCube_isSupplied undefinedPoint
  · exact chunks vastAtlas (by decide) (by decide) undefinedPoint

end Undefined

end IrradianceField
