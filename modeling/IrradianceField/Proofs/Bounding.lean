import IrradianceField.Scalar.Real
import IrradianceField.Proofs.ChunkGrid
import IrradianceField.Atlas.Registry

/-!
Bounding: in exact arithmetic the sphere of an object holds its box, however the box is turned,
stretched or sheared, and a point lies in the chunk that is looked up for it.
-/

namespace IrradianceField

/-- The box of an object: what its map makes of the points no further out than its extent. -/
def ObjectDesc.Contains (d : ObjectDesc ℝ) (p : Vec3 ℝ) : Prop :=
  ∃ q : Vec3 ℝ, |q.x| ≤ d.extent.x ∧ |q.y| ≤ d.extent.y ∧ |q.z| ≤ d.extent.z ∧
    p = d.transform.point q

/-- Whether a point lies between two corners, on the sides of the box included. -/
def Between (bounds : Vec3 ℝ × Vec3 ℝ) (p : Vec3 ℝ) : Prop :=
  (bounds.1.x ≤ p.x ∧ p.x ≤ bounds.2.x) ∧ (bounds.1.y ≤ p.y ∧ p.y ≤ bounds.2.y) ∧
    (bounds.1.z ≤ p.z ∧ p.z ≤ bounds.2.z)

section Spheres

variable {bounds : Vec3 ℝ × Vec3 ℝ} {center p : Vec3 ℝ} {radius lo hi c a b x y z e : ℝ}

theorem sq_clamp_le (low : lo ≤ x) (high : x ≤ hi) : (min (max c lo) hi - c) ^ 2 ≤ (x - c) ^ 2 := by
  rcases le_total c lo with below | above
  · rw [max_eq_right below, min_eq_left (low.trans high)]
    exact pow_le_pow_left₀ (by linarith) (by linarith) 2
  · rw [max_eq_left above]
    rcases le_total c hi with inside | beyond
    · rw [min_eq_left inside, sub_self]
      nlinarith [sq_nonneg (x - c)]
    · rw [min_eq_right beyond, ← neg_sq (hi - c), ← neg_sq (x - c)]
      exact pow_le_pow_left₀ (by linarith) (by linarith) 2

theorem touches_of_between (inside : Between bounds p)
    (near : (p - center).dot (p - center) ≤ radius * radius) :
    sphereTouchesBox center radius bounds.1 bounds.2 = true := by
  obtain ⟨⟨lowX, highX⟩, ⟨lowY, highY⟩, ⟨lowZ, highZ⟩⟩ := inside
  have hx := sq_clamp_le (c := center.x) lowX highX
  have hy := sq_clamp_le (c := center.y) lowY highY
  have hz := sq_clamp_le (c := center.z) lowZ highZ
  simp only [Vec3.dot, Vec3.sub_eq] at near
  simp only [sphereTouchesBox, Vec3.distanceSquared, Vec3.confine, Vec3.zipWith, Vec3.dot,
    Vec3.sub_eq, Scalar.maxNum_real, Scalar.minNum_real, Scalar.le_real, decide_eq_true_eq]
  nlinarith

theorem exists_sign_le (a b : ℝ) (upwards : 0 ≤ a) (small : |x| ≤ e) :
    ∃ s : ℝ, (s = -1 ∨ s = 1) ∧ a * x ^ 2 + b * x ≤ a * (s * e) ^ 2 + b * (s * e) := by
  obtain ⟨low, high⟩ := abs_le.mp small
  have square : a * x ^ 2 ≤ a * e ^ 2 := mul_le_mul_of_nonneg_left (sq_le_sq' low high) upwards
  rcases le_total 0 b with rising | falling
  · have linear : b * x ≤ b * e := mul_le_mul_of_nonneg_left high rising
    refine ⟨1, .inr rfl, ?_⟩
    rw [one_mul]
    exact add_le_add square linear
  · have linear : b * x ≤ b * -e := mul_le_mul_of_nonpos_left low falling
    refine ⟨-1, .inl rfl, ?_⟩
    rw [neg_one_mul, neg_sq]
    exact add_le_add square linear

theorem exists_sign_dot_le (u w : Vec3 ℝ) (small : |x| ≤ e) :
    ∃ s : ℝ, (s = -1 ∨ s = 1) ∧ (u.scale x + w).dot (u.scale x + w) ≤
      (u.scale (s * e) + w).dot (u.scale (s * e) + w) := by
  have squares : 0 ≤ u.x ^ 2 + u.y ^ 2 + u.z ^ 2 := by positivity
  obtain ⟨s, sign, above⟩ := exists_sign_le _ (2 * (u.x * w.x + u.y * w.y + u.z * w.z)) squares small
  refine ⟨s, sign, ?_⟩
  simp only [Vec3.dot, Vec3.add_eq, Vec3.scale_eq]
  linarith

end Spheres

namespace ObjectDesc

variable {d : ObjectDesc ℝ} {p q : Vec3 ℝ}

theorem exists_cornerSigns {sx sy sz : ℝ} (hx : sx = -1 ∨ sx = 1) (hy : sy = -1 ∨ sy = 1)
    (hz : sz = -1 ∨ sz = 1) : ∃ i < 8, (cornerSigns i : Vec3 ℝ) = ⟨sx, sy, sz⟩ := by
  rcases hx with rfl | rfl <;> rcases hy with rfl | rfl <;> rcases hz with rfl | rfl
  · exact ⟨0, by decide, by simp [cornerSigns]⟩
  · exact ⟨4, by decide, by simp [cornerSigns]⟩
  · exact ⟨2, by decide, by simp [cornerSigns]⟩
  · exact ⟨6, by decide, by simp [cornerSigns]⟩
  · exact ⟨1, by decide, by simp [cornerSigns]⟩
  · exact ⟨5, by decide, by simp [cornerSigns]⟩
  · exact ⟨3, by decide, by simp [cornerSigns]⟩
  · exact ⟨7, by decide, by simp [cornerSigns]⟩

/-- Some corner of a box is at least as far out as any of its points: the point is pushed to a side of
the box along one axis after the other. -/
theorem exists_corner (t : Affine ℝ) {e : Vec3 ℝ} (hx : |q.x| ≤ e.x) (hy : |q.y| ≤ e.y)
    (hz : |q.z| ≤ e.z) : ∃ i < 8, (t.vector q).dot (t.vector q) ≤
      (t.vector (cornerSigns i * e)).dot (t.vector (cornerSigns i * e)) := by
  obtain ⟨sx, signX, alongX⟩ :=
    exists_sign_dot_le t.xAxis (t.yAxis.scale q.y + t.zAxis.scale q.z) hx
  obtain ⟨sy, signY, alongY⟩ :=
    exists_sign_dot_le t.yAxis (t.xAxis.scale (sx * e.x) + t.zAxis.scale q.z) hy
  obtain ⟨sz, signZ, alongZ⟩ :=
    exists_sign_dot_le t.zAxis (t.xAxis.scale (sx * e.x) + t.yAxis.scale (sy * e.y)) hz
  obtain ⟨i, below, signs⟩ := exists_cornerSigns signX signY signZ
  refine ⟨i, below, ?_⟩
  rw [signs]
  simp only [Affine.vector, Vec3.dot, Vec3.add_eq, Vec3.scale_eq, Vec3.mul_eq] at *
  linarith

theorem le_foldl_max (f : Nat → ℝ) (l : List Nat) (r : ℝ) :
    r ≤ l.foldl (fun r i => max r (f i)) r ∧
      ∀ i ∈ l, f i ≤ l.foldl (fun r i => max r (f i)) r := by
  induction l generalizing r with
  | nil => simp
  | cons i rest ih =>
      obtain ⟨start, each⟩ := ih (max r (f i))
      rw [List.foldl_cons, List.forall_mem_cons]
      exact ⟨(le_max_left _ _).trans start, (le_max_right _ _).trans start, each⟩

theorem Contains.near (inside : d.Contains p) :
    (p - d.boundingSphere.xyz).dot (p - d.boundingSphere.xyz) ≤
      d.boundingSphere.w * d.boundingSphere.w := by
  obtain ⟨q, hx, hy, hz, rfl⟩ := inside
  obtain ⟨i, below, further⟩ := exists_corner d.transform hx hy hz
  have moved : d.transform.point q - d.boundingSphere.xyz = d.transform.vector q := by
    simp [Affine.point, boundingSphere, Vec3.extend, Vec4.xyz, Vec3.sub_eq, Vec3.add_eq]
  have corner : (d.transform.vector (cornerSigns i * d.extent)).length ≤ d.boundingSphere.w := by
    have all := (le_foldl_max
      (fun i => (d.transform.vector (cornerSigns i * d.extent)).length) (List.range 8) 0).2
    simpa [boundingSphere, Vec3.extend] using all i (List.mem_range.mpr below)
  rw [moved]
  calc (d.transform.vector q).dot (d.transform.vector q)
      ≤ (d.transform.vector (cornerSigns i * d.extent)).dot
          (d.transform.vector (cornerSigns i * d.extent)) := further
    _ = (d.transform.vector (cornerSigns i * d.extent)).length *
          (d.transform.vector (cornerSigns i * d.extent)).length := by
      rw [Vec3.length, Scalar.sqrt_real]
      refine (Real.mul_self_sqrt ?_).symm
      exact add_nonneg (add_nonneg (mul_self_nonneg _) (mul_self_nonneg _)) (mul_self_nonneg _)
    _ ≤ d.boundingSphere.w * d.boundingSphere.w := by
      apply mul_self_le_mul_self _ corner
      rw [Vec3.length, Scalar.sqrt_real]
      exact Real.sqrt_nonneg _

end ObjectDesc

namespace AtlasConstants

open Culling

variable {a : AtlasConstants ℝ} {p : Vec3 ℝ} {chunk : Vec3 Nat}

/-- Whether a point lies in the cube of chunks around the view, on its faces included. -/
def Covers (a : AtlasConstants ℝ) (p : Vec3 ℝ) : Prop :=
  |p.x - a.viewPos.x| ≤ a.chunkResolution / 2 * a.chunkSize ∧
    |p.y - a.viewPos.y| ≤ a.chunkResolution / 2 * a.chunkSize ∧
    |p.z - a.viewPos.z| ≤ a.chunkResolution / 2 * a.chunkSize

/-- Whether a coordinate lies in `size` chunks along an axis, from the `first` one on. -/
def Spans (a : AtlasConstants ℝ) (first size : Nat) (view x : ℝ) : Prop :=
  first * a.chunkSize ≤ x - view + a.chunkResolution / 2 * a.chunkSize ∧
    x - view + a.chunkResolution / 2 * a.chunkSize ≤ (first + size) * a.chunkSize

theorem between_chunksBounds {size : Nat} : Between (a.chunksBounds chunk size) p ↔
    a.Spans chunk.x size a.viewPos.x p.x ∧ a.Spans chunk.y size a.viewPos.y p.y ∧
      a.Spans chunk.z size a.viewPos.z p.z := by
  have axis : ∀ (first : Nat) (view x : ℝ),
      (view - a.chunkResolution * (1 / 2) * a.chunkSize + first * a.chunkSize ≤ x ∧
        x ≤ view - a.chunkResolution * (1 / 2) * a.chunkSize + first * a.chunkSize +
          size * a.chunkSize) ↔ a.Spans first size view x := by
    intro first view x
    constructor
    · rintro ⟨low, high⟩
      exact ⟨by linarith, by linarith⟩
    · rintro ⟨low, high⟩
      exact ⟨by linarith, by linarith⟩
  simp only [Between, chunksBounds, Vec3.sub_eq, Vec3.add_eq, Vec3.scale_eq, Vec3.splat, Vec3.ofNat,
    Vec3.map, Scalar.ofNat_real, Scalar.real_half, axis]

theorem Spans.block {first : Nat} {view x : ℝ} (positive : 0 < a.chunkSize)
    (spans : a.Spans first 1 view x) : a.Spans (first / 4 * 4) 4 view x := by
  obtain ⟨low, high⟩ := spans
  have below : ((first / 4 * 4 : Nat) : ℝ) ≤ first := by exact_mod_cast Nat.div_mul_le_self first 4
  have above : ((first + 1 : Nat) : ℝ) ≤ (first / 4 * 4 + 4 : Nat) := by
    exact_mod_cast (by omega : first + 1 ≤ first / 4 * 4 + 4)
  push_cast at above
  constructor
  · calc ((first / 4 * 4 : Nat) : ℝ) * a.chunkSize
        ≤ first * a.chunkSize := mul_le_mul_of_nonneg_right below positive.le
      _ ≤ _ := low
  · calc x - view + a.chunkResolution / 2 * a.chunkSize
        ≤ (first + 1) * a.chunkSize := by exact_mod_cast high
      _ ≤ _ := mul_le_mul_of_nonneg_right (by push_cast; linarith) positive.le

/-- The chunk that is looked up along an axis, the last one for the far face. -/
noncomputable def chunkAt (a : AtlasConstants ℝ) (view x : ℝ) : Nat :=
  min ⌊(x - view) / a.chunkSize + a.chunkResolution / 2⌋₊ (a.chunkResolution - 1)

theorem spans_chunkAt {view x : ℝ} (positive : 0 < a.chunkSize) (counted : 0 < a.chunkResolution)
    (covered : |x - view| ≤ a.chunkResolution / 2 * a.chunkSize) :
    a.Spans (a.chunkAt view x) 1 view x := by
  obtain ⟨low, high⟩ := abs_le.mp covered
  have place : (x - view) / a.chunkSize * a.chunkSize = x - view := div_mul_cancel₀ _ positive.ne'
  have start : 0 ≤ (x - view) / a.chunkSize + a.chunkResolution / 2 := by
    refine nonneg_of_mul_nonneg_left ?_ positive
    linarith
  have ends : (x - view) / a.chunkSize + a.chunkResolution / 2 ≤ a.chunkResolution := by
    refine le_of_mul_le_mul_right ?_ positive
    linarith
  have below : (a.chunkAt view x : ℝ) ≤ (x - view) / a.chunkSize + a.chunkResolution / 2 := by
    refine le_trans ?_ (Nat.floor_le start)
    exact_mod_cast min_le_left _ _
  have above : (x - view) / a.chunkSize + a.chunkResolution / 2 ≤ a.chunkAt view x + 1 := by
    rw [chunkAt]
    rcases le_total ⌊(x - view) / a.chunkSize + a.chunkResolution / 2⌋₊ (a.chunkResolution - 1) with
      inside | beyond
    · rw [min_eq_left inside]
      exact (Nat.lt_floor_add_one _).le
    · rw [min_eq_right beyond]
      have last : ((a.chunkResolution - 1 : Nat) : ℝ) + 1 = a.chunkResolution := by
        exact_mod_cast Nat.sub_add_cancel counted
      rwa [last]
  constructor
  · have scaled := mul_le_mul_of_nonneg_right below positive.le
    linarith
  · have scaled := mul_le_mul_of_nonneg_right above positive.le
    push_cast
    linarith

theorem chunkAt_lt (counted : 0 < a.chunkResolution) (view x : ℝ) :
    a.chunkAt view x < a.chunkResolution :=
  (min_le_right _ _).trans_lt (Nat.sub_lt counted Nat.one_pos)

theorem toNat_confine {u : ℝ} {n : Nat} (short : n < 4294967296) :
    Scalar.toNat (min (max (⌊u⌋ : ℝ) 0) n) = min ⌊u⌋₊ n := by
  have raised : max (⌊u⌋ : ℝ) 0 = (⌊u⌋₊ : ℝ) := by
    have cut : ((⌊u⌋₊ : Nat) : ℤ) = max ⌊u⌋ 0 := by rw [← Int.floor_toNat, Int.ofNat_toNat]
    exact_mod_cast congrArg (Int.cast : ℤ → ℝ) cut.symm
  rw [raised, ← Nat.cast_min, Scalar.toNat_ofNat_real]
  exact (min_le_right _ _).trans_lt short

theorem chunkCoords_eq (counted : 0 < a.chunkResolution) (short : a.chunkResolution < 4294967296) :
    a.chunkCoords p = .ok ⟨a.chunkAt a.viewPos.x p.x, a.chunkAt a.viewPos.y p.y,
      a.chunkAt a.viewPos.z p.z⟩ := by
  have last : Word.sub a.chunkResolution 1 = .ok (a.chunkResolution - 1) :=
    Word.sub_eq_ok.mpr ⟨rfl, counted⟩
  have axis : ∀ view x : ℝ, Scalar.toNat (min (max
      (⌊(x - view) / a.chunkSize + a.chunkResolution * (1 / 2)⌋ : ℝ) 0)
      ((a.chunkResolution - 1 : Nat) : ℝ)) = a.chunkAt view x := by
    intro view x
    rw [toNat_confine (by omega), mul_one_div]
    rfl
  rw [chunkCoords, last, ok_bind, pure_eq_ok]
  simp only [Vec3.floor, Vec3.confine, Vec3.toNat, Vec3.map, Vec3.zipWith, Vec3.shift_eq,
    Vec3.divide_eq, Vec3.sub_eq, Vec3.zero, Vec3.splat, Scalar.maxNum_real, Scalar.minNum_real,
    Scalar.floor_real, Scalar.ofNat_real, Scalar.real_half, Scalar.real_zero, axis]

theorem chunkCoords_of_covers (positive : 0 < a.chunkSize) (counted : 0 < a.chunkResolution)
    (short : a.chunkResolution < 4294967296) (covered : a.Covers p) :
    ∃ chunk, a.chunkCoords p = .ok chunk ∧ Inside a.chunkResolution chunk ∧
      Between (a.chunksBounds chunk 1) p ∧
      Between (a.chunksBounds ((groupOf chunk).map (· * blockSide)) blockSide) p := by
  have below := chunkAt_lt counted
  obtain ⟨coveredX, coveredY, coveredZ⟩ := covered
  have spansX := spans_chunkAt positive counted coveredX
  have spansY := spans_chunkAt positive counted coveredY
  have spansZ := spans_chunkAt positive counted coveredZ
  refine ⟨_, chunkCoords_eq counted short, ⟨below _ _, below _ _, below _ _⟩, ?_, ?_⟩
  · exact between_chunksBounds.mpr ⟨spansX, spansY, spansZ⟩
  · exact between_chunksBounds.mpr
      ⟨spansX.block positive, spansY.block positive, spansZ.block positive⟩

end AtlasConstants

end IrradianceField
