import IrradianceField.Proofs.Checked
import IrradianceField.Scalar.Binary32
import IrradianceField.Volume.Basic

/-!
Addressing without its checks: where the probes of a grid are stored, and that scrolling never
brings two of them to the same slot or two tiles to the same texel.
-/

namespace IrradianceField

namespace Grid

def size (g : Grid) : Nat := g.counts.x * g.counts.y * g.counts.z

def Contains (g : Grid) (c : Vec3 Nat) : Prop :=
  c.x < g.counts.x ∧ c.y < g.counts.y ∧ c.z < g.counts.z

def coordsAt (g : Grid) (index : Nat) : Vec3 Nat :=
  ⟨index % g.counts.x, index / (g.counts.x * g.counts.z), index / g.counts.x % g.counts.z⟩

def indexAt (g : Grid) (c : Vec3 Nat) : Nat :=
  c.y * (g.counts.x * g.counts.z) + c.z * g.counts.x + c.x

def wrapAxis (count : Nat) (scroll : Int) (coord : Nat) : Nat :=
  ((coord + scroll) % count).toNat

def wrapAt (g : Grid) (scroll : Vec3 Int) (c : Vec3 Nat) : Vec3 Nat :=
  ⟨wrapAxis g.counts.x scroll.x c.x, wrapAxis g.counts.y scroll.y c.y,
    wrapAxis g.counts.z scroll.z c.z⟩

def slotAt (g : Grid) (scroll : Vec3 Int) (index : Nat) : Nat :=
  g.indexAt (g.wrapAt scroll (g.coordsAt index))

/-- The scrolling of an axis stays within the signed words, the number of its probes included. -/
def AxisFits (count : Nat) (scroll : Int) : Prop :=
  count < 2147483648 ∧ ∀ coord < count,
    -2147483648 ≤ coord + scroll ∧ coord + scroll + count < 2147483648 ∧
      (coord + scroll + count).tmod count + count < 2147483648

/-- No step of the wrapping of coordinates overflows. -/
def Fits (g : Grid) (scroll : Vec3 Int) : Prop :=
  AxisFits g.counts.x scroll.x ∧ AxisFits g.counts.y scroll.y ∧ AxisFits g.counts.z scroll.z

/-- The counts of probes are their own signed words. -/
def IsSmall (g : Grid) : Prop :=
  g.counts.x < 2147483648 ∧ g.counts.y < 2147483648 ∧ g.counts.z < 2147483648

instance {count : Nat} {scroll : Int} : Decidable (AxisFits count scroll) :=
  inferInstanceAs (Decidable (_ ∧ _))

instance {g : Grid} {scroll : Vec3 Int} : Decidable (g.Fits scroll) :=
  inferInstanceAs (Decidable (_ ∧ _ ∧ _))

theorem Fits.isSmall {g : Grid} {scroll : Vec3 Int} (fits : g.Fits scroll) : g.IsSmall :=
  ⟨fits.1.1, fits.2.1.1, fits.2.2.1⟩

variable {g : Grid} {scroll : Vec3 Int} {c : Vec3 Nat} {index : Nat}

theorem counts_pos_of_lt_size (inside : index < g.size) :
    0 < g.counts.x ∧ 0 < g.counts.y ∧ 0 < g.counts.z := by
  have positive : 0 < g.size := Nat.zero_lt_of_lt inside
  unfold size at positive
  have hxy : 0 < g.counts.x * g.counts.y := Nat.pos_of_mul_pos_right positive
  exact ⟨Nat.pos_of_mul_pos_right hxy, Nat.pos_of_mul_pos_left hxy,
    Nat.pos_of_mul_pos_left positive⟩

theorem counts_le_size (some : 0 < g.size) :
    g.counts.x ≤ g.size ∧ g.counts.y ≤ g.size ∧ g.counts.z ≤ g.size := by
  obtain ⟨hx, hy, hz⟩ := counts_pos_of_lt_size some
  have plane : g.counts.x * g.counts.y ≤ g.size := Nat.le_mul_of_pos_right _ hz
  exact ⟨(Nat.le_mul_of_pos_right _ hy).trans plane, (Nat.le_mul_of_pos_left _ hx).trans plane,
    Nat.le_mul_of_pos_left _ (Nat.mul_pos hx hy)⟩

theorem coordsAt_contained (inside : index < g.size) : g.Contains (g.coordsAt index) := by
  obtain ⟨hx, hy, hz⟩ := counts_pos_of_lt_size inside
  refine ⟨Nat.mod_lt _ hx, ?_, Nat.mod_lt _ hz⟩
  apply (Nat.div_lt_iff_lt_mul (Nat.mul_pos hx hz)).mpr
  calc
    index < g.counts.x * g.counts.y * g.counts.z := inside
    _ = g.counts.y * (g.counts.x * g.counts.z) := by ring

theorem indexAt_coordsAt (g : Grid) (index : Nat) : g.indexAt (g.coordsAt index) = index := by
  have rows : index / (g.counts.x * g.counts.z) = index / g.counts.x / g.counts.z :=
    (Nat.div_div_eq_div_mul _ _ _).symm
  calc
    g.indexAt (g.coordsAt index) =
        (index / g.counts.x / g.counts.z * g.counts.z + index / g.counts.x % g.counts.z) *
          g.counts.x + index % g.counts.x := by
      simp only [indexAt, coordsAt, rows]
      ring
    _ = index := by rw [Nat.div_add_mod', Nat.div_add_mod']

theorem indexAt_div_row (inside : g.Contains c) :
    g.indexAt c / g.counts.x = c.y * g.counts.z + c.z := by
  have row : g.indexAt c = c.x + (c.y * g.counts.z + c.z) * g.counts.x := by
    unfold indexAt
    ring
  rw [row, Nat.add_mul_div_right _ _ (Nat.zero_lt_of_lt inside.1), Nat.div_eq_of_lt inside.1,
    Nat.zero_add]

theorem indexAt_mod_row (inside : g.Contains c) : g.indexAt c % g.counts.x = c.x := by
  have row : g.indexAt c = c.x + (c.y * g.counts.z + c.z) * g.counts.x := by
    unfold indexAt
    ring
  rw [row, Nat.add_mul_mod_self_right, Nat.mod_eq_of_lt inside.1]

theorem coordsAt_indexAt (inside : g.Contains c) : g.coordsAt (g.indexAt c) = c := by
  obtain ⟨x, y, z⟩ := c
  have hz : 0 < g.counts.z := Nat.zero_lt_of_lt inside.2.2
  have plane : (y * g.counts.z + z) / g.counts.z = y := by
    rw [Nat.add_comm, Nat.add_mul_div_right _ _ hz, Nat.div_eq_of_lt inside.2.2, Nat.zero_add]
  have row : (y * g.counts.z + z) % g.counts.z = z := by
    rw [Nat.add_comm, Nat.add_mul_mod_self_right, Nat.mod_eq_of_lt inside.2.2]
  simp only [coordsAt, ← Nat.div_div_eq_div_mul, indexAt_div_row inside, indexAt_mod_row inside,
    plane, row]

theorem indexAt_lt (inside : g.Contains c) : g.indexAt c < g.size := by
  have hz : c.y * g.counts.z + c.z < g.counts.y * g.counts.z := by
    calc
      c.y * g.counts.z + c.z < (c.y + 1) * g.counts.z := by
        rw [Nat.succ_mul]
        exact Nat.add_lt_add_left inside.2.2 _
      _ ≤ g.counts.y * g.counts.z := Nat.mul_le_mul_right _ inside.2.1
  calc
    g.indexAt c < (c.y * g.counts.z + c.z + 1) * g.counts.x := by
      have := inside.1
      unfold indexAt
      nlinarith
    _ ≤ g.counts.y * g.counts.z * g.counts.x := Nat.mul_le_mul_right _ hz
    _ = g.size := by
      unfold size
      ring

theorem wrapAxis_lt {count coord : Nat} {scroll : Int} (positive : 0 < count) :
    wrapAxis count scroll coord < count := by
  have low := Int.emod_nonneg (coord + scroll) (by omega : (count : Int) ≠ 0)
  have high := Int.emod_lt_of_pos (coord + scroll) (by omega : (0 : Int) < count)
  unfold wrapAxis
  omega

theorem wrapAxis_inj {count a b : Nat} {scroll : Int} (ha : a < count) (hb : b < count)
    (same : wrapAxis count scroll a = wrapAxis count scroll b) : a = b := by
  have nonzero : (count : Int) ≠ 0 := by omega
  have lowA := Int.emod_nonneg (a + scroll) nonzero
  have lowB := Int.emod_nonneg (b + scroll) nonzero
  have residues : ((a : Int) + scroll) % count = (b + scroll) % count := by
    unfold wrapAxis at same
    omega
  have shifted : (a : Int) % count = b % count := Int.emod_add_cancel_right scroll |>.mp residues
  rw [Int.emod_eq_of_lt (by omega) (by omega), Int.emod_eq_of_lt (by omega) (by omega)] at shifted
  exact_mod_cast shifted

theorem wrapAxis_congr {count a b : Nat} {scroll scroll' : Int}
    (same : scroll + a = scroll' + b) : wrapAxis count scroll a = wrapAxis count scroll' b := by
  rw [wrapAxis, wrapAxis, Int.add_comm, same, Int.add_comm]

theorem wrapAt_contained (inside : g.Contains c) : g.Contains (g.wrapAt scroll c) :=
  ⟨wrapAxis_lt (Nat.zero_lt_of_lt inside.1), wrapAxis_lt (Nat.zero_lt_of_lt inside.2.1),
    wrapAxis_lt (Nat.zero_lt_of_lt inside.2.2)⟩

theorem wrapAt_inj {d : Vec3 Nat} (hc : g.Contains c) (hd : g.Contains d)
    (same : g.wrapAt scroll c = g.wrapAt scroll d) : c = d := by
  obtain ⟨x, y, z⟩ := c
  obtain ⟨x', y', z'⟩ := d
  simp only [wrapAt, Vec3.mk.injEq] at same ⊢
  exact ⟨wrapAxis_inj hc.1 hd.1 same.1, wrapAxis_inj hc.2.1 hd.2.1 same.2.1,
    wrapAxis_inj hc.2.2 hd.2.2 same.2.2⟩

theorem slotAt_lt (inside : index < g.size) : g.slotAt scroll index < g.size :=
  indexAt_lt (wrapAt_contained (coordsAt_contained inside))

theorem slotAt_inj {i j : Nat} (hi : i < g.size) (hj : j < g.size)
    (same : g.slotAt scroll i = g.slotAt scroll j) : i = j := by
  have coordsI := coordsAt_contained hi
  have coordsJ := coordsAt_contained hj
  have wrapped : g.wrapAt scroll (g.coordsAt i) = g.wrapAt scroll (g.coordsAt j) := by
    rw [← coordsAt_indexAt (wrapAt_contained coordsI), ← coordsAt_indexAt (wrapAt_contained coordsJ)]
    exact congrArg g.coordsAt same
  rw [← indexAt_coordsAt g i, wrapAt_inj coordsI coordsJ wrapped, indexAt_coordsAt]

section Checks

theorem probesPerCascade_eq_ok {probes : Nat} :
    g.probesPerCascade = .ok probes ↔
      probes = g.size ∧ g.counts.x * g.counts.y < 4294967296 ∧ g.size < 4294967296 := by
  simp only [probesPerCascade, bind_eq_ok, Word.mul_eq_ok, size]
  constructor
  · rintro ⟨_, ⟨rfl, plane⟩, rfl, all⟩
    exact ⟨rfl, plane, all⟩
  · rintro ⟨rfl, plane, all⟩
    exact ⟨_, ⟨rfl, plane⟩, rfl, all⟩

theorem probeCoords_eq_ok :
    g.probeCoords index = .ok c ↔
      c = g.coordsAt index ∧ g.counts.x * g.counts.z < 4294967296 ∧
        0 < g.counts.x ∧ 0 < g.counts.z := by
  simp only [probeCoords, bind_eq_ok, Word.mul_eq_ok, Word.rem_eq_ok, Word.div_eq_ok, pure_eq_ok,
    Except.ok.injEq, coordsAt]
  constructor
  · rintro ⟨_, ⟨rfl, plane⟩, _, ⟨rfl, hx⟩, _, ⟨rfl, -⟩, _, ⟨rfl, -⟩, _, ⟨rfl, hz⟩, rfl⟩
    exact ⟨rfl, plane, hx, hz⟩
  · rintro ⟨rfl, plane, hx, hz⟩
    exact ⟨_, ⟨rfl, plane⟩, _, ⟨rfl, hx⟩, _, ⟨rfl, Nat.mul_pos hx hz⟩, _, ⟨rfl, hx⟩, _,
      ⟨rfl, hz⟩, rfl⟩

theorem plane_le_size (inside : index < g.size) : g.counts.x * g.counts.z ≤ g.size := by
  obtain ⟨hx, hy, hz⟩ := counts_pos_of_lt_size inside
  calc
    g.counts.x * g.counts.z = g.counts.x * 1 * g.counts.z := by ring
    _ ≤ g.size := Nat.mul_le_mul_right _ (Nat.mul_le_mul_left _ hy)

theorem probeCoords_of_lt (words : g.size < 4294967296) (inside : index < g.size) :
    g.probeCoords index = .ok (g.coordsAt index) := by
  obtain ⟨hx, -, hz⟩ := counts_pos_of_lt_size inside
  exact probeCoords_eq_ok.mpr ⟨rfl, lt_of_le_of_lt (plane_le_size inside) words, hx, hz⟩

theorem probeIndex_eq_ok {probe : Nat} (ran : g.probeIndex c = .ok probe) :
    probe = g.indexAt c := by
  simp only [probeIndex, bind_eq_ok, Word.mul_eq_ok, Word.add_eq_ok] at ran
  obtain ⟨_, ⟨rfl, -⟩, _, ⟨rfl, -⟩, _, ⟨rfl, -⟩, _, ⟨rfl, -⟩, rfl, -⟩ := ran
  rfl

theorem probeIndex_of_contained (words : g.size < 4294967296) (inside : g.Contains c) :
    g.probeIndex c = .ok (g.indexAt c) := by
  have below := indexAt_lt inside
  have plane := plane_le_size below
  simp only [indexAt] at below
  simp only [probeIndex, bind_eq_ok, Word.mul_eq_ok, Word.add_eq_ok]
  exact ⟨_, ⟨rfl, by omega⟩, _, ⟨rfl, by omega⟩, _, ⟨rfl, by omega⟩, _, ⟨rfl, by omega⟩, rfl,
    by omega⟩

/-- Adding the count before each remainder makes it the residue, even of a negative number. -/
theorem raised_residue {count : Nat} (positive : 0 < count) (a : Int) :
    ((a + count).tmod count + count).tmod count = a % count := by
  have low : -(count : Int) < (a + count).tmod count := Int.lt_tmod_of_pos _ (by omega)
  rw [Int.tmod_eq_emod_of_nonneg (by omega), Int.tmod_def]
  calc
    (a + count - count * (a + count).tdiv count + count) % (count : Int) =
        (a + count * (2 - (a + count).tdiv count)) % count := by ring_nf
    _ = a % count := Int.add_mul_emod_self_left ..

theorem raised_residue_lt {count : Nat} (positive : 0 < count) (small : count < 2147483648)
    (a : Int) : SignedWord.toWord (((a + count).tmod count + count).tmod count) < count := by
  have low := Int.emod_nonneg a (by omega : (count : Int) ≠ 0)
  have high := Int.emod_lt_of_pos a (by omega : (0 : Int) < count)
  rw [raised_residue positive, SignedWord.toWord_of_nonneg low (by omega)]
  omega

theorem wrapAxis_eq {count coord : Nat} {scroll : Int} (inside : coord < count)
    (small : count < 2147483648) :
    SignedWord.toWord (((coord + scroll + count).tmod count + count).tmod count) =
      wrapAxis count scroll coord := by
  have positive : 0 < count := Nat.zero_lt_of_lt inside
  have low := Int.emod_nonneg (coord + scroll) (by omega : (count : Int) ≠ 0)
  have high := Int.emod_lt_of_pos (coord + scroll) (by omega : (0 : Int) < count)
  rw [raised_residue positive, SignedWord.toWord_of_nonneg low (by omega), wrapAxis]

theorem wrappedCoords_eq_ok {w : Vec3 Nat} (small : g.IsSmall) (inside : g.Contains c)
    (ran : g.wrappedCoords scroll c = .ok w) : w = g.wrapAt scroll c := by
  obtain ⟨hx, hy, hz⟩ := inside
  obtain ⟨sx, sy, sz⟩ := small
  simp only [wrappedCoords, Vec3.map, bind_eq_ok, Vec3.zipWithM_eq_ok, SignedWord.add_eq_ok,
    SignedWord.rem_eq_ok, pure_eq_ok, Except.ok.injEq] at ran
  obtain ⟨a, ⟨⟨ax, -⟩, ⟨ay, -⟩, az, -⟩, b, ⟨⟨bx, -⟩, ⟨by', -⟩, bz, -⟩, d,
    ⟨⟨dx, -⟩, ⟨dy, -⟩, dz, -⟩, e, ⟨⟨ex, -⟩, ⟨ey, -⟩, ez, -⟩, f, ⟨⟨fx, -⟩, ⟨fy, -⟩, fz, -⟩,
    rfl⟩ := ran
  rw [Word.toSigned_of_lt sx] at bx dx ex fx
  rw [Word.toSigned_of_lt sy] at by' dy ey fy
  rw [Word.toSigned_of_lt sz] at bz dz ez fz
  rw [Word.toSigned_of_lt (hx.trans sx)] at ax
  rw [Word.toSigned_of_lt (hy.trans sy)] at ay
  rw [Word.toSigned_of_lt (hz.trans sz)] at az
  simp only [wrapAt, Vec3.mk.injEq]
  refine ⟨?_, ?_, ?_⟩
  · rw [fx, ex, dx, bx, ax, wrapAxis_eq hx sx]
  · rw [fy, ey, dy, by', ay, wrapAxis_eq hy sy]
  · rw [fz, ez, dz, bz, az, wrapAxis_eq hz sz]

theorem size_pos_of_wrappedCoords {w : Vec3 Nat} (ran : g.wrappedCoords scroll c = .ok w) :
    0 < g.size := by
  have positive : ∀ {count : Nat}, Word.toSigned count ≠ 0 → 0 < count :=
    fun some => Nat.pos_of_ne_zero fun none => some (none ▸ rfl)
  simp only [wrappedCoords, Vec3.map, bind_eq_ok, Vec3.zipWithM_eq_ok, SignedWord.rem_eq_ok] at ran
  obtain ⟨_, -, _, -, _, ⟨⟨-, hx, -⟩, ⟨-, hy, -⟩, -, hz, -⟩, -⟩ := ran
  exact Nat.mul_pos (Nat.mul_pos (positive hx) (positive hy)) (positive hz)

theorem wrappedCoords_contained {w : Vec3 Nat} (small : g.IsSmall)
    (ran : g.wrappedCoords scroll c = .ok w) : g.Contains w := by
  obtain ⟨hx, hy, hz⟩ := counts_pos_of_lt_size (size_pos_of_wrappedCoords ran)
  obtain ⟨sx, sy, sz⟩ := small
  simp only [wrappedCoords, Vec3.map, bind_eq_ok, Vec3.zipWithM_eq_ok, SignedWord.add_eq_ok,
    SignedWord.rem_eq_ok, pure_eq_ok, Except.ok.injEq] at ran
  obtain ⟨a, -, b, ⟨⟨bx, -⟩, ⟨by', -⟩, bz, -⟩, d, ⟨⟨dx, -⟩, ⟨dy, -⟩, dz, -⟩, e,
    ⟨⟨ex, -⟩, ⟨ey, -⟩, ez, -⟩, f, ⟨⟨fx, -⟩, ⟨fy, -⟩, fz, -⟩, rfl⟩ := ran
  rw [Word.toSigned_of_lt sx] at bx dx ex fx
  rw [Word.toSigned_of_lt sy] at by' dy ey fy
  rw [Word.toSigned_of_lt sz] at bz dz ez fz
  simp only [Contains]
  refine ⟨?_, ?_, ?_⟩
  · rw [fx, ex, dx, bx]
    exact raised_residue_lt hx sx a.x
  · rw [fy, ey, dy, by']
    exact raised_residue_lt hy sy a.y
  · rw [fz, ez, dz, bz]
    exact raised_residue_lt hz sz a.z

theorem AxisFits.steps {count coord : Nat} {scroll : Int} (fits : AxisFits count scroll)
    (inside : coord < count) :
    let moved : Int := coord + scroll
    let once := (moved + count).tmod count
    SignedWord.add (Word.toSigned coord) scroll = .ok moved ∧
      SignedWord.add moved (Word.toSigned count) = .ok (moved + count) ∧
      SignedWord.rem (moved + count) (Word.toSigned count) = .ok once ∧
      SignedWord.add once (Word.toSigned count) = .ok (once + count) ∧
      SignedWord.rem (once + count) (Word.toSigned count) = .ok ((once + count).tmod count) := by
  obtain ⟨small, bounds⟩ := fits
  obtain ⟨low, high, raised⟩ := bounds coord inside
  have below : -(count : Int) < (coord + scroll + count : Int).tmod count :=
    Int.lt_tmod_of_pos _ (by omega)
  rw [Word.toSigned_of_lt small, Word.toSigned_of_lt (inside.trans small)]
  refine ⟨SignedWord.add_eq_ok.mpr ⟨rfl, low, by omega⟩,
    SignedWord.add_eq_ok.mpr ⟨rfl, by omega, high⟩,
    SignedWord.rem_eq_ok.mpr ⟨rfl, by omega, by omega⟩,
    SignedWord.add_eq_ok.mpr ⟨rfl, by omega, raised⟩,
    SignedWord.rem_eq_ok.mpr ⟨rfl, by omega, by omega⟩⟩

theorem wrappedCoords_of_fits (fits : g.Fits scroll) (inside : g.Contains c) :
    g.wrappedCoords scroll c = .ok (g.wrapAt scroll c) := by
  obtain ⟨x₁, x₂, x₃, x₄, x₅⟩ := fits.1.steps inside.1
  obtain ⟨y₁, y₂, y₃, y₄, y₅⟩ := fits.2.1.steps inside.2.1
  obtain ⟨z₁, z₂, z₃, z₄, z₅⟩ := fits.2.2.steps inside.2.2
  have wrapped : ∃ w, g.wrappedCoords scroll c = .ok w := by
    simp only [wrappedCoords, Vec3.map, bind_eq_ok, Vec3.zipWithM_eq_ok, pure_eq_ok]
    exact ⟨_, ⟨_, _, _⟩, ⟨x₁, y₁, z₁⟩, ⟨_, _, _⟩, ⟨x₂, y₂, z₂⟩, ⟨_, _, _⟩, ⟨x₃, y₃, z₃⟩,
      ⟨_, _, _⟩, ⟨x₄, y₄, z₄⟩, ⟨_, _, _⟩, ⟨x₅, y₅, z₅⟩, rfl⟩
  obtain ⟨w, ran⟩ := wrapped
  rw [ran, wrappedCoords_eq_ok fits.isSmall inside ran]

def AxisWraps (count : Nat) (scroll : Int) (coord : Nat) : Prop :=
  let moved := Word.toSigned coord + scroll
  let next := moved + Word.toSigned count
  moved < 2147483648 ∧ -2147483648 ≤ next ∧
    -2147483648 ≤ next.tmod (Word.toSigned count) + Word.toSigned count

theorem lt_of_axisWraps {count : Nat} {scroll : Int} (word : count < 4294967296)
    (wraps : ∀ coord < count, AxisWraps count scroll coord) : count < 2147483648 := by
  by_contra large
  have signed := Word.toSigned_of_ge (not_lt.mp large) word
  have last := (wraps 2147483647 (by omega)).1
  rw [Word.toSigned_of_lt (by decide)] at last
  rcases Nat.lt_or_ge 2147483648 count with more | least
  · have next := (wraps 2147483648 more).2.1
    rw [Word.toSigned_of_ge le_rfl (by decide), signed] at next
    omega
  · obtain rfl : count = 2147483648 := by omega
    have first := (wraps 0 (by decide)).2.1
    rw [signed, Word.toSigned_of_lt (by decide)] at first
    obtain rfl : scroll = 0 := by omega
    have second := (wraps 1 (by decide)).2.2
    rw [signed, Word.toSigned_of_lt (by decide)] at second
    revert second
    decide

theorem wraps_of_wrappedCoords {w : Vec3 Nat} (ran : g.wrappedCoords scroll c = .ok w) :
    AxisWraps g.counts.x scroll.x c.x ∧ AxisWraps g.counts.y scroll.y c.y ∧
      AxisWraps g.counts.z scroll.z c.z := by
  simp only [wrappedCoords, Vec3.map, bind_eq_ok, Vec3.zipWithM_eq_ok, SignedWord.add_eq_ok,
    SignedWord.rem_eq_ok, pure_eq_ok] at ran
  obtain ⟨a, ⟨⟨ax, -, mx⟩, ⟨ay, -, my⟩, az, -, mz⟩, b, ⟨⟨bx, nx, -⟩, ⟨by', ny, -⟩, bz, nz, -⟩, d,
    ⟨⟨dx, -⟩, ⟨dy, -⟩, dz, -⟩, e, ⟨⟨-, rx, -⟩, ⟨-, ry, -⟩, -, rz, -⟩, -⟩ := ran
  rw [dx, bx, ax] at rx
  rw [dy, by', ay] at ry
  rw [dz, bz, az] at rz
  rw [ax] at nx
  rw [ay] at ny
  rw [az] at nz
  exact ⟨⟨mx, nx, rx⟩, ⟨my, ny, ry⟩, mz, nz, rz⟩

theorem isSmall_of_wrappedCoords (words : g.size < 4294967296) (some : 0 < g.size)
    (every : ∀ c, g.Contains c → ∃ w, g.wrappedCoords scroll c = .ok w) : g.IsSmall := by
  obtain ⟨hx, hy, hz⟩ := counts_pos_of_lt_size some
  obtain ⟨x, y, z⟩ := counts_le_size some
  have wraps := fun c inside => wraps_of_wrappedCoords (every c inside).choose_spec
  exact ⟨lt_of_axisWraps (by omega) fun coord inside => (wraps ⟨coord, 0, 0⟩ ⟨inside, hy, hz⟩).1,
    lt_of_axisWraps (by omega) fun coord inside => (wraps ⟨0, coord, 0⟩ ⟨hx, inside, hz⟩).2.1,
    lt_of_axisWraps (by omega) fun coord inside => (wraps ⟨0, 0, coord⟩ ⟨hx, hy, inside⟩).2.2⟩

theorem slot_eq_ok {cascade place : Nat} (ran : g.slot cascade index = .ok place) :
    place = cascade * g.size + index := by
  simp only [slot, bind_eq_ok, Word.mul_eq_ok, Word.add_eq_ok] at ran
  obtain ⟨_, count, _, ⟨rfl, -⟩, rfl, -⟩ := ran
  rw [(probesPerCascade_eq_ok.mp count).1]

theorem slot_of_lt {cascade probes : Nat} (count : g.probesPerCascade = .ok probes)
    (inside : index < g.size) (words : (cascade + 1) * g.size ≤ 4294967296) :
    g.slot cascade index = .ok (cascade * g.size + index) := by
  have total : (cascade + 1) * g.size = cascade * g.size + g.size := Nat.succ_mul ..
  simp only [slot, count, bind_eq_ok, Word.mul_eq_ok, Word.add_eq_ok, Except.ok.injEq,
    (probesPerCascade_eq_ok.mp count).1]
  exact ⟨_, rfl, _, ⟨rfl, by omega⟩, rfl, by omega⟩

theorem atlasSize_eq_ok {resolution : Nat} {size : Vec2 Nat} :
    g.atlasSize resolution = .ok size ↔
      size = ⟨g.counts.x * (resolution + 2),
        g.counts.y * g.counts.z * (resolution + 2) * g.cascades⟩ ∧
      resolution + 2 < 4294967296 ∧ g.counts.x * (resolution + 2) < 4294967296 ∧
      g.counts.y * g.counts.z < 4294967296 ∧
      g.counts.y * g.counts.z * (resolution + 2) < 4294967296 ∧
      g.counts.y * g.counts.z * (resolution + 2) * g.cascades < 4294967296 := by
  simp only [atlasSize, bind_eq_ok, Word.add_eq_ok, Word.mul_eq_ok, pure_eq_ok, Except.ok.injEq]
  constructor
  · intro ran
    obtain ⟨_, ⟨rfl, tile⟩, _, ⟨rfl, width⟩, _, ⟨rfl, rows⟩, _, ⟨rfl, height⟩, _, ⟨rfl, all⟩,
      rfl⟩ := ran
    exact ⟨rfl, tile, width, rows, height, all⟩
  · intro ran
    obtain ⟨rfl, tile, width, rows, height, all⟩ := ran
    exact ⟨_, ⟨rfl, tile⟩, _, ⟨rfl, width⟩, _, ⟨rfl, rows⟩, _, ⟨rfl, height⟩, _, ⟨rfl, all⟩, rfl⟩

theorem tileOrigin_eq_ok {cascade slot resolution : Nat} {origin : Vec2 Nat}
    (ran : g.tileOrigin cascade slot resolution = .ok origin) :
    origin = ⟨slot % g.counts.x * (resolution + 2),
      (cascade * (g.counts.y * g.counts.z) + slot / g.counts.x) * (resolution + 2)⟩ := by
  simp only [tileOrigin, bind_eq_ok, Word.add_eq_ok, Word.mul_eq_ok, Word.rem_eq_ok,
    Word.div_eq_ok, pure_eq_ok, Except.ok.injEq] at ran
  obtain ⟨_, ⟨rfl, -⟩, _, ⟨rfl, -⟩, _, ⟨rfl, -⟩, _, ⟨rfl, -⟩, _, ⟨rfl, -⟩, _, ⟨rfl, -⟩, _,
    ⟨rfl, -⟩, _, ⟨rfl, -⟩, rfl⟩ := ran
  rw [Nat.add_comm (slot / g.counts.x)]

theorem isSmall_of_atlasSize {resolution : Nat} {size : Vec2 Nat} (inside : index < g.size)
    (sized : g.atlasSize resolution = .ok size) : g.IsSmall := by
  obtain ⟨-, -, width, -, height, -⟩ := atlasSize_eq_ok.mp sized
  obtain ⟨-, hy, hz⟩ := counts_pos_of_lt_size inside
  have y : g.counts.y ≤ g.counts.y * g.counts.z := Nat.le_mul_of_pos_right _ hz
  have z : g.counts.z ≤ g.counts.y * g.counts.z := Nat.le_mul_of_pos_left _ hy
  have twice : g.counts.y * g.counts.z * 2 ≤ g.counts.y * g.counts.z * (resolution + 2) :=
    Nat.mul_le_mul_left _ (by omega)
  have twice' : g.counts.x * 2 ≤ g.counts.x * (resolution + 2) := Nat.mul_le_mul_left _ (by omega)
  exact ⟨by omega, by omega, by omega⟩

end Checks

def siteAt (g : Grid) (scroll : Vec3 Int) (cascade index : Nat) : Nat :=
  cascade * g.size + g.slotAt scroll index

/-- Place in an atlas of a texel of the tile that belongs to a storage slot. -/
def texelAt (g : Grid) (cascade slot resolution : Nat) (texel : Vec2 Nat) : Vec2 Nat :=
  ⟨slot % g.counts.x * (resolution + 2) + (1 + texel.x),
    (cascade * (g.counts.y * g.counts.z) + slot / g.counts.x) * (resolution + 2) + (1 + texel.y)⟩

theorem siteAt_inj {other : Vec3 Int} {cascade cascade' i j : Nat} (hi : i < g.size)
    (hj : j < g.size) (same : g.siteAt scroll cascade i = g.siteAt other cascade' j) :
    cascade = cascade' ∧ g.slotAt scroll i = g.slotAt other j :=
  mul_add_unique (slotAt_lt hi) (slotAt_lt hj) same

theorem siteAt_bounds {cascade : Nat} (inside : index < g.size) :
    cascade * g.size ≤ g.siteAt scroll cascade index ∧
      g.siteAt scroll cascade index < (cascade + 1) * g.size := by
  have below : g.slotAt scroll index < g.size := slotAt_lt inside
  rw [Nat.succ_mul]
  unfold siteAt
  omega

theorem slot_row_lt {slot : Nat} (inside : slot < g.size) :
    slot / g.counts.x < g.counts.y * g.counts.z := by
  apply (Nat.div_lt_iff_lt_mul (counts_pos_of_lt_size inside).1).mpr
  calc
    slot < g.counts.x * g.counts.y * g.counts.z := inside
    _ = g.counts.y * g.counts.z * g.counts.x := by ring

theorem number_div (cascade slot : Nat) (some : 0 < g.counts.x) :
    (cascade * g.size + slot) / g.counts.x =
        cascade * (g.counts.y * g.counts.z) + slot / g.counts.x ∧
      (cascade * g.size + slot) % g.counts.x = slot % g.counts.x := by
  have number : cascade * g.size + slot =
      g.counts.x * (cascade * (g.counts.y * g.counts.z)) + slot := by
    unfold size
    ring
  rw [number, Nat.mul_add_mod, Nat.mul_add_div some]
  exact ⟨rfl, rfl⟩

theorem texelAt_inj {cascade cascade' slot slot' resolution : Nat} {t t' : Vec2 Nat}
    (hs : slot < g.size) (hs' : slot' < g.size) (ht : t.x < resolution ∧ t.y < resolution)
    (ht' : t'.x < resolution ∧ t'.y < resolution)
    (same : g.texelAt cascade slot resolution t = g.texelAt cascade' slot' resolution t') :
    cascade = cascade' ∧ slot = slot' ∧ t = t' := by
  obtain ⟨x, y⟩ := t
  obtain ⟨x', y'⟩ := t'
  simp only [texelAt, Vec2.mk.injEq] at same ht ht'
  obtain ⟨column, left⟩ := mul_add_unique (by omega) (by omega) same.1
  obtain ⟨row, top⟩ := mul_add_unique (by omega) (by omega) same.2
  obtain ⟨cascades, rows⟩ := mul_add_unique (slot_row_lt hs) (slot_row_lt hs') row
  refine ⟨cascades, ?_, by simp only [Vec2.mk.injEq]; omega⟩
  rw [← Nat.div_add_mod slot g.counts.x, ← Nat.div_add_mod slot' g.counts.x, rows, column]

theorem texelAt_x_lt {cascade slot resolution : Nat} {t : Vec2 Nat} (inside : slot < g.size)
    (ht : t.x < resolution) :
    (g.texelAt cascade slot resolution t).x < g.counts.x * (resolution + 2) := by
  have column := Nat.mod_lt slot (counts_pos_of_lt_size inside).1
  calc
    (g.texelAt cascade slot resolution t).x < (slot % g.counts.x + 1) * (resolution + 2) := by
      rw [Nat.succ_mul]
      simp only [texelAt]
      omega
    _ ≤ g.counts.x * (resolution + 2) := Nat.mul_le_mul_right _ column

theorem tile_within {cascade slot resolution : Nat} {size : Vec2 Nat}
    (sized : g.atlasSize resolution = .ok size) (present : cascade < g.cascades)
    (inside : slot < g.size) :
    (slot % g.counts.x + 1) * (resolution + 2) ≤ size.x ∧
      (cascade * (g.counts.y * g.counts.z) + slot / g.counts.x + 1) * (resolution + 2) ≤
        size.y := by
  obtain ⟨rfl, -⟩ := atlasSize_eq_ok.mp sized
  have column := Nat.mod_lt slot (counts_pos_of_lt_size inside).1
  have row := slot_row_lt inside
  have rows : cascade * (g.counts.y * g.counts.z) + slot / g.counts.x + 1 ≤
      g.cascades * (g.counts.y * g.counts.z) := by
    calc
      cascade * (g.counts.y * g.counts.z) + slot / g.counts.x + 1 ≤
          (cascade + 1) * (g.counts.y * g.counts.z) := by
        rw [Nat.succ_mul]
        omega
      _ ≤ g.cascades * (g.counts.y * g.counts.z) := Nat.mul_le_mul_right _ present
  constructor
  · exact Nat.mul_le_mul_right _ column
  · calc
      (cascade * (g.counts.y * g.counts.z) + slot / g.counts.x + 1) * (resolution + 2) ≤
          g.cascades * (g.counts.y * g.counts.z) * (resolution + 2) := Nat.mul_le_mul_right _ rows
      _ = g.counts.y * g.counts.z * (resolution + 2) * g.cascades := by ring

theorem texelAt_lt {cascade slot resolution : Nat} {size t : Vec2 Nat}
    (sized : g.atlasSize resolution = .ok size) (present : cascade < g.cascades)
    (inside : slot < g.size) (ht : t.x < resolution ∧ t.y < resolution) :
    (g.texelAt cascade slot resolution t).x < size.x ∧
      (g.texelAt cascade slot resolution t).y < size.y := by
  obtain ⟨right, bottom⟩ := tile_within sized present inside
  rw [Nat.succ_mul] at right bottom
  simp only [texelAt]
  omega

theorem tileOrigin_of_lt {cascade slot resolution : Nat} {size : Vec2 Nat}
    (sized : g.atlasSize resolution = .ok size) (present : cascade < g.cascades)
    (inside : slot < g.size) :
    g.tileOrigin cascade slot resolution = .ok ⟨slot % g.counts.x * (resolution + 2),
      (cascade * (g.counts.y * g.counts.z) + slot / g.counts.x) * (resolution + 2)⟩ := by
  obtain ⟨right, bottom⟩ := tile_within sized present inside
  obtain ⟨rfl, tile, width, rows, -, height⟩ := atlasSize_eq_ok.mp sized
  have columns := (counts_pos_of_lt_size inside).1
  rw [Nat.succ_mul] at right bottom
  dsimp only at right bottom
  have whole : cascade * (g.counts.y * g.counts.z) + slot / g.counts.x ≤
      (cascade * (g.counts.y * g.counts.z) + slot / g.counts.x) * (resolution + 2) :=
    Nat.le_mul_of_pos_right _ (by omega)
  have before : cascade * (g.counts.y * g.counts.z) ≤
      cascade * (g.counts.y * g.counts.z) + slot / g.counts.x := Nat.le_add_right ..
  simp only [tileOrigin, bind_eq_ok, Word.add_eq_ok, Word.mul_eq_ok, Word.rem_eq_ok,
    Word.div_eq_ok, pure_eq_ok, Except.ok.injEq]
  refine ⟨_, ⟨rfl, tile⟩, _, ⟨rfl, rows⟩, _, ⟨rfl, columns⟩, _, ⟨rfl, columns⟩, _,
    ⟨rfl, by omega⟩, _, ⟨rfl, by omega⟩, _, ⟨rfl, by omega⟩, _, ⟨rfl, ?_⟩, ?_⟩
  · rw [Nat.add_comm]
    omega
  · rw [Nat.add_comm (slot / g.counts.x)]

/-- Element of an atlas, with rows of given width, that holds a texel of a slot's tile. -/
def texelPlace (g : Grid) (cascade slot resolution : Nat) (texel : Vec2 Nat) (width : Nat) : Nat :=
  (g.texelAt cascade slot resolution texel).y * width + (g.texelAt cascade slot resolution texel).x

theorem texelPlace_inj {cascade cascade' slot slot' resolution width : Nat} {t t' : Vec2 Nat}
    (fits : width = g.counts.x * (resolution + 2)) (hs : slot < g.size) (hs' : slot' < g.size)
    (ht : t.x < resolution ∧ t.y < resolution) (ht' : t'.x < resolution ∧ t'.y < resolution)
    (same : g.texelPlace cascade slot resolution t width =
      g.texelPlace cascade' slot' resolution t' width) :
    cascade = cascade' ∧ slot = slot' ∧ t = t' := by
  obtain ⟨rows, columns⟩ :=
    mul_add_unique (fits ▸ texelAt_x_lt hs ht.1) (fits ▸ texelAt_x_lt hs' ht'.1) same
  exact texelAt_inj hs hs' ht ht' (congrArg₂ Vec2.mk columns rows)

end Grid

namespace Volume

variable {α : Type} {v : Volume α} {cascade index : Nat}

/-- How far a cascade has scrolled; nothing for one that does not exist. -/
def scrollOf (v : Volume α) (cascade : Nat) : Vec3 Int :=
  match v.placement cascade with
  | .ok p => p.scroll
  | .error _ => ⟨0, 0, 0⟩

theorem scrollOf_eq {p : Placement α} (found : v.placement cascade = .ok p) :
    v.scrollOf cascade = p.scroll := by
  rw [scrollOf, found]

theorem placement_of_lt (present : cascade < maxCascades) : ∃ p, v.placement cascade = .ok p :=
  ⟨v.placements[cascade], by rw [placement, dif_pos present]⟩

theorem wrappedIndex_eq {p : Placement α} (found : v.placement cascade = .ok p) (c : Vec3 Nat) :
    v.wrappedIndex cascade c = v.grid.wrappedIndex (v.scrollOf cascade) c := by
  rw [wrappedIndex, scrollOf_eq found, found, ok_bind]

theorem wrappedIndex_eq_ok {c : Vec3 Nat} {slot : Nat} (small : v.grid.IsSmall)
    (inside : v.grid.Contains c) (ran : v.wrappedIndex cascade c = .ok slot) :
    slot = v.grid.indexAt (v.grid.wrapAt (v.scrollOf cascade) c) := by
  obtain ⟨p, found, -⟩ := bind_eq_ok.mp ran
  rw [wrappedIndex_eq found, Grid.wrappedIndex, bind_eq_ok] at ran
  obtain ⟨w, wrapped, ran⟩ := ran
  rw [Grid.probeIndex_eq_ok ran, Grid.wrappedCoords_eq_ok small inside wrapped]

theorem wrappedIndex_of_fits {c : Vec3 Nat} (present : cascade < maxCascades)
    (words : v.grid.size < 4294967296) (fits : v.grid.Fits (v.scrollOf cascade))
    (inside : v.grid.Contains c) :
    v.wrappedIndex cascade c = .ok (v.grid.indexAt (v.grid.wrapAt (v.scrollOf cascade) c)) := by
  obtain ⟨p, found⟩ := placement_of_lt (v := v) present
  rw [wrappedIndex_eq found, Grid.wrappedIndex, Grid.wrappedCoords_of_fits fits inside, ok_bind]
  exact Grid.probeIndex_of_contained words (Grid.wrapAt_contained inside)

theorem physicalIndex_eq_ok {slot : Nat} (small : v.grid.IsSmall) (inside : index < v.grid.size)
    (ran : v.physicalIndex cascade index = .ok slot) :
    slot = v.grid.slotAt (v.scrollOf cascade) index := by
  obtain ⟨c, coords, ran⟩ := bind_eq_ok.mp ran
  obtain ⟨rfl, -⟩ := Grid.probeCoords_eq_ok.mp coords
  exact wrappedIndex_eq_ok small (Grid.coordsAt_contained inside) ran

theorem physicalIndex_lt {resolution slot : Nat} {size : Vec2 Nat}
    (sized : v.grid.atlasSize resolution = .ok size)
    (ran : v.physicalIndex cascade index = .ok slot) : slot < v.grid.size := by
  obtain ⟨c, -, ran⟩ := bind_eq_ok.mp ran
  obtain ⟨p, -, ran⟩ := bind_eq_ok.mp ran
  obtain ⟨w, wrapped, ran⟩ := bind_eq_ok.mp ran
  have small := Grid.isSmall_of_atlasSize (Grid.size_pos_of_wrappedCoords wrapped) sized
  rw [Grid.probeIndex_eq_ok ran]
  exact Grid.indexAt_lt (Grid.wrappedCoords_contained small wrapped)

def octet : Volume Float32 where
  grid := ⟨⟨2, 2, 2⟩, 1⟩
  placements := .replicate _ ⟨⟨0.0, 0.0, 0.0⟩, 1.0, ⟨3, -1, 0⟩⟩
  raysRotation := .identity
  viewPos := ⟨0.0, 0.0, 0.0⟩
  rayMaxDistance := 10.0
  raysCount := 32
  historyWeight := 0.9
  gamma := 5.0
  intensity := 1.0

example : octet.physicalIndex 0 0 = .ok 5 := by decide

def site (v : Volume α) (cascade index : Nat) : Nat :=
  v.grid.siteAt (v.scrollOf cascade) cascade index

theorem le_site (inside : index < v.grid.size) : cascade * v.grid.size ≤ v.site cascade index :=
  (Grid.siteAt_bounds inside).1

theorem site_lt (inside : index < v.grid.size) :
    v.site cascade index < (cascade + 1) * v.grid.size :=
  (Grid.siteAt_bounds inside).2

theorem site_inj {i j : Nat} (hi : i < v.grid.size) (hj : j < v.grid.size)
    (same : v.site cascade i = v.site cascade j) : i = j :=
  Grid.slotAt_inj hi hj (Grid.siteAt_inj hi hj same).2

section Positions

variable [Scalar α] {p : Placement α} (found : v.placement cascade = .ok p)

include found

omit [Scalar α] in
theorem spacing_of_placement : v.spacing cascade = .ok p.spacing := by
  rw [spacing, found, ok_bind, pure_eq_ok]

theorem center_of_placement :
    v.center cascade = .ok (p.origin + (Vec3.ofInt p.scroll).scale p.spacing) := by
  rw [center, found, ok_bind, pure_eq_ok]

variable (some : 0 < v.grid.counts.x ∧ 0 < v.grid.counts.y ∧ 0 < v.grid.counts.z)

include some

theorem extent_of_placement :
    v.extent cascade = .ok (((Vec3.ofNat (v.grid.counts.map (· - 1))).scale p.spacing).scale 0.5) := by
  rw [extent, Vec3.mapM_sub_of_le some, ok_bind, spacing_of_placement found, ok_bind, pure_eq_ok]

theorem basePosition_of_placement (c : Vec3 Nat) :
    v.basePosition cascade c =
      .ok (p.origin + (Vec3.ofInt p.scroll).scale p.spacing + (Vec3.ofNat c).scale p.spacing -
        ((Vec3.ofNat (v.grid.counts.map (· - 1))).scale p.spacing).scale 0.5) := by
  rw [basePosition, spacing_of_placement found, ok_bind, center_of_placement found, ok_bind,
    extent_of_placement found some, ok_bind, pure_eq_ok]

omit some in
theorem relocatedPosition_ends (words : v.grid.size < 4294967296) (inside : index < v.grid.size)
    (probe : Probe α) : ∃ pos, v.relocatedPosition cascade index probe = .ok pos := by
  rw [relocatedPosition, Grid.probeCoords_of_lt words inside, ok_bind,
    basePosition_of_placement found (Grid.counts_pos_of_lt_size inside), ok_bind,
    spacing_of_placement found]
  exact ⟨_, rfl⟩

end Positions

/-- Texel of an atlas in the tile of the probe with given logical index, border excluded. -/
def texel (v : Volume α) (cascade resolution index : Nat) (t : Vec2 Nat) : Vec2 Nat :=
  v.grid.texelAt cascade (v.grid.slotAt (v.scrollOf cascade) index) resolution t

end Volume

end IrradianceField
