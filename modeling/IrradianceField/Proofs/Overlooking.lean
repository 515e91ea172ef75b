import IrradianceField.Scalar.Real
import IrradianceField.Proofs.Numbering
import IrradianceField.Proofs.Supplying

/-!
Overlooking: sampling sees nothing of an inactive probe but its state, whatever its tiles and its
offset are.
-/

namespace IrradianceField

open Scalar

def PackedProbe.IsInactive (packed : PackedProbe) : Prop :=
  (Probe.unpack packed : Probe ℝ).state = .inactive

theorem PackedProbe.isInactive_iff {packed : PackedProbe} :
    (Probe.unpack packed : Probe ℝ).state.isInactive = true ↔ packed.IsInactive :=
  decide_eq_true_iff

/-- Two atlases show the same in the tiles, borders included, of all probes that are not inactive. -/
structure SameTiles (v : Volume ℝ) (probes : Array PackedProbe) (resolution : Nat)
    (t t' : Texels (Vec4 ℝ)) : Prop where
  first : t.IsAtlas v.grid resolution
  second : t'.IsAtlas v.grid resolution
  same : ∀ cascade < v.grid.cascades, ∀ slot < v.grid.size, ∀ packed,
    probes[cascade * v.grid.size + slot]? = some packed → ¬packed.IsInactive →
      ∀ pos, v.grid.InTile resolution cascade slot pos → t'.read pos = t.read pos

theorem SameTiles.lookUp_eq {v : Volume ℝ} {probes : Array PackedProbe}
    {resolution cascade slot : Nat} {t t' : Texels (Vec4 ℝ)} {packed : PackedProbe} {coords : Vec2 ℝ}
    (tiles : SameTiles v probes resolution t t') (some : 0 < resolution)
    (present : cascade < v.grid.cascades) (inside : slot < v.grid.size)
    (held : probes[cascade * v.grid.size + slot]? = .some packed) (awake : ¬packed.IsInactive)
    (x : |coords.x| ≤ 1) (y : |coords.y| ≤ 1) :
    v.lookUp t' cascade slot resolution coords = v.lookUp t cascade slot resolution coords := by
  have found := Grid.tileOrigin_of_lt tiles.first.sized present inside
  apply Volume.lookUp_congr tiles.second present inside some found x y tiles.first
  intro column left row above
  rcases tiles.first.read_tile present inside some found left above with ⟨value, read⟩
  have own := tiles.same cascade present slot inside packed held awake ⟨_, _⟩
    ⟨_, found, ⟨Nat.le_add_right _ column, Nat.add_lt_add_left (Nat.lt_succ_of_le left) _⟩,
      Nat.le_add_right _ row, Nat.add_lt_add_left (Nat.lt_succ_of_le above) _⟩
  rw [Texels.held_of_read (own.trans read), Texels.held_of_read read]

namespace Sampler

variable {s s' : Sampler ℝ} {cascade index slot first remaining : Nat} {packed : PackedProbe}
  {pos normal : Vec3 ℝ} {bias : ℝ}

/-- Two samplers differ in the offsets and the tiles of inactive probes at most. -/
structure LooksAlike (s s' : Sampler ℝ) : Prop where
  volume : s'.volume = s.volume
  length : s'.probes.size = s.probes.size
  probes : ∀ (place : Nat) (packed packed' : PackedProbe), s.probes[place]? = some packed →
    s'.probes[place]? = some packed' → packed' = packed ∨ packed.IsInactive ∧ packed'.IsInactive
  irradiance : SameTiles s.volume s.probes irradianceResolution s.irradiance s'.irradiance
  distance : SameTiles s.volume s.probes distanceResolution s.distance s'.distance

/-- What reading a probe comes to: there is none, it is inactive in either buffer, or it is the same
probe in both. -/
inductive ReadsAlike (s s' : Sampler ℝ) (cascade index : Nat) : Prop where
  | fault (e : Fault)
      (first : s.volume.readProbe s.probes cascade index = (.error e : Except Fault (Probe ℝ)))
      (second : s.volume.readProbe s'.probes cascade index = (.error e : Except Fault (Probe ℝ)))
  | inactive (probe probe' : Probe ℝ)
      (first : s.volume.readProbe s.probes cascade index = .ok probe)
      (second : s.volume.readProbe s'.probes cascade index = .ok probe')
      (state : probe.state.isInactive = true) (state' : probe'.state.isInactive = true)
  | awake (slot : Nat) (packed : PackedProbe)
      (physical : s.volume.physicalIndex cascade index = .ok slot)
      (held : s.probes[cascade * s.volume.grid.size + slot]? = some packed)
      (state : ¬packed.IsInactive)
      (first : s.volume.readProbe s.probes cascade index = .ok (.unpack packed : Probe ℝ))
      (second : s.volume.readProbe s'.probes cascade index = .ok (.unpack packed : Probe ℝ))

namespace LooksAlike

variable (alike : s.LooksAlike s')

include alike

theorem fetch_cases (place : Nat) :
    (∃ e, fetch s.probes place = .error e ∧ fetch s'.probes place = .error e) ∨
      ∃ packed packed', fetch s.probes place = .ok packed ∧ fetch s'.probes place = .ok packed' ∧
        (packed' = packed ∨ packed.IsInactive ∧ packed'.IsInactive) := by
  by_cases inside : place < s.probes.size
  · right
    rcases fetch_of_lt inside with ⟨packed, held⟩
    rcases fetch_of_lt (alike.length.symm ▸ inside) with ⟨packed', held'⟩
    exact ⟨packed, packed', held, held',
      alike.probes place packed packed' (fetch_eq_ok.mp held) (fetch_eq_ok.mp held')⟩
  · left
    have outside : ¬place < s'.probes.size := alike.length.symm ▸ inside
    refine ⟨.outsideBuffer s.probes.size place, ?_, ?_⟩
    · rw [fetch, dif_neg inside]
    · rw [fetch, dif_neg outside, alike.length]

theorem readsAlike (cascade index : Nat) : s.ReadsAlike s' cascade index := by
  cases physical : s.volume.physicalIndex cascade index with
  | error e =>
      apply ReadsAlike.fault e
      · rw [Volume.readProbe, physical, error_bind]
      · rw [Volume.readProbe, physical, error_bind]
  | ok slot =>
      cases placed : s.volume.grid.slot cascade slot with
      | error e =>
          apply ReadsAlike.fault e
          · rw [Volume.readProbe, physical, ok_bind, placed, error_bind]
          · rw [Volume.readProbe, physical, ok_bind, placed, error_bind]
      | ok place =>
          have reads : ∀ (probes : Array PackedProbe) packed, fetch probes place = .ok packed →
              s.volume.readProbe probes cascade index = .ok (.unpack packed : Probe ℝ) := by
            intro probes packed held
            rw [Volume.readProbe, physical, ok_bind, placed, ok_bind, held, ok_bind, pure_eq_ok]
          rcases alike.fetch_cases place with ⟨e, first, second⟩ | ⟨packed, packed', first, second, same⟩
          · apply ReadsAlike.fault e
            · rw [Volume.readProbe, physical, ok_bind, placed, ok_bind, first, error_bind]
            · rw [Volume.readProbe, physical, ok_bind, placed, ok_bind, second, error_bind]
          by_cases state : packed.IsInactive
          · have state' : packed'.IsInactive := same.elim (fun own => own ▸ state) And.right
            exact .inactive _ _ (reads _ packed first) (reads _ packed' second)
              (PackedProbe.isInactive_iff.mpr state) (PackedProbe.isInactive_iff.mpr state')
          · obtain rfl := same.resolve_right fun both => state both.1
            obtain rfl := Grid.slot_eq_ok placed
            exact .awake slot packed' physical (fetch_eq_ok.mp first) state (reads _ packed' first)
              (reads _ packed' second)

variable (present : cascade < s.volume.grid.cascades)

include present

theorem momentsTowards_eq (physical : s.volume.physicalIndex cascade index = .ok slot)
    (held : s.probes[cascade * s.volume.grid.size + slot]? = some packed)
    (awake : ¬packed.IsInactive) (way : Vec3 ℝ) :
    s'.momentsTowards cascade index way = s.momentsTowards cascade index way := by
  obtain ⟨x, y⟩ := Octahedral.abs_encode_le way.normalizeOrZero
  have inside := Volume.physicalIndex_lt alike.distance.first.sized physical
  rw [Sampler.momentsTowards_eq, Sampler.momentsTowards_eq, alike.volume, physical, ok_bind, ok_bind,
    alike.distance.lookUp_eq (by decide) present inside held awake x y]

theorem probeWeight_eq (coords offset : Vec3 Nat) (alpha pos biasedPos normal : Vec3 ℝ) :
    s'.probeWeight cascade coords offset alpha pos biasedPos normal =
      s.probeWeight cascade coords offset alpha pos biasedPos normal := by
  rw [Sampler.probeWeight_eq, Sampler.probeWeight_eq, alike.volume]
  refine bind_congr fun index => ?_
  cases alike.readsAlike cascade index with
  | fault e first second => rw [first, second, error_bind, error_bind]
  | inactive probe probe' first second state state' =>
      rw [first, second, ok_bind, ok_bind, if_pos state, if_pos state']
  | awake slot packed physical held state first second =>
      have state' := PackedProbe.isInactive_iff.not.mpr state
      rw [first, second, ok_bind, ok_bind, if_neg state', if_neg state']
      refine bind_congr fun probePos => ?_
      dsimp only
      rw [alike.momentsTowards_eq present physical held state]

theorem probeValue_eq {coords offset : Vec3 Nat} {alpha biasedPos : Vec3 ℝ} {weight : ℝ}
    (weighed : s.probeWeight cascade coords offset alpha pos biasedPos normal = .ok weight)
    (heavy : 0 < weight) :
    s'.probeValue cascade coords normal = s.probeValue cascade coords normal := by
  obtain ⟨x, y⟩ := Octahedral.abs_encode_le normal
  rw [Sampler.probeWeight_eq] at weighed
  rcases bind_eq_ok.mp weighed with ⟨index, indexed, rest⟩
  rw [probeValue_lookUp, probeValue_lookUp, alike.volume, indexed, ok_bind, ok_bind]
  cases alike.readsAlike cascade index with
  | fault e first second =>
      rw [first, error_bind] at rest
      cases rest
  | inactive probe probe' first second state state' =>
      rw [first, ok_bind, if_pos state, pure_eq_ok, real_zero] at rest
      exact absurd (Except.ok.inj rest) heavy.ne
  | awake slot packed physical held state first second =>
      have inside := Volume.physicalIndex_lt alike.irradiance.first.sized physical
      rw [physical, ok_bind, ok_bind,
        alike.irradiance.lookUp_eq (by decide) present inside held state x y]

theorem weigh_eq (coords offset : Vec3 Nat) (alpha pos biasedPos normal : Vec3 ℝ)
    (total : WeightedSum ℝ) :
    s'.weigh cascade coords offset alpha pos biasedPos normal total =
      s.weigh cascade coords offset alpha pos biasedPos normal total := by
  rw [weigh, weigh, alike.probeWeight_eq present]
  cases weighed : s.probeWeight cascade coords offset alpha pos biasedPos normal with
  | error e => rw [error_bind, error_bind]
  | ok weight =>
      rw [ok_bind, ok_bind]
      by_cases heavy : 0 < weight
      · rw [alike.probeValue_eq present weighed heavy]
      · have light : ¬lt 0.0 weight = true := by simpa using not_lt.mp heavy
        rw [if_neg light, if_neg light]

theorem sampleCascade_eq (pos normal : Vec3 ℝ) (bias : ℝ) :
    s'.sampleCascade cascade pos normal bias = s.sampleCascade cascade pos normal bias := by
  rw [sampleCascade_settles, sampleCascade_settles, alike.volume]
  refine bind_congr fun spacing => bind_congr fun center => bind_congr fun extent =>
    bind_congr fun lastCell => ?_
  dsimp only
  apply congrArg
  apply foldlM_congr
  intro corner _ total
  refine bind_congr fun coords => bind_congr fun last => ?_
  rw [alike.weigh_eq present]

omit present

theorem cascadeFade_eq (cascade : Nat) (pos : Vec3 ℝ) :
    s'.cascadeFade cascade pos = s.cascadeFade cascade pos := by
  rw [cascadeFade, cascadeFade, alike.volume]

theorem sampleFrom_eq (few : first + remaining ≤ s.volume.grid.cascades) :
    s'.sampleFrom pos normal bias remaining first = s.sampleFrom pos normal bias remaining first := by
  induction remaining generalizing first with
  | zero => rfl
  | succ remaining ih =>
      rw [sampleFrom, sampleFrom, alike.cascadeFade_eq, alike.sampleCascade_eq (by omega),
        ih (by omega)]
      rcases remaining.eq_zero_or_pos with rfl | more
      · simp only [Nat.lt_irrefl, if_false]
      · rw [alike.sampleCascade_eq (by omega)]

theorem sample_eq (pos normal : Vec3 ℝ) (bias : ℝ) :
    s'.sample pos normal bias = s.sample pos normal bias := by
  rw [sample, sample, alike.volume]
  exact alike.sampleFrom_eq (Nat.zero_add _).le

end LooksAlike

/-- All cascades of the volume are there, and their probes and tiles. -/
structure IsServed (s : Sampler ℝ) : Prop where
  cascades : s.volume.grid.cascades ≤ maxCascades
  counts : 2 ≤ s.volume.grid.counts.x ∧ 2 ≤ s.volume.grid.counts.y ∧ 2 ≤ s.volume.grid.counts.z
  fits : ∀ cascade < s.volume.grid.cascades, s.volume.grid.Fits (s.volume.scrollOf cascade)
  probes : s.volume.grid.cascades * s.volume.grid.size ≤ s.probes.size
  irradiance : s.irradiance.IsAtlas s.volume.grid irradianceResolution
  distance : s.distance.IsAtlas s.volume.grid distanceResolution

namespace IsServed

variable (served : s.IsServed)

include served

theorem supplied : s.IsSupplied where
  counts := served.counts
  fits := fun cascade present _ placed => Volume.scrollOf_eq placed ▸ served.fits cascade present
  probes := served.probes
  irradiance := served.irradiance
  distance := served.distance

theorem finds : s.Finds := by
  intro cascade present slot inside way
  rcases Octahedral.abs_encode_le way with ⟨x, y⟩
  constructor
  · have origin := Grid.tileOrigin_of_lt served.irradiance.sized present inside
    exact ⟨_, Volume.lookUp_eq served.irradiance present inside (by decide) origin x y⟩
  · have origin := Grid.tileOrigin_of_lt served.distance.sized present inside
    exact ⟨_, Volume.lookUp_eq served.distance present inside (by decide) origin x y⟩

theorem stocked (present : cascade < s.volume.grid.cascades) : ∃ p, s.IsStocked cascade p := by
  have listed := present.trans_le served.cascades
  have fits := served.fits cascade present
  rcases Volume.placement_of_lt (v := s.volume) listed with ⟨p, placed⟩
  refine ⟨p, placed, present, served.counts, fits.isSmall, served.supplied.size_lt present, ?_,
    served.irradiance, served.distance⟩
  intro index inside
  rcases served.supplied.slot_ends present listed inside
    with ⟨slot, -, packed, physical, counted, held⟩
  exact ⟨slot, packed, physical, counted, fetch_eq_ok.mp held⟩

theorem cascadeFade_ends (present : cascade < s.volume.grid.cascades) (pos : Vec3 ℝ) :
    ∃ fade, s.cascadeFade cascade pos = .ok fade :=
  served.supplied.cascadeFade_ends (present.trans_le served.cascades) pos

theorem sampleCascade_ends (present : cascade < s.volume.grid.cascades) (pos normal : Vec3 ℝ)
    (bias : ℝ) : ∃ light, s.sampleCascade cascade pos normal bias = .ok light :=
  served.supplied.sampleCascade_ends present (present.trans_le served.cascades) served.finds pos
    normal bias

theorem sample_ends (pos normal : Vec3 ℝ) (bias : ℝ) :
    ∃ light, s.sample pos normal bias = .ok light :=
  (served.supplied.sample_ends served.finds pos normal bias).resolve_right fun many =>
    absurd many.1 (not_lt.mpr served.cascades)

end IsServed

/-- Whatever the tiles and the offsets of inactive probes are, the same irradiance arrives at a point,
and some does if everything is there. -/
theorem inactive_overlooked (alike : s.LooksAlike s') (pos normal : Vec3 ℝ) (bias : ℝ) :
    s'.sample pos normal bias = s.sample pos normal bias ∧
      (s.IsServed → ∃ light, s.sample pos normal bias = .ok light ∧
        s'.sample pos normal bias = .ok light) := by
  constructor
  · exact alike.sample_eq pos normal bias
  · intro served
    rcases served.sample_ends pos normal bias with ⟨light, ran⟩
    exact ⟨light, ran, (alike.sample_eq pos normal bias).trans ran⟩

noncomputable def octet : Volume ℝ := { DistanceThread.lantern with grid := ⟨⟨2, 2, 2⟩, 1⟩ }

/-- Tiles of the eight probes that are all the same, except for the one of the fourth slot. -/
noncomputable def spotted (resolution : Nat) (spot : Vec4 ℝ) : Texels (Vec4 ℝ) :=
  let side := resolution + 2
  ⟨(Array.range (2 * side * (4 * side))).map fun i =>
    if i % (2 * side) / side = 1 ∧ i / (2 * side) / side = 1 then spot else ⟨1, 1, 1, 1⟩,
    ⟨2 * side, 4 * side⟩⟩

noncomputable def octetSampler (stored : PackedProbe) (spot : Vec4 ℝ) : Sampler ℝ where
  volume := octet
  probes := (Array.replicate 8 ⟨0, 131072⟩).setIfInBounds 3 stored
  irradiance := spotted irradianceResolution spot
  distance := spotted distanceResolution spot

theorem octet_sameTiles {resolution : Nat} {stored : PackedProbe} (asleep : stored.IsInactive)
    (sized : octet.grid.atlasSize resolution = .ok ⟨2 * (resolution + 2), 4 * (resolution + 2)⟩)
    (words : 2 * (resolution + 2) * (4 * (resolution + 2)) ≤ 4294967296) (spot spot' : Vec4 ℝ) :
    SameTiles octet ((Array.replicate 8 ⟨0, 131072⟩).setIfInBounds 3 stored) resolution
      (spotted resolution spot) (spotted resolution spot') := by
  refine ⟨⟨sized, by simp [spotted], words⟩, ⟨sized, by simp [spotted], words⟩, ?_⟩
  intro cascade present slot inside packed held awake pos found
  obtain rfl : cascade = 0 := Nat.lt_one_iff.mp present
  rw [Nat.zero_mul, Nat.zero_add] at held
  have other : slot ≠ 3 := by
    rintro rfl
    rw [Array.getElem?_setIfInBounds_self_of_lt (by simp)] at held
    exact awake (Option.some.inj held ▸ asleep)
  obtain ⟨column, row⟩ := (Grid.inTile_iff sized present inside).mp found
  obtain ⟨left, above⟩ := (Grid.isTiling sized).within 0 present slot inside pos found
  have apart : ¬(pos.x / (resolution + 2) = 1 ∧ pos.y / (resolution + 2) = 1) := by
    rw [column, row]
    simp only [octet]
    omega
  obtain ⟨rows, columns⟩ := (Nat.div_mod_unique (Nat.zero_lt_of_lt left)).mpr
    ⟨Nat.add_comm pos.x (2 * (resolution + 2) * pos.y), left⟩
  obtain ⟨indexed, room⟩ := Texels.index_of_lt left above words
  have shows : ∀ value, (spotted resolution value).read pos = .ok ⟨1, 1, 1, 1⟩ := by
    intro value
    refine bind_eq_ok.mpr ⟨_, indexed, fetch_eq_ok.mpr ?_⟩
    rw [spotted, Array.getElem?_map, Array.getElem?_range, if_pos room, Option.map_some,
      Nat.mul_comm pos.y, rows, columns, if_neg apart]
  rw [shows, shows]

theorem octetSampler_looksAlike {stored stored' : PackedProbe} (asleep : stored.IsInactive)
    (asleep' : stored'.IsInactive) (spot spot' : Vec4 ℝ) :
    (octetSampler stored spot).LooksAlike (octetSampler stored' spot') := by
  constructor
  case volume => rfl
  case length => simp [octetSampler]
  case probes =>
    intro place packed packed' held held'
    simp only [octetSampler] at held held'
    by_cases fourth : place = 3
    · subst fourth
      rw [Array.getElem?_setIfInBounds_self_of_lt (by simp)] at held held'
      exact .inr ⟨Option.some.inj held ▸ asleep, Option.some.inj held' ▸ asleep'⟩
    · rw [Array.getElem?_setIfInBounds_ne (Ne.symm fourth)] at held held'
      exact .inl (Option.some.inj (held'.symm.trans held))
  case irradiance => exact octet_sameTiles asleep rfl (by decide) spot spot'
  case distance => exact octet_sameTiles asleep rfl (by decide) spot spot'

theorem octetSampler_isServed {stored : PackedProbe} (asleep : stored.IsInactive) (spot : Vec4 ℝ) :
    (octetSampler stored spot).IsServed := by
  have alike := octetSampler_looksAlike asleep asleep spot spot
  constructor
  case cascades => exact (by decide : 1 ≤ maxCascades)
  case counts => exact (by decide : 2 ≤ 2 ∧ 2 ≤ 2 ∧ 2 ≤ 2)
  case fits =>
    intro cascade present
    obtain rfl : cascade = 0 := Nat.lt_one_iff.mp present
    exact (by decide : Grid.Fits ⟨⟨2, 2, 2⟩, 1⟩ ⟨0, 0, 0⟩)
  case probes => simp [octetSampler, octet, Grid.size]
  case irradiance => exact alike.irradiance.first
  case distance => exact alike.distance.first

/-- What has been left in the tiles of a probe that went to sleep, and where it was moved to, is not
seen from the middle of its cell. -/
theorem inactive_overlooked_octet : ∃ light,
    (octetSampler ⟨0, 0⟩ ⟨7, 0, 0, 1⟩).sample ⟨0, 0, 0⟩ ⟨0, 1, 0⟩ 1 = .ok light ∧
      (octetSampler ⟨100, 7⟩ ⟨0, 5, 2, 0⟩).sample ⟨0, 0, 0⟩ ⟨0, 1, 0⟩ 1 = .ok light := by
  have asleep : PackedProbe.IsInactive ⟨0, 0⟩ := rfl
  have asleep' : PackedProbe.IsInactive ⟨100, 7⟩ := rfl
  exact (inactive_overlooked (octetSampler_looksAlike asleep asleep' _ _) _ _ _).2
    (octetSampler_isServed asleep _)

end Sampler

end IrradianceField
