import IrradianceField.Probe.Classification
import IrradianceField.Proofs.Addressing

/-!
Classification in any order: every probe is judged by what its own slot held before the pass, so
that the slots, the active list and its counter come out right whichever thread is first.
-/

namespace IrradianceField

variable {α : Type} [Scalar α]

structure DistanceField.Answers (f : DistanceField α) : Prop where
  sample : ∀ pos, ∃ distance, f.sample pos = .ok distance
  finest : ∃ size, f.voxelSize 0 = .ok size
  precision : ∀ pos, ∃ cascade size, f.cascadeAt pos = .ok cascade ∧ f.voxelSize cascade = .ok size

def ClassificationPass.Fits (p : ClassificationPass) (counts : Vec3 Nat) : Prop :=
  counts.x + p.scrollClear.x ≤ 4294967296 ∧ counts.y + p.scrollClear.y ≤ 4294967296 ∧
    counts.z + p.scrollClear.z ≤ 4294967296

instance {p : ClassificationPass} {counts : Vec3 Nat} : Decidable (p.Fits counts) :=
  inferInstanceAs (Decidable (_ ∧ _ ∧ _))

/-- Whether a buffer holds an active probe, with history or without, for a logical index. -/
def Volume.isActive (v : Volume α) (probes : Array PackedProbe) (cascade index : Nat) : Bool :=
  match v.readProbe probes cascade index with
  | .ok probe => !probe.state.isInactive
  | .error _ => false

theorem Volume.stored_of_isActive {v : Volume α} {probes : Array PackedProbe} {cascade index : Nat}
    (awake : v.isActive probes cascade index = true) : ∃ slot packed,
      v.physicalIndex cascade index = .ok slot ∧
        probes[cascade * v.grid.size + slot]? = some packed ∧
          (Probe.unpack packed : Probe α).state ≠ .inactive := by
  rw [isActive] at awake
  split at awake
  · rename_i probe read
    obtain ⟨slot, physical, read⟩ := bind_eq_ok.mp read
    obtain ⟨place, placed, read⟩ := bind_eq_ok.mp read
    obtain ⟨packed, held, read⟩ := bind_eq_ok.mp read
    obtain rfl := Except.ok.inj read
    rw [Grid.slot_eq_ok placed, fetch_eq_ok] at held
    exact ⟨slot, packed, physical, held, by simpa [ProbeState.isInactive] using awake⟩
  · exact absurd awake (by simp)

theorem Volume.readProbe_of_slot {v : Volume α} {probes others : Array PackedProbe}
    {cascade index : Nat} {probe : Probe α} {packed : PackedProbe} (small : v.grid.IsSmall)
    (inside : index < v.grid.size) (read : v.readProbe probes cascade index = .ok probe)
    (held : others[v.site cascade index]? = some packed) :
    v.readProbe others cascade index = .ok (.unpack packed) := by
  obtain ⟨slot, physical, read⟩ := bind_eq_ok.mp read
  obtain ⟨place, placed, -⟩ := bind_eq_ok.mp read
  have own : place = v.site cascade index := by
    rw [Grid.slot_eq_ok placed, Volume.physicalIndex_eq_ok small inside physical]
    rfl
  rw [Volume.readProbe, physical, ok_bind, placed, ok_bind, own, fetch_eq_ok.mpr held, ok_bind,
    pure_eq_ok]

namespace ActiveList

theorem append_eq_ok {l m : ActiveList} {index : Nat} (short : l.count + 1 < 4294967296)
    (ran : l.append index = .ok m) :
    m.count = l.count + 1 ∧ m.entries.size = l.entries.size ∧
      m.toList = l.toList ++ [index] := by
  simp only [append, bind_eq_ok, store_eq_ok, pure_eq_ok, Except.ok.injEq] at ran
  obtain ⟨_, ⟨room, rfl⟩, rfl⟩ := ran
  have next : Word.wrappingAdd l.count 1 = l.count + 1 := Nat.mod_eq_of_lt short
  refine ⟨next, by simp, ?_⟩
  have room' : l.count < l.entries.toList.length := by simpa using room
  simp only [toList, next, Array.toList_setIfInBounds]
  rw [List.take_succ_eq_append_getElem (by simpa using room')]
  simp [List.take_set_of_le]

theorem append_of_lt {l : ActiveList} {index : Nat} (room : l.count < l.entries.size) :
    ∃ m, l.append index = .ok m := by
  simp only [append, store_of_lt room, ok_bind, pure_eq_ok]
  exact ⟨_, rfl⟩

end ActiveList

namespace Classification

variable (volume : Volume α) (pass : ClassificationPass) (field : DistanceField α)

/-- What a probe was before the pass; nothing is known of one whose slot held another. -/
def previous (probes : Array PackedProbe) (coords : Vec3 Nat) (slot : Nat) :
    Except Fault (Probe α) := do
  let isNew ← if pass.reset then pure true else pass.isScrolledIn coords volume.grid.counts
  if isNew then return .dormant else return .unpack (← fetch probes slot)

def judge (probes : Array PackedProbe) (index : Nat) : Except Fault (Nat × Probe α) := do
  let spacing ← volume.spacing pass.cascade
  let coords ← volume.grid.probeCoords index
  let slot ← volume.grid.slot pass.cascade (← volume.wrappedIndex pass.cascade coords)
  let previous ← previous volume pass probes coords slot
  let base ← volume.basePosition pass.cascade coords
  let offset? ← relocate pass.mode field base (previous.worldOffset spacing) spacing
  return (slot, match offset? with
    | some offset => settle previous offset spacing
    | none => .dormant)

variable {volume pass field} {probes : Array PackedProbe} {index : Nat}

theorem classify_eq_ok {memory after : ProbeStore} {count : Nat}
    (counted : volume.grid.probesPerCascade = .ok count) (inside : index < count) :
    classify volume pass field memory index = .ok after ↔ ∃ place probe active,
      judge volume pass field memory.probes index = .ok (place, probe) ∧
        place < memory.probes.size ∧
        (if probe.state.isInactive then .ok memory.active else memory.active.append index) =
          .ok active ∧
        after = ⟨memory.probes.setIfInBounds place probe.pack, active⟩ := by
  have unfolded : classify volume pass field memory index = (do
      let (slot, probe) ← judge volume pass field memory.probes index
      let probes ← store memory.probes slot probe.pack
      let active ←
        if probe.state.isInactive then .ok memory.active else memory.active.append index
      return ⟨probes, active⟩) := by
    rw [classify, counted, ok_bind, if_neg (Nat.not_le.mpr inside)]
    simp only [judge, previous, bind_assoc, ite_bind]
    rfl
  simp only [unfolded, ← ite_bind, bind_eq_ok, store_eq_ok, pure_eq_ok, Except.ok.injEq]
  constructor
  · rintro ⟨⟨place, probe⟩, judged, _, ⟨room, rfl⟩, active, appended, rfl⟩
    exact ⟨place, probe, active, judged, room, appended, rfl⟩
  · rintro ⟨place, probe, active, judged, room, appended, rfl⟩
    exact ⟨⟨place, probe⟩, judged, _, ⟨room, rfl⟩, active, appended, rfl⟩

theorem classify_of_ge {memory : ProbeStore} {count : Nat}
    (counted : volume.grid.probesPerCascade = .ok count) (outside : count ≤ index) :
    classify volume pass field memory index = .ok memory := by
  simp only [classify, counted, ok_bind, if_pos outside, pure_eq_ok]

theorem settle_state {before : Probe α} {offset : Vec3 α} {spacing : α} :
    (settle before offset spacing).state = .activated ∨
      (settle before offset spacing).state = .active ∧ before.state ≠ .inactive := by
  unfold settle
  simp only [Bool.or_eq_true, ProbeState.isInactive, decide_eq_true_eq]
  split
  · exact .inl rfl
  · rename_i kept
    exact .inr ⟨rfl, fun asleep => kept (.inl asleep)⟩

theorem isInactive_settle {before : Probe α} {offset : Vec3 α} {spacing : α} :
    (settle before offset spacing).state.isInactive = false := by
  rcases @settle_state α _ before offset spacing with new | ⟨old, -⟩
  · rw [new]
    rfl
  · rw [old]
    rfl

theorem judge_eq_ok {place : Nat} {probe : Probe α} (small : volume.grid.IsSmall)
    (inside : index < volume.grid.size)
    (ran : judge volume pass field probes index = .ok (place, probe)) :
    place = volume.site pass.cascade index ∧
      (∃ slot, volume.physicalIndex pass.cascade index = .ok slot ∧
        volume.grid.slot pass.cascade slot = .ok place) ∧ ∃ before,
      previous volume pass probes (volume.grid.coordsAt index) place = .ok before ∧
        (probe.state = .inactive ∨ probe.state = .activated ∨
          probe.state = .active ∧ before.state ≠ .inactive) := by
  simp only [judge, bind_eq_ok, pure_eq_ok, Except.ok.injEq, Prod.mk.injEq] at ran
  obtain ⟨spacing, -, coords, coordsOf, slot, wrapped, _, placed, before, known, base, -, offset?, -,
    rfl, rfl⟩ := ran
  have physical : volume.physicalIndex pass.cascade index = .ok slot := by
    rw [Volume.physicalIndex, coordsOf, ok_bind, wrapped]
  obtain ⟨rfl, -⟩ := Grid.probeCoords_eq_ok.mp coordsOf
  have own := Grid.slot_eq_ok placed
  rw [Volume.physicalIndex_eq_ok small inside physical] at own
  refine ⟨own, ⟨slot, physical, placed⟩, before, known, ?_⟩
  cases offset? with
  | none => exact .inl rfl
  | some offset => exact .inr settle_state

theorem far_of_relocate {mode : RelocationMode} {base before : Vec3 α} {spacing : α}
    (ran : relocate mode field base before spacing = .ok none) : ∃ pos distance,
      field.sample pos = .ok distance ∧
        Scalar.lt (distanceLimit * spacing) (Scalar.abs distance) = true := by
  cases mode with
  | iterative =>
      obtain ⟨threshold, -, ran⟩ := bind_eq_ok.mp ran
      obtain ⟨⟨normal, distance⟩, sampled, ran⟩ := bind_eq_ok.mp ran
      dsimp only at ran
      split at ran
      · rename_i far
        simp only [DistanceField.sampleGradient, bind_eq_ok, pure_eq_ok, Except.ok.injEq,
          Prod.mk.injEq] at sampled
        obtain ⟨_, -, _, -, _, -, _, -, _, -, _, found, -, rfl⟩ := sampled
        exact ⟨_, _, found, far⟩
      · obtain ⟨here, -, ran⟩ := bind_eq_ok.mp ran
        simp only [pure_eq_ok, ok_bind, ← apply_ite] at ran
        simp at ran
  | lattice =>
      obtain ⟨threshold, -, ran⟩ := bind_eq_ok.mp ran
      obtain ⟨distance, found, ran⟩ := bind_eq_ok.mp ran
      split at ran
      · rename_i far
        exact ⟨base, distance, found, far⟩
      · obtain ⟨best, -, ran⟩ := bind_eq_ok.mp ran
        simp at ran

theorem awake_of_near {place : Nat} {probe : Probe α} {spacing : α}
    (spaced : volume.spacing pass.cascade = .ok spacing)
    (near : ∀ pos distance, field.sample pos = .ok distance →
      Scalar.lt (distanceLimit * spacing) (Scalar.abs distance) = false)
    (judged : judge volume pass field probes index = .ok (place, probe)) :
    probe.state ≠ .inactive := by
  simp only [judge, bind_eq_ok, pure_eq_ok, Except.ok.injEq, Prod.mk.injEq] at judged
  obtain ⟨_, found, _, -, _, -, _, -, before, -, base, -, offset?, moved, -, rfl⟩ := judged
  obtain rfl := Except.ok.inj (spaced.symm.trans found)
  cases offset? with
  | none =>
      obtain ⟨pos, distance, sampled, far⟩ := far_of_relocate moved
      exact absurd far (by rw [near pos distance sampled]; decide)
  | some offset => exact of_decide_eq_false isInactive_settle

theorem judge_congr {other : Array PackedProbe} (small : volume.grid.IsSmall)
    (inside : index < volume.grid.size) (sizes : probes.size = other.size)
    (same : probes[volume.site pass.cascade index]? = other[volume.site pass.cascade index]?) :
    judge volume pass field probes index = judge volume pass field other index := by
  unfold judge
  refine bind_congr fun spacing => ?_
  rcases ok_or_error (volume.grid.probeCoords index) with ⟨coords, found⟩ | ⟨e, found⟩
  swap
  · simp only [found, error_bind]
  rcases ok_or_error (volume.wrappedIndex pass.cascade coords) with ⟨wrapped, ran⟩ | ⟨e, ran⟩
  swap
  · simp only [found, ran, ok_bind, error_bind]
  rcases ok_or_error (volume.grid.slot pass.cascade wrapped) with ⟨slot, placed⟩ | ⟨e, placed⟩
  swap
  · simp only [found, ran, placed, ok_bind, error_bind]
  obtain ⟨rfl, -⟩ := Grid.probeCoords_eq_ok.mp found
  have own : slot = volume.site pass.cascade index := by
    rw [Grid.slot_eq_ok placed, Volume.wrappedIndex_eq_ok small (Grid.coordsAt_contained inside) ran]
    rfl
  simp only [found, ran, placed, ok_bind, previous, own, fetch_congr sizes same]

theorem unpack_pack_state {probe : Probe α} (small : probe.state.code < 65536) :
    (Probe.unpack probe.pack : Probe α).state = probe.state := by
  obtain ⟨offset, ⟨code⟩⟩ := probe
  simp only [Probe.unpack, Probe.pack, Word.halves_ofHalves, ProbeState.mk.injEq]
  exact Nat.mod_eq_of_lt small

theorem unpack_of_judge {place : Nat} {probe : Probe α} (small : volume.grid.IsSmall)
    (inside : index < volume.grid.size)
    (judged : judge volume pass field probes index = .ok (place, probe)) :
    (Probe.unpack probe.pack : Probe α).state = probe.state := by
  obtain ⟨-, -, before, -, state⟩ := judge_eq_ok small inside judged
  refine unpack_pack_state ?_
  rcases state with state | state | ⟨state, -⟩ <;> rw [state] <;> decide

theorem entered_of_fits {coord count clear : Nat} (inside : coord < count)
    (fits : count + clear ≤ 4294967296) (direction : Int) :
    ∃ isNew, ClassificationPass.entered coord count clear direction = .ok isNew := by
  have sum : Word.add coord clear = .ok (coord + clear) := Word.add_eq_ok.mpr ⟨rfl, by omega⟩
  unfold ClassificationPass.entered
  split
  · exact ⟨_, rfl⟩
  · split
    · exact ⟨_, by rw [sum]; rfl⟩
    · exact ⟨_, rfl⟩

theorem isScrolledIn_of_fits {coords counts : Vec3 Nat} (fits : pass.Fits counts)
    (inside : coords.x < counts.x ∧ coords.y < counts.y ∧ coords.z < counts.z) :
    ∃ isNew, pass.isScrolledIn coords counts = .ok isNew := by
  obtain ⟨x, hx⟩ := entered_of_fits inside.1 fits.1 pass.scrollDirections.x
  obtain ⟨y, hy⟩ := entered_of_fits inside.2.1 fits.2.1 pass.scrollDirections.y
  obtain ⟨z, hz⟩ := entered_of_fits inside.2.2 fits.2.2 pass.scrollDirections.z
  simp only [ClassificationPass.isScrolledIn, hx, hy, hz, ok_bind, pure_eq_ok]
  split
  · exact ⟨_, rfl⟩
  · split <;> exact ⟨_, rfl⟩

theorem relocate_of_answers (answers : field.Answers) (mode : RelocationMode)
    (base previous : Vec3 α) (spacing : α) :
    ∃ offset?, relocate mode field base previous spacing = .ok offset? := by
  obtain ⟨size, finest⟩ := answers.finest
  cases mode with
  | iterative =>
      obtain ⟨cascade, voxel, located, precision⟩ := answers.precision (base + previous)
      choose distance sampled using answers.sample
      simp only [relocate, relocateIterative, surfaceThreshold, DistanceField.sampleGradient,
        DistanceField.difference, finest, located, precision, sampled, ok_bind, pure_eq_ok]
      split
      · exact ⟨_, rfl⟩
      · split
        · exact ⟨_, rfl⟩
        · split
          · exact ⟨_, rfl⟩
          · split <;> exact ⟨_, rfl⟩
  | lattice =>
      choose distance sampled using answers.sample
      have candidates : ∀ (l : List Nat) best, ∃ found,
          l.foldlM (improve field base (relocationLimit * spacing)) best = .ok found := by
        intro l best
        have step : ∀ best i, ∃ next,
            improve field base (relocationLimit * spacing) best i = .ok next := fun best i => by
          simp only [improve, sampled, ok_bind, pure_eq_ok]
          exact ⟨_, rfl⟩
        obtain ⟨found, ran, -⟩ := foldlM_ends (fun _ _ => True) (s := best)
          (fun _ i _ best _ _ => (step best i).imp fun _ next => ⟨next, trivial⟩) trivial
        exact ⟨found, ran⟩
      simp only [relocate, relocateLattice, surfaceThreshold, finest, sampled, ok_bind, pure_eq_ok]
      split
      · exact ⟨_, rfl⟩
      · obtain ⟨found, ran⟩ := candidates (List.range (latticeSize * latticeSize * latticeSize))
          (distance base, .zero)
        exact ⟨_, by rw [ran]; rfl⟩

theorem judge_of_answers (answers : field.Answers) (planes : pass.Fits volume.grid.counts)
    (present : pass.cascade < maxCascades) (fits : volume.grid.Fits (volume.scrollOf pass.cascade))
    {count : Nat} (counted : volume.grid.probesPerCascade = .ok count)
    (inside : index < volume.grid.size) (words : (pass.cascade + 1) * volume.grid.size ≤ 4294967296)
    (room : (pass.cascade + 1) * volume.grid.size ≤ probes.size) :
    ∃ place probe, judge volume pass field probes index = .ok (place, probe) := by
  have all := (Grid.probesPerCascade_eq_ok.mp counted).2.2
  have contained := Grid.coordsAt_contained inside
  obtain ⟨p, found⟩ := Volume.placement_of_lt (v := volume) present
  obtain ⟨base, based⟩ : ∃ base, volume.basePosition pass.cascade (volume.grid.coordsAt index) =
      .ok base :=
    ⟨_, Volume.basePosition_of_placement found (Grid.counts_pos_of_lt_size inside) _⟩
  have slot : volume.grid.slot pass.cascade (volume.grid.slotAt (volume.scrollOf pass.cascade) index)
      = .ok (volume.site pass.cascade index) :=
    Grid.slot_of_lt counted (Grid.slotAt_lt inside) words
  obtain ⟨packed, held⟩ := fetch_of_lt ((Volume.site_lt inside).trans_le room)
  obtain ⟨isNew, scrolled⟩ := isScrolledIn_of_fits planes contained
  have known : ∃ before : Probe α, previous volume pass probes (volume.grid.coordsAt index)
      (volume.site pass.cascade index) = .ok before := by
    simp only [previous, scrolled, held, ok_bind, pure_eq_ok, ↓reduceIte]
    split
    · exact ⟨_, rfl⟩
    · split <;> exact ⟨_, rfl⟩
  obtain ⟨before, known⟩ := known
  obtain ⟨offset?, moved⟩ := relocate_of_answers answers pass.mode base
    (before.worldOffset p.spacing) p.spacing
  have wrapped := Volume.wrappedIndex_of_fits present all fits contained
  have slot' : volume.grid.slot pass.cascade (volume.grid.indexAt (volume.grid.wrapAt
      (volume.scrollOf pass.cascade) (volume.grid.coordsAt index))) =
      .ok (volume.site pass.cascade index) := slot
  simp only [judge, Volume.spacing, found, Grid.probeCoords_of_lt all inside, wrapped, slot', known,
    based, moved, ok_bind, pure_eq_ok]
  exact ⟨_, _, rfl⟩

end Classification

end IrradianceField
