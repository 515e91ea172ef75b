import IrradianceField.Proofs.Batches

/-!
Order of the active list: it decides which batch and which rows of the trace buffer a probe gets,
but nothing of what a frame stores in the atlases.
-/

namespace IrradianceField.Frame

variable {α : Type} [Scalar α] {input : FrameInput α} {met : Surroundings α} {cascade : Nat}
  {resetBlend : Bool} {layer : Layer} {m after : FrameMemory α} {indices : List Nat}

def relisted (m : FrameMemory α) (active : ActiveList) : FrameMemory α :=
  { m with store := { m.store with active } }

section Relisted

variable {active : ActiveList}

omit [Scalar α] in
@[simp] theorem atlas_relisted : layer.atlas (relisted m active) = layer.atlas m := by
  cases layer with
  | irradiance => rfl
  | distance => rfl

omit [Scalar α] in
theorem Ready.relisted (ready : Ready input m) (held : active.IsHeld)
    (perm : m.store.active.toList.Perm active.toList) :
    Ready input (relisted m active) ∧ active.count = m.store.active.count := by
  refine ⟨⟨ready.counted, fun layer => ?_, ready.trace, ready.dispatches, held, ?_, ?_⟩, ?_⟩
  · rw [atlas_relisted]
    exact ready.atlases layer
  · exact fun index listed => ready.inside index (perm.mem_iff.mpr listed)
  · exact perm.nodup_iff.mp ready.once
  · rw [← held.length_toList, ← ready.held.length_toList, perm.length_eq]

theorem edits_relisted (ready : Ready input m)
    (perm : m.store.active.toList.Perm active.toList) {data : Array (Vec4 α)} :
    (edits input met cascade resetBlend layer m m.store.active.toList).foldlM Edit.apply
        (layer.atlas m).data = .ok data ↔
      (edits input met cascade resetBlend layer (relisted m active) active.toList).foldlM Edit.apply
        (layer.atlas m).data = .ok data := by
  rw [edits, edits, atlas_relisted]
  exact Edit.run_perm (distinct_edits (ready.width layer) ready.inside ready.once)
    (perm.flatMap_right _)

theorem light_relisted (ready : Ready input m) (held : active.IsHeld)
    (perm : m.store.active.toList.Perm active.toList)
    (ran : light input met cascade resetBlend m = .ok after) :
    ∃ after', light input met cascade resetBlend (relisted m active) = .ok after' ∧
      ∀ layer : Layer, layer.atlas after' = layer.atlas after := by
  obtain ⟨_, capacity, args, counted, needed, stored, -⟩ := light_eq_ok.mp ran
  obtain rfl := Except.ok.inj (ready.counted.symm.trans counted)
  have lit := lit_of_light ready ran
  obtain ⟨ready', count⟩ := ready.relisted held perm
  have edited : ∀ layer : Layer, (edits input met cascade resetBlend layer (relisted m active)
      active.toList).foldlM Edit.apply (layer.atlas m).data = .ok (layer.atlas after).data :=
    fun layer => (edits_relisted ready perm).mp (lit.edited layer)
  have stored' : BatchDispatch.storeAll (relisted m active).store.active.count
      input.volume.raysCount capacity (relisted m active).dispatches = .ok args := by
    rw [← stored, ← count]
    rfl
  obtain ⟨after', ran'⟩ := light_ends ready' needed stored' fun layer =>
    ⟨(layer.atlas after).data, by rw [atlas_relisted]; exact edited layer⟩
  refine ⟨after', ran', fun layer => ?_⟩
  have lit' := lit_of_light ready' ran'
  have size : (layer.atlas after').size = (layer.atlas after).size := by
    rw [lit'.sizes, lit.sizes, atlas_relisted]
  have data := lit'.edited layer
  rw [atlas_relisted] at data
  exact congrArg₂ Texels.mk (Except.ok.inj (data.symm.trans (edited layer))) size

end Relisted

theorem Lit.changed (lit : Lit input met cascade resetBlend m after) (ready : Ready input m)
    {pos : Vec2 Nat} (inside : pos.x < (layer.atlas m).size.x)
    (differs : (layer.atlas after).read pos ≠ (layer.atlas m).read pos) :
    ∃ index ∈ m.store.active.toList, ∃ slot origin, ∃ texel : Vec2 Nat,
      input.volume.physicalIndex cascade index = .ok slot ∧
      input.volume.grid.tileOrigin cascade slot layer.resolution = .ok origin ∧
      texel.x < layer.resolution ∧ texel.y < layer.resolution ∧
      pos = ⟨origin.x + 1 + texel.x, origin.y + 1 + texel.y⟩ := by
  have width := ready.width layer
  have made := lit.made ready layer
  rw [Texels.read, Texels.read, lit.sizes] at differs
  rcases ok_or_error (Texels.index (layer.atlas m).size pos) with ⟨i, indexed⟩ | ⟨e, failed⟩
  · rw [indexed, ok_bind, ok_bind] at differs
    obtain ⟨e, member, own⟩ : ∃ e ∈ edits input met cascade resetBlend layer m
        m.store.active.toList, e.place = i := by
      by_contra none
      exact differs (fetch_congr made.size (made.kept i fun e member own => none ⟨e, member, own⟩))
    obtain ⟨index, listed, texel, ⟨tx, ty⟩, rfl⟩ := mem_edits member
    obtain ⟨old, new, -, changed, -⟩ := made.changed _ member
    simp only [Updating.edit, Updating.place, bind_eq_ok] at changed
    obtain ⟨_, -, _, -, _, -, _, ⟨target, found, -⟩, -⟩ := changed
    have below := ready.inside index listed
    have small := Grid.isSmall_of_atlasSize below (ready.atlases layer)
    have own : Updating.placeAt input.volume cascade layer.resolution index texel
        (layer.atlas m).size = i := own
    obtain rfl := Updating.position_eq_ok small below found
    obtain rfl : pos = input.volume.texel cascade layer.resolution index texel := by
      obtain rfl := Texels.index_eq_ok indexed
      have left : (input.volume.texel cascade layer.resolution index texel).x <
          (layer.atlas m).size.x := width ▸ Grid.texelAt_x_lt (Grid.slotAt_lt below) tx
      obtain ⟨rows, columns⟩ := mul_add_unique left inside own
      exact congrArg₂ Vec2.mk columns.symm rows.symm
    obtain ⟨slot, physical, tile⟩ := bind_eq_ok.mp found
    obtain ⟨origin, found, same⟩ := Updating.origin_of_texel tile
    exact ⟨index, listed, slot, origin, texel, physical, found, tx, ty, same⟩
  · rw [failed] at differs
    exact absurd rfl differs

/-- Tracing and updating the probes of a cascade store the same in the atlases for any order of the
active list, and nothing but texels of the listed probes' tiles, borders excluded. -/
theorem light_any_order {active : ActiveList} (ready : Ready input m) (held : active.IsHeld)
    (perm : m.store.active.toList.Perm active.toList) :
    ((light input met cascade resetBlend (relisted m active)).toOption.map fun after =>
        (after.irradiance, after.distance)) =
      ((light input met cascade resetBlend m).toOption.map fun after =>
        (after.irradiance, after.distance)) ∧
    ∀ after, light input met cascade resetBlend m = .ok after → ∀ layer : Layer,
      (layer.atlas after).size = (layer.atlas m).size ∧
      (layer.atlas after).data.size = (layer.atlas m).data.size ∧
      ∀ pos : Vec2 Nat, pos.x < (layer.atlas m).size.x →
        (layer.atlas after).read pos ≠ (layer.atlas m).read pos →
        ∃ index ∈ m.store.active.toList, ∃ slot origin, ∃ texel : Vec2 Nat,
          input.volume.physicalIndex cascade index = .ok slot ∧
          input.volume.grid.tileOrigin cascade slot layer.resolution = .ok origin ∧
          texel.x < layer.resolution ∧ texel.y < layer.resolution ∧
          pos = ⟨origin.x + 1 + texel.x, origin.y + 1 + texel.y⟩ := by
  constructor
  · rcases ok_or_error (light input met cascade resetBlend m) with ⟨after, ran⟩ | ⟨e, stops⟩
    · obtain ⟨after', ran', same⟩ := light_relisted ready held perm ran
      have irradiance : after'.irradiance = after.irradiance := same .irradiance
      have distance : after'.distance = after.distance := same .distance
      simp only [ran, ran', Except.toOption, Option.map_some, irradiance, distance]
    · rcases ok_or_error (light input met cascade resetBlend (relisted m active)) with
        ⟨after', ran'⟩ | ⟨e', stops'⟩
      · have back := light_relisted (ready.relisted held perm).1 ready.held perm.symm ran'
        obtain ⟨after, ran, -⟩ := back
        exact absurd (ran.symm.trans stops) (by simp)
      · simp only [stops, stops', Except.toOption, Option.map_none]
  · intro after ran layer
    have lit := lit_of_light ready ran
    refine ⟨lit.sizes layer, ?_, fun pos => lit.changed ready⟩
    exact (lit.made ready layer).size

section Example

def octetInput : FrameInput Float32 where
  config := { Config.standard with cascades := 1, probesCounts := ⟨2, 2, 2⟩, raysCount := 32 }
  cascades := ⟨⟨2, 2, 2⟩, #[]⟩
  volume := .octet
  constants := Config.standard.atlasConstants ⟨0.0, 0.0, 0.0⟩ 0
  records := ⟨#[], #[], #[], 0⟩
  scene := ⟨Shape.field [.constant 1.0] 0.1, #[], ⟨⟨#[], ⟨0, 0⟩⟩, ⟨#[], ⟨0, 0⟩⟩, ⟨#[], ⟨0, 0⟩⟩⟩⟩
  isFirst := false

def octetMemory : FrameMemory Float32 where
  store := ⟨.replicate 8 ⟨0, 131072⟩, .ofList [0, 3, 5]⟩
  dispatches := .replicate 6 0
  trace := .replicate 2048 .zero
  irradiance := ⟨.replicate 512 .zero, ⟨16, 32⟩⟩
  distance := ⟨.replicate 2048 .zero, ⟨32, 64⟩⟩
  lighting := ⟨#[], ⟨0, 0⟩⟩

theorem light_any_order_octet : octetMemory.store.active.toList.Perm [5, 0, 3] ∧
    ((light octetInput ⟨octetInput.scene.field, fun _ => .ok .zero, fun _ _ _ => .ok .zero⟩ 0 false
        (relisted octetMemory (.ofList [5, 0, 3]))).toOption.map fun after =>
          (after.irradiance, after.distance)) =
      ((light octetInput ⟨octetInput.scene.field, fun _ => .ok .zero, fun _ _ _ => .ok .zero⟩ 0 false
        octetMemory).toOption.map fun after => (after.irradiance, after.distance)) := by
  have ready : Ready octetInput octetMemory := by
    have size : octetInput.volume.grid.size = 8 := rfl
    refine ⟨rfl, fun layer => ?_, ?_, ?_, by decide, by decide, by decide⟩
    · cases layer with
      | irradiance => rfl
      | distance => rfl
    · rw [size, octetMemory, Array.size_replicate]
      rfl
    · intro capacity needed
      rw [size] at needed
      obtain rfl : 1 = capacity := Except.ok.inj needed
      simp [octetMemory, Batch.stride]
  have perm : octetMemory.store.active.toList.Perm (ActiveList.ofList [5, 0, 3]).toList := by decide
  exact ⟨perm, (light_any_order ready (by decide) perm).1⟩

end Example

end IrradianceField.Frame
