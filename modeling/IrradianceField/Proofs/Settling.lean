import IrradianceField.Scalar.Real
import IrradianceField.Proofs.ActiveSet
import IrradianceField.Proofs.Fetching
import IrradianceField.Proofs.Relocating

/-!
Settling: while nothing around them changes, the probes of a cascade come to rest in two passes. The
place that a probe is moved to does not depend on where it was, and what is lost of it when it is
stored is too little to count as a move.
-/

namespace IrradianceField.Classification

open Scalar

/-- A pass over a cascade that has not moved. -/
def standing (cascade : Nat) (directions : Vec3 Int) : ClassificationPass :=
  ⟨cascade, .lattice, false, ⟨0, 0, 0⟩, directions⟩

section Targets

variable {α : Type} [Scalar α]

/-- The slot of a probe and where the field moves it; what is stored of it has no part in this. -/
def target (volume : Volume α) (field : DistanceField α) (cascade index : Nat) :
    Except Fault (Nat × Option (Vec3 α)) := do
  let spacing ← volume.spacing cascade
  let coords ← volume.grid.probeCoords index
  let slot ← volume.grid.slot cascade (← volume.wrappedIndex cascade coords)
  let base ← volume.basePosition cascade coords
  return (slot, ← relocateLattice field base spacing)

/-- Whether a probe is to be active. -/
def isWanted (volume : Volume α) (field : DistanceField α) (cascade index : Nat) : Bool :=
  match target volume field cascade index with
  | .ok (_, offset?) => offset?.isSome
  | .error _ => false

def outcome (spacing : α) (offset? : Option (Vec3 α)) (before : Probe α) : Probe α :=
  match offset? with
  | some offset => settle before offset spacing
  | none => .dormant

def resting (spacing : α) (offset? : Option (Vec3 α)) : Probe α :=
  match offset? with
  | some offset => ⟨offset.divide spacing, .active⟩
  | none => .dormant

variable {volume : Volume α} {field : DistanceField α} {probes : Array PackedProbe}
  {directions : Vec3 Int} {spacing : α} {offset? : Option (Vec3 α)} {before probe : Probe α}
  {packed : PackedProbe} {cascade index place : Nat}

theorem isScrolledIn_standing (coords counts : Vec3 Nat) :
    (standing cascade directions).isScrolledIn coords counts = .ok false := rfl

theorem judge_standing (spaced : volume.spacing cascade = .ok spacing) :
    judge volume (standing cascade directions) field probes index = .ok (place, probe) ↔
      ∃ offset? packed, target volume field cascade index = .ok (place, offset?) ∧
        probes[place]? = some packed ∧ probe = outcome spacing offset? (.unpack packed) := by
  have known : ∀ coords slot, previous volume (standing cascade directions) probes coords slot =
      (do return (Probe.unpack (← fetch probes slot) : Probe α)) := fun coords slot => by
    have reset : (standing cascade directions).reset = false := rfl
    simp only [previous, reset, isScrolledIn_standing, ok_bind, Bool.false_eq_true, if_false]
  have cascades : (standing cascade directions).cascade = cascade := rfl
  have mode : (standing cascade directions).mode = .lattice := rfl
  simp only [judge, target, known, cascades, mode, spaced, relocate, bind_eq_ok, fetch_eq_ok,
    pure_eq_ok, Except.ok.injEq, Prod.mk.injEq]
  constructor
  · rintro ⟨_, rfl, coords, found, wrapped, slot, _, placed, _, ⟨packed, held, rfl⟩, base, based,
      offset?, moved, rfl, rfl⟩
    exact ⟨offset?, packed, ⟨_, rfl, coords, found, wrapped, slot, _, placed, base, based, _, moved,
      rfl, rfl⟩, held, rfl⟩
  · rintro ⟨offset?, packed, ⟨_, rfl, coords, found, wrapped, slot, _, placed, base, based, _, moved,
      rfl, rfl⟩, held, rfl⟩
    exact ⟨_, rfl, coords, found, wrapped, slot, _, placed, _, ⟨packed, held, rfl⟩, base, based, _,
      moved, rfl, rfl⟩

theorem target_eq_ok (aimed : target volume field cascade index = .ok (place, offset?)) :
    ∃ slot, volume.wrappedIndex cascade (volume.grid.coordsAt index) = .ok slot ∧
      volume.physicalIndex cascade index = .ok slot ∧ volume.grid.slot cascade slot = .ok place ∧
      ∃ base, ∀ {spacing}, volume.spacing cascade = .ok spacing →
        relocateLattice field base spacing = .ok offset? := by
  simp only [target, bind_eq_ok, pure_eq_ok, Except.ok.injEq, Prod.mk.injEq] at aimed
  obtain ⟨spacing, spaced, coords, found, slot, wrapped, _, placed, base, -, _, moved, rfl, rfl⟩ :=
    aimed
  have physical : volume.physicalIndex cascade index = .ok slot := by
    rw [Volume.physicalIndex, found, ok_bind, wrapped]
  obtain ⟨rfl, -⟩ := Grid.probeCoords_eq_ok.mp found
  refine ⟨slot, wrapped, physical, placed, base, fun spaced' => ?_⟩
  obtain rfl := Except.ok.inj (spaced.symm.trans spaced')
  exact moved

theorem place_of_target (small : volume.grid.IsSmall) (inside : index < volume.grid.size)
    (aimed : target volume field cascade index = .ok (place, offset?)) :
    place = volume.site cascade index := by
  obtain ⟨slot, -, physical, placed, -⟩ := target_eq_ok aimed
  rw [Grid.slot_eq_ok placed, Volume.physicalIndex_eq_ok small inside physical]
  rfl

theorem readProbe_of_target (aimed : target volume field cascade index = .ok (place, offset?))
    (held : probes[place]? = some packed) :
    volume.readProbe probes cascade index = .ok (.unpack packed) := by
  obtain ⟨slot, -, physical, placed, -⟩ := target_eq_ok aimed
  rw [Volume.readProbe, physical, ok_bind, placed, ok_bind, fetch_eq_ok.mpr held, ok_bind,
    pure_eq_ok]

theorem isSmall_of_target (words : volume.grid.size < 4294967296) (some : 0 < volume.grid.size)
    (aimed : ∀ i < volume.grid.size, ∃ place offset?,
      target volume field cascade i = .ok (place, offset?)) : volume.grid.IsSmall := by
  refine @Grid.isSmall_of_wrappedCoords _ (volume.scrollOf cascade) words some fun c inside => ?_
  obtain ⟨place, offset?, aimed⟩ := aimed _ (Grid.indexAt_lt inside)
  obtain ⟨slot, wrapped, -⟩ := target_eq_ok aimed
  rw [Grid.coordsAt_indexAt inside] at wrapped
  obtain ⟨p, found, -⟩ := bind_eq_ok.mp wrapped
  rw [Volume.wrappedIndex_eq found] at wrapped
  obtain ⟨w, ran, -⟩ := bind_eq_ok.mp wrapped
  exact ⟨w, ran⟩

theorem isInactive_outcome :
    (outcome spacing offset? before).state.isInactive = !offset?.isSome := by
  cases offset? with
  | none => rfl
  | some offset => exact isInactive_settle

theorem unpack_outcome_state : (Probe.unpack (outcome spacing offset? before).pack : Probe α).state =
    (outcome spacing offset? before).state := by
  refine unpack_pack_state ?_
  cases offset? with
  | none =>
      change 0 < 65536
      decide
  | some offset =>
      rcases @settle_state α _ before offset spacing with new | ⟨old, -⟩
      · rw [outcome, new]
        decide
      · rw [outcome, old]
        decide

theorem unpack_resting_state : (Probe.unpack (resting spacing offset?).pack : Probe α).state =
    if offset?.isSome then .active else .inactive := by
  cases offset? with
  | none => exact unpack_pack_state (Nat.zero_lt_succ _)
  | some offset =>
      refine unpack_pack_state ?_
      change 2 < 65536
      decide

theorem isWanted_of_target (aimed : target volume field cascade index = .ok (place, offset?)) :
    isWanted volume field cascade index = offset?.isSome := by
  rw [isWanted, aimed]

end Targets

section Rest

variable {field : DistanceField ℝ} {base : Vec3 ℝ} {spacing : ℝ} {offset? : Option (Vec3 ℝ)}
  {offset : Vec3 ℝ}

theorem distance_le_of_stored (positive : 0 < spacing)
    (moved : relocateLattice field base spacing = .ok (some offset)) (before : Probe ℝ) :
    offset.distance ((Probe.unpack (settle before offset spacing).pack : Probe ℝ).worldOffset
      spacing) ≤ 0.1 * spacing := by
  set probe := settle before offset spacing
  -- Half a step of the code along each axis, which is far less than a move.
  have lost : ∀ axis,
      |(offset - (Probe.unpack probe.pack : Probe ℝ).worldOffset spacing).axis axis| ≤
        spacing / 65534 := by
    intro axis
    have scaled : offset.axis axis = probe.offset.axis axis * spacing := by
      have share : probe.offset.axis axis = offset.axis axis / spacing :=
        Vec3.axis_divide offset spacing axis
      rw [share, div_mul_cancel₀ _ positive.ne']
    have stored : ((Probe.unpack probe.pack : Probe ℝ).worldOffset spacing).axis axis =
        (Probe.unpack probe.pack : Probe ℝ).offset.axis axis * spacing :=
      Vec3.axis_scale _ spacing axis
    have near := (isStorable_settle positive moved before axis).2
    rw [Vec3.axis_sub, scaled, stored, ← sub_mul, abs_mul, abs_of_pos positive, abs_sub_comm]
    calc |(Probe.unpack probe.pack : Probe ℝ).offset.axis axis - probe.offset.axis axis| * spacing
        ≤ 1 / 65534 * spacing := mul_le_mul_of_nonneg_right near positive.le
      _ = spacing / 65534 := by ring
  calc offset.distance ((Probe.unpack probe.pack : Probe ℝ).worldOffset spacing)
      ≤ 2 * (spacing / 65534) := Vec3.length_le_of_axes lost
    _ ≤ 0.1 * spacing := by linarith

theorem outcome_of_stored (positive : 0 < spacing)
    (moved : relocateLattice field base spacing = .ok offset?) (before : Probe ℝ) :
    outcome spacing offset? (.unpack (outcome spacing offset? before).pack) =
      resting spacing offset? := by
  cases offset? with
  | none => rfl
  | some offset =>
      have near : offset.distance ((Probe.unpack (outcome spacing (some offset) before).pack :
          Probe ℝ).worldOffset spacing) ≤ 0.1 * spacing :=
        distance_le_of_stored positive moved before
      have awake : (Probe.unpack (outcome spacing (some offset) before).pack :
          Probe ℝ).state.isInactive = false := by
        rw [unpack_outcome_state, isInactive_outcome]
        rfl
      have still := decide_eq_false (not_lt.mpr near)
      rw [outcome, settle, awake, lt_real, activationDistance, still]
      rfl

end Rest

section Passes

variable {α : Type} [Scalar α]

def runIn (volume : Volume α) (pass : ClassificationPass) (field : DistanceField α)
    (memory : ProbeStore) (order : List Nat) : Except Fault ProbeStore :=
  order.foldlM (classify volume pass field) { memory with active := memory.active.clear }

theorem run_eq_runIn {volume : Volume α} {pass : ClassificationPass} {field : DistanceField α}
    {memory : ProbeStore} {order : List Nat} (covering : threads volume = .ok order) :
    run volume pass field memory = runIn volume pass field memory order := by
  rw [run, covering, ok_bind, runIn]

def runAll (volume : Volume α) (pass : ClassificationPass) (field : DistanceField α)
    (memory : ProbeStore) (orders : List (List Nat)) : Except Fault ProbeStore :=
  orders.foldlM (runIn volume pass field) memory

/-- An order of threads, of which there is one for each of `count` probes at least. -/
def IsComplete (count : Nat) (order : List Nat) : Prop :=
  ∃ threads, count ≤ threads ∧ order.Perm (List.range threads)

variable {volume : Volume α} {field : DistanceField α} {directions : Vec3 Int} {spacing : α}
  {cascade index count : Nat} {order : List Nat} {start memory after : ProbeStore}

theorem IsComplete.once (complete : IsComplete count order) : order.Nodup := by
  obtain ⟨threads, -, perm⟩ := complete
  exact perm.nodup_iff.mpr List.nodup_range

theorem IsComplete.mem (complete : IsComplete count order) : ∀ i < count, i ∈ order := by
  obtain ⟨threads, enough, perm⟩ := complete
  exact fun i inside => perm.mem_iff.mpr (List.mem_range.mpr (inside.trans_le enough))

theorem Built.outcome (built : Built volume (standing cascade directions) field start order after)
    (spaced : volume.spacing cascade = .ok spacing) (member : index ∈ order)
    (inside : index < volume.grid.size) : ∃ offset? packed,
      target volume field cascade index = .ok (volume.site cascade index, offset?) ∧
        start.probes[volume.site cascade index]? = some packed ∧
        after.probes[volume.site cascade index]? =
          some (outcome spacing offset? (.unpack packed)).pack := by
  obtain ⟨probe, judged, held⟩ := built.written index member inside
  obtain ⟨offset?, packed, aimed, was, rfl⟩ := (judge_standing spaced).mp judged
  exact ⟨offset?, packed, aimed, was, held⟩

theorem Built.wakes_eq (built : Built volume (standing cascade directions) field start order after)
    (spaced : volume.spacing cascade = .ok spacing) (member : index ∈ order)
    (inside : index < volume.grid.size) :
    wakes volume (standing cascade directions) field start.probes index =
      isWanted volume field cascade index := by
  obtain ⟨probe, judged, -⟩ := built.written index member inside
  obtain ⟨offset?, packed, aimed, -, rfl⟩ := (judge_standing spaced).mp judged
  rw [wakes_of_judge inside judged, isInactive_outcome, isWanted_of_target aimed, Bool.not_not]

theorem runIn_of_empty (counted : volume.grid.probesPerCascade = .ok count)
    (empty : volume.grid.size = 0) {pass : ClassificationPass} :
    ∃ after, runIn volume pass field memory order = .ok after ∧
      Built volume pass field { memory with active := memory.active.clear } order after := by
  obtain ⟨rfl, -⟩ := Grid.probesPerCascade_eq_ok.mp counted
  have idle : ∀ l : List Nat, l.foldlM (classify volume pass field)
      { memory with active := memory.active.clear } =
        .ok { memory with active := memory.active.clear } := by
    intro l
    induction l with
    | nil => rfl
    | cons i rest ih => rw [List.foldlM_cons, classify_of_ge counted (by omega), ok_bind, ih]
  have asleep : order.filter (wakes volume pass field memory.probes) = [] :=
    List.filter_eq_nil_iff.mpr fun i _ awake => by
      have inside := lt_size_of_wakes awake
      omega
  refine ⟨_, idle order, rfl, rfl, fun _ _ => rfl, fun i _ inside => by omega, ?_, ?_⟩
  · rw [asleep]
    rfl
  · rw [asleep]
    rfl

theorem runIn_ends (counted : volume.grid.probesPerCascade = .ok count)
    (spaced : volume.spacing cascade = .ok spacing)
    (room : (cascade + 1) * count ≤ memory.probes.size)
    (capacity : count ≤ memory.active.entries.size)
    (aimed : ∀ i < count, ∃ place offset?, target volume field cascade i = .ok (place, offset?))
    (complete : IsComplete count order) :
    ∃ after, runIn volume (standing cascade directions) field memory order = .ok after ∧
      Built volume (standing cascade directions) field
        { memory with active := memory.active.clear } order after := by
  obtain ⟨rfl, -, words⟩ := Grid.probesPerCascade_eq_ok.mp counted
  -- Wrapping all probes around shows that the counts are small, but for a grid without probes.
  rcases Nat.eq_zero_or_pos volume.grid.size with none | some
  · exact runIn_of_empty counted none
  · have small := isSmall_of_target words some aimed
    have judged : ∀ i < volume.grid.size, ∃ place probe,
        judge volume (standing cascade directions) field memory.probes i = .ok (place, probe) := by
      intro i inside
      obtain ⟨place, offset?, aimed⟩ := aimed i inside
      obtain rfl := place_of_target small inside aimed
      have within : volume.site cascade i < memory.probes.size :=
        (Volume.site_lt inside).trans_le room
      exact ⟨_, _, (judge_standing spaced).mpr
        ⟨offset?, _, aimed, Array.getElem?_eq_getElem within, rfl⟩⟩
    obtain ⟨after, ran⟩ := @run_ends α _ volume (standing cascade directions) field
      { memory with active := memory.active.clear } order _ counted small complete.once rfl room
      capacity judged
    exact ⟨after, ran, built_of_run counted small complete.once rfl ran⟩

/-- No pass ends if there is a probe that has no slot or that the field does not judge. -/
theorem not_runIn (counted : volume.grid.probesPerCascade = .ok count)
    (spaced : volume.spacing cascade = .ok spacing) (inside : index < count)
    (stuck : ¬∃ place offset?, target volume field cascade index = .ok (place, offset?))
    (complete : IsComplete count order) :
    runIn volume (standing cascade directions) field memory order ≠ .ok after := by
  intro ran
  refine foldlM_reaches (fun _ => True) (fun _ => False) (fun _ _ _ _ _ _ => ⟨trivial, id⟩)
    (complete.mem index inside) (fun before next _ ran => ?_) trivial ran
  obtain ⟨place, probe, -, judged, -⟩ := (classify_eq_ok counted inside).mp ran
  obtain ⟨offset?, -, aimed, -⟩ := (judge_standing spaced).mp judged
  exact stuck ⟨place, offset?, aimed⟩

end Passes

section Repeating

variable {volume : Volume ℝ} {field : DistanceField ℝ} {directions : Vec3 Int} {spacing : ℝ}
  {cascade count n : Nat} {order : List Nat} {start memory after : ProbeStore}

structure Repeated (volume : Volume ℝ) (field : DistanceField ℝ) (cascade : Nat) (spacing : ℝ)
    (start : ProbeStore) (n : Nat) (memory : ProbeStore) : Prop where
  size : memory.probes.size = start.probes.size
  capacity : memory.active.entries.size = start.active.entries.size
  kept : ∀ place, (∀ i < volume.grid.size, place ≠ volume.site cascade i) →
    memory.probes[place]? = start.probes[place]?
  moved : 0 < n → ∀ i < volume.grid.size, ∃ offset? before,
    target volume field cascade i = .ok (volume.site cascade i, offset?) ∧
      memory.probes[volume.site cascade i]? = some (outcome spacing offset? before).pack
  rests : 1 < n → ∀ i < volume.grid.size, ∃ offset?,
    target volume field cascade i = .ok (volume.site cascade i, offset?) ∧
      memory.probes[volume.site cascade i]? = some (resting spacing offset?).pack
  listed : 0 < n → memory.active.toList.Perm
    ((List.range volume.grid.size).filter (isWanted volume field cascade))

theorem repeated_zero : Repeated volume field cascade spacing start 0 start where
  size := rfl
  capacity := rfl
  kept := fun _ _ => rfl
  moved := fun some => absurd some (lt_irrefl 0)
  rests := fun more => absurd more (by decide)
  listed := fun some => absurd some (lt_irrefl 0)

theorem Repeated.step (repeated : Repeated volume field cascade spacing start n memory)
    (spaced : volume.spacing cascade = .ok spacing) (positive : 0 < spacing)
    (complete : IsComplete volume.grid.size order)
    (built : Built volume (standing cascade directions) field
      { memory with active := memory.active.clear } order after) :
    Repeated volume field cascade spacing start (n + 1) after := by
  have covers := complete.mem
  refine ⟨built.size.trans repeated.size, built.capacity.trans repeated.capacity, ?_, ?_, ?_, ?_⟩
  · intro place other
    rw [← repeated.kept place other]
    exact built.kept place fun i _ inside => other i inside
  · intro _ i inside
    obtain ⟨offset?, packed, aimed, -, held⟩ := built.outcome spaced (covers i inside) inside
    exact ⟨offset?, _, aimed, held⟩
  · intro more i inside
    -- The pass before has already stored what the field says of this probe.
    obtain ⟨offset?, packed, aimed, was, held⟩ := built.outcome spaced (covers i inside) inside
    obtain ⟨found?, before, aimed', was'⟩ := repeated.moved (Nat.lt_of_succ_lt_succ more) i inside
    obtain rfl : offset? = found? := (Prod.mk.inj (Except.ok.inj (aimed.symm.trans aimed'))).2
    obtain rfl := Option.some.inj (was.symm.trans was')
    obtain ⟨-, -, -, -, base, moved⟩ := target_eq_ok aimed
    rw [outcome_of_stored positive (moved spaced)] at held
    exact ⟨offset?, aimed, held⟩
  · intro _
    have wanted : (List.range volume.grid.size).filter
        (wakes volume (standing cascade directions) field memory.probes) =
          (List.range volume.grid.size).filter (isWanted volume field cascade) :=
      List.filter_congr fun i member =>
        built.wakes_eq spaced (covers i (List.mem_range.mp member)) (List.mem_range.mp member)
    rw [built.listed, ← wanted]
    exact filter_wakes_perm complete.once covers

theorem repeated_of_target (counted : volume.grid.probesPerCascade = .ok count)
    (spaced : volume.spacing cascade = .ok spacing) (positive : 0 < spacing)
    (room : (cascade + 1) * count ≤ start.probes.size)
    (capacity : count ≤ start.active.entries.size)
    (aimed : ∀ i < count, ∃ place offset?, target volume field cascade i = .ok (place, offset?))
    {orders : List (List Nat)} (complete : ∀ order ∈ orders, IsComplete count order) :
    ∃ after, runAll volume (standing cascade directions) field start orders = .ok after ∧
      Repeated volume field cascade spacing start orders.length after := by
  obtain ⟨rfl, -⟩ := Grid.probesPerCascade_eq_ok.mp counted
  refine foldlM_ends (fun done memory =>
    Repeated volume field cascade spacing start done.length memory) ?_ repeated_zero
  intro done order rest memory split repeated
  have last : IsComplete volume.grid.size order := complete order (by simp [split])
  obtain ⟨after, ran, built⟩ := runIn_ends counted spaced
    (room.trans_eq repeated.size.symm) (capacity.trans_eq repeated.capacity.symm) aimed last
  refine ⟨after, ran, ?_⟩
  rw [List.length_append, List.length_singleton]
  exact repeated.step spaced positive last built

theorem Repeated.probes_eq {n' : Nat} {memory' : ProbeStore}
    (repeated : Repeated volume field cascade spacing start n memory) (more : 1 < n)
    (repeated' : Repeated volume field cascade spacing start n' memory') (more' : 1 < n') :
    memory.probes = memory'.probes := by
  refine Array.ext_getElem? fun place => ?_
  by_cases own : ∃ i < volume.grid.size, place = volume.site cascade i
  · obtain ⟨i, inside, rfl⟩ := own
    obtain ⟨offset?, aimed, held⟩ := repeated.rests more i inside
    obtain ⟨found?, aimed', held'⟩ := repeated'.rests more' i inside
    obtain rfl : offset? = found? := (Prod.mk.inj (Except.ok.inj (aimed.symm.trans aimed'))).2
    rw [held, held']
  · have other : ∀ i < volume.grid.size, place ≠ volume.site cascade i :=
      fun i inside same => own ⟨i, inside, same⟩
    rw [repeated.kept place other, repeated'.kept place other]

theorem Repeated.readProbe (repeated : Repeated volume field cascade spacing start n memory)
    (more : 1 < n) {index : Nat} (inside : index < volume.grid.size) : ∃ probe : Probe ℝ,
      volume.readProbe memory.probes cascade index = .ok probe ∧
        probe.state = if isWanted volume field cascade index then .active else .inactive := by
  obtain ⟨offset?, aimed, held⟩ := repeated.rests more index inside
  refine ⟨_, readProbe_of_target aimed held, ?_⟩
  rw [unpack_resting_state, isWanted_of_target aimed]

theorem Repeated.isActive_eq (repeated : Repeated volume field cascade spacing start n memory)
    (more : 1 < n) {index : Nat} (inside : index < volume.grid.size) :
    volume.isActive memory.probes cascade index = isWanted volume field cascade index := by
  obtain ⟨probe, found, state⟩ := repeated.readProbe more inside
  simp only [Volume.isActive, found, state]
  cases isWanted volume field cascade index <;> rfl

theorem Repeated.outside (repeated : Repeated volume field cascade spacing start n memory)
    {place : Nat} (outside : place < cascade * volume.grid.size ∨
      (cascade + 1) * volume.grid.size ≤ place) :
    memory.probes[place]? = start.probes[place]? := by
  refine repeated.kept place fun i inside same => ?_
  have low : cascade * volume.grid.size ≤ place := same ▸ Volume.le_site inside
  have high : place < (cascade + 1) * volume.grid.size := same ▸ Volume.site_lt inside
  omega

theorem fits_standing (words : volume.grid.size < 4294967296) (inside : 0 < volume.grid.size) :
    (standing cascade directions).Fits volume.grid.counts := by
  obtain ⟨x, y, z⟩ := Grid.counts_le_size inside
  exact ⟨(x.trans_lt words).le, (y.trans_lt words).le, (z.trans_lt words).le⟩

theorem target_of_answers (answers : field.Answers)
    (fits : volume.grid.Fits (volume.scrollOf cascade)) (words : (cascade + 1) * count ≤ 4294967296)
    (counted : volume.grid.probesPerCascade = .ok count)
    (spaced : volume.spacing cascade = .ok spacing)
    (room : (cascade + 1) * count ≤ memory.probes.size) {index : Nat} (inside : index < count) :
    ∃ place offset?, target volume field cascade index = .ok (place, offset?) := by
  obtain ⟨rfl, -, all⟩ := Grid.probesPerCascade_eq_ok.mp counted
  obtain ⟨p, found, -⟩ := bind_eq_ok.mp spaced
  have present : cascade < maxCascades := by
    by_contra missing
    rw [Volume.placement, dif_neg missing] at found
    cases found
  obtain ⟨place, probe, judged⟩ := @judge_of_answers ℝ _ volume (standing cascade ⟨0, 0, 0⟩) field
    memory.probes index answers (fits_standing all (Nat.zero_lt_of_lt inside)) present fits _ counted
    inside words room
  obtain ⟨offset?, -, aimed, -⟩ := (judge_standing spaced).mp judged
  exact ⟨place, offset?, aimed⟩

end Repeating

/-- While the data and the field stay the same, two passes bring the probes of a cascade to rest: from
then on, all of them are inactive or active, and no pass changes any of them. Every pass, the first one
included, lists the same probes. -/
theorem settles_in_two_passes {volume : Volume ℝ} {field : DistanceField ℝ} {cascade count : Nat}
    {directions : Vec3 Int} {spacing : ℝ} {start : ProbeStore}
    (counted : volume.grid.probesPerCascade = .ok count)
    (spaced : volume.spacing cascade = .ok spacing) (positive : 0 < spacing)
    (room : (cascade + 1) * count ≤ start.probes.size)
    (capacity : count ≤ start.active.entries.size) :
    (∃ settled : Array PackedProbe, settled.size = start.probes.size ∧
      (∀ place, place < cascade * count ∨ (cascade + 1) * count ≤ place →
        settled[place]? = start.probes[place]?) ∧
      (∀ i < count, ∃ probe : Probe ℝ, volume.readProbe settled cascade i = .ok probe ∧
        (probe.state = .inactive ∨ probe.state = .active)) ∧
      ∀ orders, (∀ order ∈ orders, IsComplete count order) → ∃ after,
        runAll volume (standing cascade directions) field start orders = .ok after ∧
          (1 ≤ orders.length → after.active.toList.Perm
            ((List.range count).filter (volume.isActive settled cascade))) ∧
          (2 ≤ orders.length → after.probes = settled)) ∨
      ¬(field.Answers ∧ volume.grid.Fits (volume.scrollOf cascade) ∧
          (cascade + 1) * count ≤ 4294967296) ∧
        ∀ orders, orders ≠ [] → (∀ order ∈ orders, IsComplete count order) → ∃ e,
          runAll volume (standing cascade directions) field start orders = .error e := by
  obtain ⟨rfl, -⟩ := Grid.probesPerCascade_eq_ok.mp counted
  by_cases aimed : ∀ i < volume.grid.size, ∃ place offset?,
      target volume field cascade i = .ok (place, offset?)
  · left
    have whole : IsComplete volume.grid.size (List.range volume.grid.size) :=
      ⟨_, le_rfl, List.Perm.refl _⟩
    obtain ⟨rest, -, repeated⟩ := @repeated_of_target volume field directions spacing cascade _ start
      counted spaced positive room capacity aimed
      [List.range volume.grid.size, List.range volume.grid.size] (by simpa using whole)
    have active : (List.range volume.grid.size).filter (volume.isActive rest.probes cascade) =
        (List.range volume.grid.size).filter (isWanted volume field cascade) :=
      List.filter_congr fun i member =>
        repeated.isActive_eq Nat.one_lt_two (List.mem_range.mp member)
    refine ⟨rest.probes, repeated.size, fun place => repeated.outside, ?_, ?_⟩
    · intro i inside
      obtain ⟨probe, found, state⟩ := repeated.readProbe Nat.one_lt_two inside
      refine ⟨probe, found, ?_⟩
      rw [state]
      cases isWanted volume field cascade i
      · exact .inl rfl
      · exact .inr rfl
    · intro orders complete
      obtain ⟨after, ran, passed⟩ :=
        repeated_of_target counted spaced positive room capacity aimed complete
      refine ⟨after, ran, fun some => ?_, fun more => passed.probes_eq more repeated Nat.one_lt_two⟩
      rw [active]
      exact passed.listed some
  · right
    refine ⟨?_, ?_⟩
    · rintro ⟨answers, fits, words⟩
      exact aimed fun i inside => target_of_answers answers fits words counted spaced room inside
    · intro orders some complete
      obtain ⟨order, rest, rfl⟩ := List.exists_cons_of_ne_nil some
      simp only [not_forall] at aimed
      obtain ⟨i, inside, stuck⟩ := aimed
      rcases ok_or_error (runIn volume (standing cascade directions) field start order) with
        ⟨after, ran⟩ | ⟨e, stopped⟩
      · exact absurd ran
          (not_runIn counted spaced inside stuck (complete order List.mem_cons_self))
      · exact ⟨e, by rw [runAll, List.foldlM_cons, stopped, error_bind]⟩

theorem settles_in_two_passes_drifted : ∃ first second third : ProbeStore,
    run DistanceThread.drifted (standing 0 ⟨1, 0, -1⟩) ledge
        ⟨.replicate 8 ⟨0, 65536⟩, ⟨3, .replicate 8 5⟩⟩ = .ok first ∧
      run DistanceThread.drifted (standing 0 ⟨1, 0, -1⟩) ledge first = .ok second ∧
      run DistanceThread.drifted (standing 0 ⟨1, 0, -1⟩) ledge second = .ok third ∧
        third.probes = second.probes := by
  have covering : threads DistanceThread.drifted = .ok (List.range 32) := rfl
  have complete : IsComplete 8 (List.range 32) := ⟨32, by decide, List.Perm.refl _⟩
  rcases @settles_in_two_passes DistanceThread.drifted ledge 0 8 ⟨1, 0, -1⟩ 2
      ⟨.replicate 8 ⟨0, 65536⟩, ⟨3, .replicate 8 5⟩⟩ rfl rfl two_pos (by decide) (by decide) with
    ⟨settled, -, -, -, runs⟩ | ⟨stuck, -⟩
  · obtain ⟨third, ran, -, rests⟩ := runs (List.replicate 3 (List.range 32))
      fun order member => List.eq_of_mem_replicate member ▸ complete
    obtain ⟨second', ran', -, rests'⟩ := runs (List.replicate 2 (List.range 32))
      fun order member => List.eq_of_mem_replicate member ▸ complete
    obtain ⟨first, ran₁, ran⟩ := foldlM_cons_eq_ok.mp ran
    obtain ⟨second, ran₂, ran⟩ := foldlM_cons_eq_ok.mp ran
    obtain ⟨last, ran₃, done⟩ := foldlM_cons_eq_ok.mp ran
    obtain rfl : last = third := Except.ok.inj done
    obtain rfl : second' = second := by
      refine Except.ok.inj (ran'.symm.trans ?_)
      exact foldlM_cons_eq_ok.mpr ⟨first, ran₁, foldlM_cons_eq_ok.mpr ⟨second, ran₂, rfl⟩⟩
    exact ⟨first, second', last, (run_eq_runIn covering).trans ran₁,
      (run_eq_runIn covering).trans ran₂, (run_eq_runIn covering).trans ran₃,
      (rests (by decide)).trans (rests' (by decide)).symm⟩
  · refine absurd ⟨⟨fun _ => ⟨_, rfl⟩, ⟨_, rfl⟩, fun _ => ⟨_, _, rfl, rfl⟩⟩, ?_⟩ stuck
    decide

end IrradianceField.Classification
