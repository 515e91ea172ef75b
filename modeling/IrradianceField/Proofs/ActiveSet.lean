import IrradianceField.DistanceField.Shape
import IrradianceField.Proofs.Classification

/-!
The active set: what a classification pass has built after some of its threads, and that the order
of the threads decides no more than the order of the list.
-/

namespace IrradianceField.Classification

variable {α : Type} [Scalar α]
variable (volume : Volume α) (pass : ClassificationPass) (field : DistanceField α)

def wakes (probes : Array PackedProbe) (index : Nat) : Bool :=
  decide (index < volume.grid.size) &&
    match judge volume pass field probes index with
    | .ok (_, probe) => !probe.state.isInactive
    | .error _ => false

/-- The memory after the threads `done`: their probes are in their slots, all other slots are as
they were, and those that woke are listed in order. -/
structure Built (start : ProbeStore) (done : List Nat) (memory : ProbeStore) : Prop where
  size : memory.probes.size = start.probes.size
  capacity : memory.active.entries.size = start.active.entries.size
  kept : ∀ place, (∀ i ∈ done, i < volume.grid.size → place ≠ volume.site pass.cascade i) →
    memory.probes[place]? = start.probes[place]?
  written : ∀ i ∈ done, i < volume.grid.size → ∃ probe,
    judge volume pass field start.probes i = .ok (volume.site pass.cascade i, probe) ∧
      memory.probes[volume.site pass.cascade i]? = some probe.pack
  count : memory.active.count = (done.filter (wakes volume pass field start.probes)).length
  listed : memory.active.toList = done.filter (wakes volume pass field start.probes)

variable {volume pass field} {start memory after : ProbeStore} {done order : List Nat}
  {index count threads : Nat}

theorem built_nil (cleared : start.active.count = 0) : Built volume pass field start [] start where
  size := rfl
  capacity := rfl
  kept := fun _ _ => rfl
  written := fun _ member => absurd member List.not_mem_nil
  count := cleared
  listed := by rw [ActiveList.toList, cleared]; rfl

theorem wakes_of_judge {probes : Array PackedProbe} {place : Nat} {probe : Probe α}
    (inside : index < volume.grid.size)
    (judged : judge volume pass field probes index = .ok (place, probe)) :
    wakes volume pass field probes index = !probe.state.isInactive := by
  simp only [wakes, judged, inside, decide_true, Bool.true_and]

theorem lt_size_of_wakes {probes : Array PackedProbe}
    (awake : wakes volume pass field probes index = true) : index < volume.grid.size := by
  simp only [wakes, Bool.and_eq_true, decide_eq_true_eq] at awake
  exact awake.1

theorem length_wakes_le {probes : Array PackedProbe} (once : done.Nodup) :
    (done.filter (wakes volume pass field probes)).length ≤ volume.grid.size := by
  have below : done.filter (wakes volume pass field probes) ⊆ List.range volume.grid.size :=
    fun i member => List.mem_range.mpr (lt_size_of_wakes (List.mem_filter.mp member).2)
  simpa using (List.subperm_of_subset (once.filter _) below).length_le

theorem Built.judge_eq (built : Built volume pass field start done memory)
    (small : volume.grid.IsSmall) (fresh : index ∉ done) (inside : index < volume.grid.size) :
    judge volume pass field memory.probes index = judge volume pass field start.probes index := by
  refine judge_congr small inside built.size (built.kept _ ?_)
  intro i member below same
  exact fresh (Volume.site_inj inside below same ▸ member)

theorem Built.step (built : Built volume pass field start done memory)
    (counted : volume.grid.probesPerCascade = .ok count) (small : volume.grid.IsSmall)
    (once : (done ++ [index]).Nodup)
    (ran : classify volume pass field memory index = .ok after) :
    Built volume pass field start (done ++ [index]) after := by
  have fresh : index ∉ done := fun member =>
    (List.nodup_append.mp once).2.2 index member index List.mem_cons_self rfl
  obtain ⟨rfl, -, words⟩ := Grid.probesPerCascade_eq_ok.mp counted
  by_cases inside : index < volume.grid.size
  · rw [classify_eq_ok counted inside, built.judge_eq small fresh inside] at ran
    obtain ⟨place, probe, active, judged, room, appended, rfl⟩ := ran
    obtain ⟨rfl, -⟩ := judge_eq_ok small inside judged
    have awake := wakes_of_judge inside judged
    have bound : ((done ++ [index]).filter (wakes volume pass field start.probes)).length ≤
        volume.grid.size := length_wakes_le once
    have list : active.count = memory.active.count + [index].countP
        (wakes volume pass field start.probes) ∧
        active.entries.size = memory.active.entries.size ∧
        active.toList = memory.active.toList ++
          [index].filter (wakes volume pass field start.probes) := by
      cases asleep : probe.state.isInactive with
      | true =>
          rw [asleep] at appended awake
          obtain rfl : memory.active = active := by simpa using appended
          simp [awake]
      | false =>
          rw [asleep] at appended awake
          rw [List.filter_append, List.length_append, ← built.count] at bound
          simp only [awake, Bool.not_false, List.filter_cons_of_pos, List.filter_nil,
            List.length_singleton] at bound
          obtain ⟨next, capacity, listed⟩ := ActiveList.append_eq_ok (by omega) appended
          simp [awake, next, capacity, listed]
    obtain ⟨next, capacity, listed⟩ := list
    refine ⟨by simp [built.size], capacity.trans built.capacity, ?_, ?_, ?_, ?_⟩
    · intro place other
      have away := other index (by simp) inside
      rw [Array.getElem?_setIfInBounds_ne (Ne.symm away)]
      exact built.kept place fun i member => other i (List.mem_append_left _ member)
    · intro i member below
      rcases List.mem_append.mp member with earlier | last
      · obtain ⟨found, judgedFound, held⟩ := built.written i earlier below
        refine ⟨found, judgedFound, ?_⟩
        rw [Array.getElem?_setIfInBounds_ne, held]
        intro same
        exact fresh (Volume.site_inj inside below same ▸ earlier)
      · obtain rfl := List.mem_singleton.mp last
        exact ⟨probe, judged, Array.getElem?_setIfInBounds_self_of_lt room⟩
    · rw [next, List.filter_append, List.length_append, built.count, List.countP_eq_length_filter]
    · rw [listed, List.filter_append, built.listed]
  · rw [classify_of_ge counted (Nat.not_lt.mp inside), Except.ok.injEq] at ran
    subst ran
    have asleep : [index].filter (wakes volume pass field start.probes) = [] := by
      simp [wakes, inside]
    refine ⟨built.size, built.capacity, ?_, ?_, ?_, ?_⟩
    · intro place other
      exact built.kept place fun i member => other i (List.mem_append_left _ member)
    · intro i member below
      rcases List.mem_append.mp member with earlier | last
      · exact built.written i earlier below
      · exact absurd (List.mem_singleton.mp last ▸ below) inside
    · rw [List.filter_append, asleep, List.append_nil, built.count]
    · rw [List.filter_append, asleep, List.append_nil, built.listed]

theorem Built.ends (built : Built volume pass field start done memory)
    (counted : volume.grid.probesPerCascade = .ok count) (small : volume.grid.IsSmall)
    (once : (done ++ [index]).Nodup)
    (room : (pass.cascade + 1) * volume.grid.size ≤ start.probes.size)
    (capacity : volume.grid.size ≤ start.active.entries.size)
    (judged : index < volume.grid.size → ∃ place probe,
      judge volume pass field start.probes index = .ok (place, probe)) :
    ∃ after, classify volume pass field memory index = .ok after := by
  have fresh : index ∉ done := fun member =>
    (List.nodup_append.mp once).2.2 index member index List.mem_cons_self rfl
  obtain ⟨rfl, -, -⟩ := Grid.probesPerCascade_eq_ok.mp counted
  by_cases inside : index < volume.grid.size
  · obtain ⟨place, probe, judged⟩ := judged inside
    obtain ⟨rfl, -⟩ := judge_eq_ok small inside judged
    have within : volume.site pass.cascade index < memory.probes.size :=
      built.size ▸ (Volume.site_lt inside).trans_le room
    have appended : ∃ active, (if probe.state.isInactive then .ok memory.active
        else memory.active.append index) = .ok active := by
      split
      · exact ⟨_, rfl⟩
      · rename_i awake
        have bound : ((done ++ [index]).filter (wakes volume pass field start.probes)).length ≤
            volume.grid.size := length_wakes_le once
        rw [List.filter_append, List.length_append, ← built.count, List.filter_cons_of_pos
          (by rw [wakes_of_judge inside judged]; simpa using awake), List.filter_nil,
          List.length_singleton] at bound
        exact ActiveList.append_of_lt (by rw [built.capacity]; omega)
    obtain ⟨active, appended⟩ := appended
    exact ⟨_, (classify_eq_ok counted inside).mpr
      ⟨_, probe, active, (built.judge_eq small fresh inside).trans judged, within, appended, rfl⟩⟩
  · exact ⟨memory, classify_of_ge counted (Nat.not_lt.mp inside)⟩

section Runs

variable (counted : volume.grid.probesPerCascade = .ok count)
  (small : volume.grid.IsSmall) (once : order.Nodup) (cleared : start.active.count = 0)

include counted small once cleared

theorem built_of_run (ran : order.foldlM (classify volume pass field) start = .ok after) :
    Built volume pass field start order after :=
  foldlM_tracks (Built volume pass field start)
    (fun _ _ rest _ _ split built ran => built.step counted small
      (List.Nodup.sublist (by rw [split]; simp) once) ran)
    (built_nil cleared) ran

theorem run_ends (room : (pass.cascade + 1) * volume.grid.size ≤ start.probes.size)
    (capacity : volume.grid.size ≤ start.active.entries.size)
    (judged : ∀ i < volume.grid.size, ∃ place probe,
      judge volume pass field start.probes i = .ok (place, probe)) :
    ∃ after, order.foldlM (classify volume pass field) start = .ok after := by
  obtain ⟨after, ran, -⟩ := foldlM_ends (Built volume pass field start) (l := order) (s := start)
    (f := classify volume pass field)
    (fun done i rest memory split built => by
      have prefixOnce : (done ++ [i]).Nodup := List.Nodup.sublist (by rw [split]; simp) once
      obtain ⟨next, ran⟩ := built.ends counted small prefixOnce room capacity (judged i)
      exact ⟨next, ran, built.step counted small prefixOnce ran⟩)
    (built_nil cleared)
  exact ⟨after, ran⟩

end Runs

theorem Built.isActive_eq (built : Built volume pass field start done memory)
    (small : volume.grid.IsSmall) (member : index ∈ done) (inside : index < volume.grid.size) :
    volume.isActive memory.probes pass.cascade index =
      wakes volume pass field start.probes index := by
  obtain ⟨probe, judged, held⟩ := built.written index member inside
  obtain ⟨-, ⟨slot, physical, placed⟩, -⟩ := judge_eq_ok small inside judged
  have read : volume.readProbe memory.probes pass.cascade index =
      .ok (.unpack probe.pack : Probe α) := by
    rw [Volume.readProbe, physical, ok_bind, placed, ok_bind, fetch_eq_ok.mpr held, ok_bind,
      pure_eq_ok]
  rw [Volume.isActive, read, wakes_of_judge inside judged]
  simp only [unpack_of_judge small inside judged]

theorem Built.outside (built : Built volume pass field start done memory) {place : Nat}
    (outside : place < pass.cascade * volume.grid.size ∨
      (pass.cascade + 1) * volume.grid.size ≤ place) :
    memory.probes[place]? = start.probes[place]? := by
  refine built.kept place fun i _ inside same => ?_
  have low : pass.cascade * volume.grid.size ≤ place := same ▸ Volume.le_site inside
  have high : place < (pass.cascade + 1) * volume.grid.size := same ▸ Volume.site_lt inside
  omega

theorem filter_wakes_perm {probes : Array PackedProbe} (once : order.Nodup)
    (covers : ∀ i < volume.grid.size, i ∈ order) :
    (order.filter (wakes volume pass field probes)).Perm
      ((List.range volume.grid.size).filter (wakes volume pass field probes)) := by
  refine (List.perm_ext_iff_of_nodup (once.filter _) (List.nodup_range.filter _)).mpr fun i => ?_
  simp only [List.mem_filter, List.mem_range]
  constructor
  · rintro ⟨-, awake⟩
    exact ⟨lt_size_of_wakes awake, awake⟩
  · rintro ⟨inside, awake⟩
    exact ⟨covers i inside, awake⟩

theorem Built.probes_eq {order' : List Nat} {after' : ProbeStore}
    (built : Built volume pass field start order after)
    (built' : Built volume pass field start order' after')
    (covers : ∀ i < volume.grid.size, i ∈ order) (covers' : ∀ i < volume.grid.size, i ∈ order') :
    after.probes = after'.probes := by
  refine Array.ext_getElem? fun place => ?_
  by_cases own : ∃ i < volume.grid.size, place = volume.site pass.cascade i
  · obtain ⟨i, inside, rfl⟩ := own
    obtain ⟨probe, judged, held⟩ := built.written i (covers i inside) inside
    obtain ⟨probe', judged', held'⟩ := built'.written i (covers' i inside) inside
    obtain rfl : probe = probe' := by
      rw [judged] at judged'
      exact (Prod.mk.inj (Except.ok.inj judged')).2
    rw [held, held']
  · have other : ∀ i < volume.grid.size, place ≠ volume.site pass.cascade i :=
      fun i inside same => own ⟨i, inside, same⟩
    rw [built.kept place fun i _ inside => other i inside,
      built'.kept place fun i _ inside => other i inside]

/-- A pass over all probes of a cascade builds its active set in any order of any number of threads,
unless the field does not answer or a plane is out of range, which stops it in every order. -/
theorem run_any_order {probes : Array PackedProbe} {entries : Array Nat}
    (counted : volume.grid.probesPerCascade = .ok count) (present : pass.cascade < maxCascades)
    (fits : volume.grid.Fits (volume.scrollOf pass.cascade))
    (words : (pass.cascade + 1) * count ≤ 4294967296)
    (room : (pass.cascade + 1) * count ≤ probes.size) (capacity : count ≤ entries.size) :
    (∃ settled : Array PackedProbe, settled.size = probes.size ∧
      (∀ place, place < pass.cascade * count ∨ (pass.cascade + 1) * count ≤ place →
        settled[place]? = probes[place]?) ∧
      ∀ threads (order : List Nat), count ≤ threads → order.Perm (List.range threads) →
        ∃ active : ActiveList, order.foldlM (classify volume pass field) ⟨probes, ⟨0, entries⟩⟩ =
            .ok ⟨settled, active⟩ ∧
          active.toList.Perm
            ((List.range count).filter (volume.isActive settled pass.cascade)) ∧
          active.count =
            ((List.range count).filter (volume.isActive settled pass.cascade)).length ∧
          active.count ≤ count ∧ active.entries.size = entries.size) ∨
      ¬(field.Answers ∧ pass.Fits volume.grid.counts) ∧
        ∀ threads (order : List Nat), count ≤ threads → order.Perm (List.range threads) →
          ∃ e, order.foldlM (classify volume pass field) ⟨probes, ⟨0, entries⟩⟩ = .error e := by
  obtain ⟨rfl, -, all⟩ := Grid.probesPerCascade_eq_ok.mp counted
  have small := fits.isSmall
  have covers : ∀ {threads} {order : List Nat}, volume.grid.size ≤ threads → order.Perm (List.range threads) →
      order.Nodup ∧ ∀ i < volume.grid.size, i ∈ order := fun enough perm =>
    ⟨perm.nodup_iff.mpr List.nodup_range,
      fun i inside => perm.mem_iff.mpr (List.mem_range.mpr (inside.trans_le enough))⟩
  by_cases judged : ∀ i < volume.grid.size, ∃ place probe,
      judge volume pass field probes i = .ok (place, probe)
  · left
    obtain ⟨once, every⟩ := covers le_rfl (List.Perm.refl (List.range volume.grid.size))
    obtain ⟨first, ran⟩ : ∃ after, (List.range volume.grid.size).foldlM
        (classify volume pass field) ⟨probes, ⟨0, entries⟩⟩ = .ok after :=
      run_ends counted small once rfl room capacity judged
    have built := built_of_run counted small once rfl ran
    refine ⟨first.probes, built.size, ?_, ?_⟩
    · exact fun place => built.outside
    · intro threads order enough perm
      obtain ⟨once', every'⟩ := covers enough perm
      obtain ⟨⟨settled, active⟩, ran'⟩ : ∃ after, order.foldlM
          (classify volume pass field) ⟨probes, ⟨0, entries⟩⟩ = .ok after :=
        run_ends counted small once' rfl room capacity judged
      have built' := built_of_run counted small once' rfl ran'
      obtain rfl : first.probes = settled := built.probes_eq built' every every'
      have awake : ∀ i < volume.grid.size, volume.isActive first.probes pass.cascade i =
          wakes volume pass field probes i := fun i inside =>
        built'.isActive_eq small (every' i inside) inside
      have same : (List.range volume.grid.size).filter (volume.isActive first.probes pass.cascade) =
          (List.range volume.grid.size).filter (wakes volume pass field probes) :=
        List.filter_congr fun i member => awake i (List.mem_range.mp member)
      have perm' : (order.filter (wakes volume pass field probes)).Perm
          ((List.range volume.grid.size).filter (wakes volume pass field probes)) :=
        filter_wakes_perm once' every'
      refine ⟨active, ran', ?_, ?_, ?_, built'.capacity⟩
      · rw [built'.listed, same]
        exact perm'
      · rw [built'.count, same]
        exact perm'.length_eq
      · rw [built'.count]
        exact length_wakes_le once'
  · right
    refine ⟨?_, ?_⟩
    · rintro ⟨answers, planes⟩
      exact judged fun i inside =>
        judge_of_answers answers planes present fits counted inside words room
    · intro threads order enough perm
      obtain ⟨once, every⟩ := covers enough perm
      rcases ok_or_error (order.foldlM (classify volume pass field) ⟨probes, ⟨0, entries⟩⟩) with
        ⟨after, ran⟩ | stops
      · have built := built_of_run counted small once rfl ran
        exact absurd (fun i inside =>
          let ⟨probe, found, _⟩ := built.written i (every i inside) inside
          ⟨_, probe, found⟩) judged
      · exact stops

theorem run_any_order_reversed :
    ∃ after : ProbeStore, (List.range 32).reverse.foldlM
        (classify .octet ⟨0, .lattice, false, ⟨1, 0, 0⟩, ⟨1, 0, 0⟩⟩ (Shape.field [.constant 1.0] 0.1))
        ⟨.replicate 8 ⟨0, 65536⟩, ⟨0, .replicate 8 0⟩⟩ = .ok after ∧
      after.active.toList.Perm
        ((List.range 8).filter (Volume.octet.isActive after.probes 0)) := by
  rcases @run_any_order Float32 _ .octet ⟨0, .lattice, false, ⟨1, 0, 0⟩, ⟨1, 0, 0⟩⟩
      (Shape.field [.constant 1.0] 0.1) 8 (.replicate 8 ⟨0, 65536⟩) (.replicate 8 0) rfl (by decide) (by decide) (by decide)
      (by decide) (by decide) with ⟨settled, -, -, runs⟩ | ⟨stuck, -⟩
  · obtain ⟨active, ran, listed, -⟩ := runs 32 (List.range 32).reverse (by decide)
      (List.reverse_perm _)
    exact ⟨_, ran, listed⟩
  · refine absurd ⟨⟨fun _ => ⟨_, rfl⟩, ⟨_, rfl⟩, fun _ => ⟨_, _, rfl, rfl⟩⟩, ?_⟩ stuck
    decide

end IrradianceField.Classification
