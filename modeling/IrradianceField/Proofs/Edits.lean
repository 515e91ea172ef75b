import IrradianceField.Proofs.Checked

/-!
Edits: changes of single elements of a buffer, each by what the element held. Edits of different
elements can be made in any order.
-/

namespace IrradianceField

structure Edit (β : Type) where
  place : Nat
  change : β → Except Fault β

namespace Edit

variable {β ι : Type}

def apply (buffer : Array β) (e : Edit β) : Except Fault (Array β) := do
  store buffer e.place (← e.change (← fetch buffer e.place))

structure Made (edits : List (Edit β)) (before after : Array β) : Prop where
  size : after.size = before.size
  changed : ∀ e ∈ edits, ∃ old new,
    before[e.place]? = some old ∧ e.change old = .ok new ∧ after[e.place]? = some new
  kept : ∀ i, (∀ e ∈ edits, e.place ≠ i) → after[i]? = before[i]?

variable {edits : List (Edit β)} {before after : Array β}

theorem apply_eq_ok {e : Edit β} :
    apply before e = .ok after ↔ ∃ old new, before[e.place]? = some old ∧ e.change old = .ok new ∧
      after = before.setIfInBounds e.place new := by
  simp only [apply, bind_eq_ok, fetch_eq_ok, store_eq_ok]
  constructor
  · rintro ⟨old, held, new, changed, -, rfl⟩
    exact ⟨old, new, held, changed, rfl⟩
  · rintro ⟨old, new, held, changed, rfl⟩
    exact ⟨old, held, new, changed, (Array.getElem?_eq_some_iff.mp held).1, rfl⟩

theorem made_cons {e : Edit β} {old new : β} (held : before[e.place]? = some old)
    (changed : e.change old = .ok new) (fresh : ∀ d ∈ edits, d.place ≠ e.place) :
    Made (e :: edits) before after ↔ Made edits (before.setIfInBounds e.place new) after := by
  have inside := (Array.getElem?_eq_some_iff.mp held).1
  constructor
  · intro made
    refine ⟨by rw [made.size, Array.size_setIfInBounds], ?_, ?_⟩
    · intro d member
      obtain ⟨o, n, heldD, changedD, afterD⟩ := made.changed d (List.mem_cons_of_mem e member)
      refine ⟨o, n, ?_, changedD, afterD⟩
      rw [Array.getElem?_setIfInBounds_ne (fresh d member).symm, heldD]
    · intro i away
      by_cases own : e.place = i
      · obtain ⟨o, n, heldE, changedE, afterE⟩ := made.changed e List.mem_cons_self
        obtain rfl : old = o := Option.some.inj (held.symm.trans heldE)
        obtain rfl : new = n := Except.ok.inj (changed.symm.trans changedE)
        rw [← own, afterE, Array.getElem?_setIfInBounds_self_of_lt inside]
      · rw [Array.getElem?_setIfInBounds_ne own]
        refine made.kept i fun d member => ?_
        rcases List.mem_cons.mp member with rfl | member
        · exact own
        · exact away d member
  · intro made
    refine ⟨by rw [made.size, Array.size_setIfInBounds], ?_, ?_⟩
    · intro d member
      rcases List.mem_cons.mp member with rfl | member
      · refine ⟨old, new, held, changed, ?_⟩
        rw [made.kept _ fresh, Array.getElem?_setIfInBounds_self_of_lt inside]
      · obtain ⟨o, n, heldD, changedD, afterD⟩ := made.changed d member
        rw [Array.getElem?_setIfInBounds_ne (fresh d member).symm] at heldD
        exact ⟨o, n, heldD, changedD, afterD⟩
    · intro i away
      rw [made.kept i fun d member => away d (List.mem_cons_of_mem e member),
        Array.getElem?_setIfInBounds_ne (away e List.mem_cons_self)]

/-- Edits of different elements end exactly when each of them can be made to the old buffer. -/
theorem run_eq_ok (distinct : (edits.map place).Nodup) :
    edits.foldlM apply before = .ok after ↔ Made edits before after := by
  induction edits generalizing before with
  | nil =>
      constructor
      · rintro ⟨⟩
        exact ⟨rfl, fun _ member => absurd member List.not_mem_nil, fun _ _ => rfl⟩
      · intro made
        have same : before = after := Array.ext_getElem? fun i =>
          (made.kept i fun _ member => absurd member List.not_mem_nil).symm
        rw [same]
        rfl
  | cons e edits ih =>
      obtain ⟨fresh, distinct⟩ := List.nodup_cons.mp distinct
      have fresh : ∀ d ∈ edits, d.place ≠ e.place := fun d member same =>
        fresh (same ▸ List.mem_map_of_mem member)
      rw [foldlM_cons_eq_ok]
      constructor
      · rintro ⟨_, first, ran⟩
        obtain ⟨old, new, held, changed, rfl⟩ := apply_eq_ok.mp first
        exact (made_cons held changed fresh).mpr ((ih distinct).mp ran)
      · intro made
        obtain ⟨old, new, held, changed, -⟩ := made.changed e List.mem_cons_self
        exact ⟨_, apply_eq_ok.mpr ⟨old, new, held, changed, rfl⟩,
          (ih distinct).mpr ((made_cons held changed fresh).mp made)⟩

theorem change_of_run (ran : edits.foldlM apply before = .ok after) :
    ∀ e ∈ edits, ∃ old new, e.change old = .ok new := by
  induction edits generalizing before with
  | nil => exact fun e member => absurd member List.not_mem_nil
  | cons d rest ih =>
      intro e member
      obtain ⟨mid, first, ran⟩ := foldlM_cons_eq_ok.mp ran
      rcases List.mem_cons.mp member with rfl | member
      · obtain ⟨old, new, -, changed, -⟩ := apply_eq_ok.mp first
        exact ⟨old, new, changed⟩
      · exact ih ran e member

theorem run_ends (distinct : (edits.map place).Nodup) (each : ∀ e ∈ edits, ∃ old new,
    before[e.place]? = some old ∧ e.change old = .ok new) :
    ∃ after, edits.foldlM apply before = .ok after := by
  induction edits generalizing before with
  | nil => exact ⟨before, rfl⟩
  | cons e edits ih =>
      obtain ⟨fresh, distinct⟩ := List.nodup_cons.mp distinct
      obtain ⟨old, new, held, changed⟩ := each e List.mem_cons_self
      have rest : ∀ d ∈ edits, ∃ old' new', (before.setIfInBounds e.place new)[d.place]? =
          some old' ∧ d.change old' = .ok new' := by
        intro d member
        have other : e.place ≠ d.place := fun same => fresh (same ▸ List.mem_map_of_mem member)
        rw [Array.getElem?_setIfInBounds_ne other]
        exact each d (List.mem_cons_of_mem e member)
      obtain ⟨after, ran⟩ := ih distinct rest
      exact ⟨after, foldlM_cons_eq_ok.mpr
        ⟨_, apply_eq_ok.mpr ⟨old, new, held, changed, rfl⟩, ran⟩⟩

theorem Made.perm {edits' : List (Edit β)} (perm : edits.Perm edits')
    (made : Made edits before after) : Made edits' before after :=
  ⟨made.size, fun e member => made.changed e (perm.mem_iff.mpr member),
    fun i away => made.kept i fun e member => away e (perm.mem_iff.mp member)⟩

theorem run_perm {edits' : List (Edit β)} (distinct : (edits.map place).Nodup)
    (perm : edits.Perm edits') :
    edits.foldlM apply before = .ok after ↔ edits'.foldlM apply before = .ok after := by
  rw [run_eq_ok distinct, run_eq_ok ((perm.map place).nodup_iff.mp distinct)]
  constructor
  · exact fun made => made.perm perm
  · exact fun made => made.perm perm.symm

/-- What is stored does not depend on what was there before. -/
def IsBlind (e : Edit β) : Prop := ∀ old old', e.change old = e.change old'

theorem Made.overwrite {before' : Array β} (blind : ∀ e ∈ edits, e.IsBlind)
    (made : Made edits before after) (size : before'.size = before.size)
    (same : ∀ i, (∀ e ∈ edits, e.place ≠ i) → before'[i]? = before[i]?) :
    Made edits before' after := by
  refine ⟨made.size.trans size.symm, ?_, fun i away => (made.kept i away).trans (same i away).symm⟩
  intro e member
  rcases made.changed e member with ⟨old, new, held, changed, stored⟩
  have inside : e.place < before'.size := size.symm ▸ (Array.getElem?_eq_some_iff.mp held).1
  exact ⟨before'[e.place], new, Array.getElem?_eq_getElem inside,
    (blind e member _ old).trans changed, stored⟩

theorem foldlM_apply_singleton {e : Edit β} : [e].foldlM apply before = apply before e := by
  rw [List.foldlM_cons]
  cases apply before e with
  | ok _ => rfl
  | error _ => rfl

theorem flatMap_ite {p : ι → Bool} {f : ι → Edit β} {l : List ι} :
    (l.flatMap fun i => if p i then [f i] else []) = (l.filter p).map f := by
  induction l with
  | nil => rfl
  | cons i rest ih =>
      cases found : p i with
      | true => simp [found, ih]
      | false => simp [found, ih]

section Filling

variable {values : List β}

def filling (values : List β) : List (Edit β) :=
  values.zipIdx.map fun (value, i) => ⟨i, fun _ => .ok value⟩

theorem mem_filling {e : Edit β} (member : e ∈ filling values) :
    ∃ value, values[e.place]? = some value ∧ ∀ old, e.change old = .ok value := by
  rcases List.mem_map.mp member with ⟨⟨value, i⟩, entry, rfl⟩
  exact ⟨value, List.mk_mem_zipIdx_iff_getElem?.mp entry, fun _ => rfl⟩

theorem distinct_filling : ((filling values).map place).Nodup := by
  have places : (filling values).map place = List.range values.length := by
    rw [filling, List.map_map, List.range_eq_range', ← List.zipIdx_map_snd 0 values]
    rfl
  rw [places]
  exact List.nodup_range

theorem filling_ends (room : values.length ≤ before.size) :
    ∃ after, (filling values).foldlM apply before = .ok after := by
  refine run_ends distinct_filling fun e member => ?_
  obtain ⟨value, found, changes⟩ := mem_filling member
  have inside := (List.getElem?_eq_some_iff.mp found).1
  exact ⟨before[e.place], value, Array.getElem?_eq_getElem (by omega), changes _⟩

theorem filling_eq_ok (ran : (filling values).foldlM apply before = .ok after) :
    after.toList = values ++ before.toList.drop values.length := by
  have made := (run_eq_ok distinct_filling).mp ran
  refine List.ext_getElem? fun i => ?_
  rw [Array.getElem?_toList]
  by_cases inside : i < values.length
  · have entry : (⟨i, fun _ => .ok values[i]⟩ : Edit β) ∈ filling values :=
      List.mem_map.mpr ⟨(values[i], i), List.mk_mem_zipIdx_iff_getElem?.mpr
        (List.getElem?_eq_getElem inside), rfl⟩
    obtain ⟨_, _, -, ⟨⟩, stored⟩ := made.changed _ entry
    rw [List.getElem?_append_left inside, List.getElem?_eq_getElem inside]
    exact stored
  · have away : ∀ e ∈ filling values, e.place ≠ i := by
      intro e member same
      obtain ⟨_, found, -⟩ := mem_filling member
      exact inside (same ▸ (List.getElem?_eq_some_iff.mp found).1)
    rw [made.kept i away, List.getElem?_append_right (by omega), List.getElem?_drop,
      Nat.add_sub_cancel' (by omega), Array.getElem?_toList]

end Filling

section Passes

variable {σ : Type} {wrap : Array β → σ}

/-- A pass over a state that wraps a buffer does nothing but make the edits. -/
def Performs (wrap : Array β → σ) (f : σ → Except Fault σ) (edits : List (Edit β)) : Prop :=
  ∀ a t, f (wrap a) = .ok t ↔ ∃ b, edits.foldlM apply a = .ok b ∧ t = wrap b

theorem performs_nil {f : σ → Except Fault σ} (idle : ∀ a, f (wrap a) = .ok (wrap a)) :
    Performs wrap f [] := by
  intro a t
  rw [idle]
  constructor
  · rintro ⟨⟩
    exact ⟨a, rfl, rfl⟩
  · rintro ⟨_, ⟨⟩, rfl⟩
    rfl

theorem Performs.foldlM {f : σ → ι → Except Fault σ} {edits : ι → List (Edit β)} {l : List ι}
    (each : ∀ i ∈ l, Performs wrap (f · i) (edits i)) :
    Performs wrap (l.foldlM f) (l.flatMap edits) := by
  induction l with
  | nil => exact performs_nil fun _ => rfl
  | cons i rest ih =>
      intro a t
      have first := each i List.mem_cons_self
      have later := ih fun j member => each j (List.mem_cons_of_mem i member)
      rw [foldlM_cons_eq_ok, List.flatMap_cons]
      constructor
      · rintro ⟨u, ran, ran'⟩
        obtain ⟨b, made, rfl⟩ := (first a u).mp ran
        obtain ⟨c, made', rfl⟩ := (later b t).mp ran'
        exact ⟨c, foldlM_append_eq_ok.mpr ⟨b, made, made'⟩, rfl⟩
      · rintro ⟨c, made, rfl⟩
        obtain ⟨b, made, made'⟩ := foldlM_append_eq_ok.mp made
        exact ⟨wrap b, (first a _).mpr ⟨b, made, rfl⟩, (later b _).mpr ⟨c, made', rfl⟩⟩

end Passes

end Edit

end IrradianceField
