import IrradianceField.Proofs.Flushing

/-!
Replaying: what the buffers of a device hold once the commands of a renderer have been followed. The
device itself is not asked: passes that it runs change buffers of their own, and are left out here.
-/

namespace IrradianceField

/-- The cells of each buffer; a buffer that does not exist has none. -/
abbrev Memory (α : Type) := Handle BufferName → List (Cell α)

namespace Memory

variable {α : Type} {m : Memory α} {cells new : List (Cell α)} {start i : Nat}

def blank : Memory α := fun _ => []

/-- Cells with new ones in place from the `start`-th on; what does not fit is dropped. -/
def overwrite (cells : List (Cell α)) (start : Nat) (new : List (Cell α)) : List (Cell α) :=
  cells.mapIdx fun i old => if start ≤ i then new[i - start]?.getD old else old

def zeros (size : Nat) : List (Cell α) := .replicate (size / Cell.size) (.word 0)

/-- Follows one command. New buffers are all zero. -/
def apply (m : Memory α) : Command α → Memory α
  | .createBuffer b size => Function.update m b (zeros size)
  | .write b offset new => Function.update m b (overwrite (m b) (offset / Cell.size) new)
  | .clear b offset size =>
    Function.update m b (overwrite (m b) (offset / Cell.size) (zeros size))
  | _ => m

def replay (m : Memory α) (commands : List (Command α)) : Memory α := commands.foldl apply m

@[simp] theorem length_overwrite : (overwrite cells start new).length = cells.length := by
  simp [overwrite]

theorem getElem?_overwrite : (overwrite cells start new)[i]? =
    if i < cells.length ∧ start ≤ i ∧ i < start + new.length then new[i - start]?
    else cells[i]? := by
  rw [overwrite, List.getElem?_mapIdx]
  by_cases inside : i < cells.length
  · rw [List.getElem?_eq_getElem inside]
    by_cases late : start ≤ i
    · by_cases early : i < start + new.length
      · have there : i - start < new.length := by omega
        simp [inside, late, early, there]
      · have past : new.length ≤ i - start := by omega
        simp [late, early, past]
    · simp [late]
  · simp [inside]

theorem prefix_overwrite (room : new.length ≤ cells.length) : new <+: overwrite cells 0 new := by
  rw [List.prefix_iff_getElem?]
  intro i there
  rw [getElem?_overwrite, if_pos ⟨by omega, by omega, by omega⟩]
  simp [there]

theorem overwrite_all (same : new.length = cells.length) : overwrite cells 0 new = new :=
  ((prefix_overwrite same.le).eq_of_length (by simp [same])).symm

@[simp] theorem length_zeros (size : Nat) : (zeros size : List (Cell α)).length = size / 4 := by
  simp [zeros, Cell.size]

end Memory

namespace Recorded

variable {α β γ : Type} {m m' : Memory α} {b : β} {u : Unit}

/-- An operation succeeds with a result, and its commands take one memory to another. -/
def Gives (x : Recorded α β) (m : Memory α) (b : β) (m' : Memory α) : Prop :=
  x.result = .ok b ∧ m.replay x.commands = m'

@[simp] theorem gives_pure {c : β} : (pure b : Recorded α β).Gives m c m' ↔ b = c ∧ m = m' := by
  simp [Gives, pure, ofResult, Memory.replay]

theorem gives_bind {x : Recorded α β} {f : β → Recorded α γ} {c : γ} :
    (x >>= f).Gives m c m' ↔ ∃ b n, x.Gives m b n ∧ (f b).Gives n c m' := by
  obtain ⟨commands, messages, result⟩ := x
  cases result with
  | error e => simp [Gives, bind, andThen]
  | ok b => simp [Gives, bind, andThen, Memory.replay]

theorem gives_andThen {x : Recorded α Unit} {f : Unit → Recorded α γ} {c : γ} :
    (x >>= f).Gives m c m' ↔ ∃ n, x.Gives m () n ∧ (f ()).Gives n c m' := by
  rw [gives_bind]
  exact ⟨fun ⟨_, n, both⟩ => ⟨n, both⟩, fun ⟨n, both⟩ => ⟨(), n, both⟩⟩

@[simp] theorem gives_emit {c : Command α} : (emit c).Gives m u m' ↔ m.apply c = m' := by
  simp [Gives, emit, Memory.replay]

@[simp] theorem gives_tell {messages : List RegistryMessage} :
    (tell messages : Recorded α Unit).Gives m u m' ↔ m = m' := by
  simp [Gives, tell, Memory.replay]

@[simp] theorem gives_checked {x : Except Fault β} :
    (checked x : Recorded α β).Gives m b m' ↔ x = .ok b ∧ m = m' := by
  rw [Gives, result_checked_eq_ok]
  rfl

@[simp] theorem gives_ensure {condition : Bool} {e : RenderFailure α} :
    (ensure condition e).Gives m u m' ↔ condition = true ∧ m = m' := by
  cases condition with
  | true => simp [ensure]
  | false => simp [ensure, fail, ofResult, Gives]

theorem gives_foldlM_append {ι : Type} {f : β → ι → Recorded α β} {first second : List ι} {c : β} :
    ((first ++ second).foldlM f b).Gives m c m' ↔
      ∃ d n, (first.foldlM f b).Gives m d n ∧ (second.foldlM f d).Gives n c m' := by
  induction first generalizing b m with
  | nil => simp
  | cons i rest ih =>
      simp only [List.cons_append, List.foldlM_cons, gives_bind, ih]
      constructor
      · intro ran
        obtain ⟨d, n, step, e, o, others, last⟩ := ran
        exact ⟨e, o, ⟨d, n, step, others⟩, last⟩
      · intro ran
        obtain ⟨e, o, ⟨d, n, step, others⟩, last⟩ := ran
        exact ⟨d, n, step, e, o, others, last⟩

theorem Gives.forM {ι : Type} {f : ι → Recorded α Unit} {l : List ι} {P : Memory α → Prop}
    (each : ∀ i ∈ l, ∀ m n, P m → (f i).Gives m () n → P n) (start : P m)
    (ran : (l.forM f).Gives m u m') : P m' := by
  induction l generalizing m with
  | nil => exact (gives_pure.mp ran).2 ▸ start
  | cons i rest ih =>
      obtain ⟨n, first, others⟩ := gives_andThen.mp ran
      exact ih (fun j listed => each j (.tail _ listed)) (each i (.head _) m n start first) others

end Recorded

end IrradianceField
