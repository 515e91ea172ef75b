import IrradianceField.Word
import Mathlib.Tactic

/-!
Checked computations: when sequences, loops, words and buffers come out without a fault, and with
what result. The later modules open no checked operation themselves.
-/

namespace IrradianceField

section Outcomes

variable {β γ : Type}

@[simp] theorem ok_bind (b : β) (f : β → Except Fault γ) : (Except.ok b >>= f) = f b := rfl

@[simp] theorem error_bind (e : Fault) (f : β → Except Fault γ) :
    (Except.error e >>= f) = .error e := rfl

@[simp] theorem pure_eq_ok (b : β) : (pure b : Except Fault β) = .ok b := rfl

theorem bind_eq_ok {x : Except Fault β} {f : β → Except Fault γ} {c : γ} :
    (x >>= f) = .ok c ↔ ∃ b, x = .ok b ∧ f b = .ok c := by
  cases x with
  | ok b => simp
  | error e => simp

theorem bind_ends {x : Except Fault β} {f : β → Except Fault γ} (first : ∃ b, x = .ok b)
    (next : ∀ b, ∃ c, f b = .ok c) : ∃ c, (x >>= f) = .ok c := by
  obtain ⟨b, ran⟩ := first
  rw [ran, ok_bind]
  exact next b

theorem ite_bind {c : Prop} [Decidable c] {x y : Except Fault β} {f : β → Except Fault γ} :
    (if c then x else y) >>= f = if c then x >>= f else y >>= f := by
  split <;> rfl

theorem eq_ok_get (x : Except Fault β) (ends : x.toOption.isSome = true) :
    x = .ok (x.toOption.get ends) := by
  cases x with
  | ok b => rfl
  | error e => exact absurd ends (by simp [Except.toOption])

theorem ok_or_error (x : Except Fault β) : (∃ b, x = .ok b) ∨ ∃ e, x = .error e := by
  cases x with
  | ok b => exact .inl ⟨b, rfl⟩
  | error e => exact .inr ⟨e, rfl⟩

end Outcomes

section Loops

variable {σ ι : Type} {f : σ → ι → Except Fault σ}

theorem foldlM_cons_eq_ok {i : ι} {rest : List ι} {s t : σ} :
    (i :: rest).foldlM f s = .ok t ↔ ∃ u, f s i = .ok u ∧ rest.foldlM f u = .ok t := by
  rw [List.foldlM_cons, bind_eq_ok]

theorem foldlM_append_eq_ok {first second : List ι} {s t : σ} :
    (first ++ second).foldlM f s = .ok t ↔
      ∃ u, first.foldlM f s = .ok u ∧ second.foldlM f u = .ok t := by
  rw [List.foldlM_append, bind_eq_ok]

theorem foldlM_flatMap {κ : Type} (l : List κ) (g : κ → List ι) (s : σ) :
    (l.flatMap g).foldlM f s = l.foldlM (fun s k => (g k).foldlM f s) s := by
  induction l generalizing s with
  | nil => rfl
  | cons k rest ih =>
      rw [List.flatMap_cons, List.foldlM_append, List.foldlM_cons]
      exact bind_congr fun t => ih t

theorem foldlM_keeps (Inv : σ → Prop) {l : List ι} {s t : σ}
    (step : ∀ i ∈ l, ∀ s t, Inv s → f s i = .ok t → Inv t) (start : Inv s)
    (ran : l.foldlM f s = .ok t) : Inv t := by
  induction l generalizing s with
  | nil => cases ran; exact start
  | cons i rest ih =>
      obtain ⟨u, first, ran⟩ := foldlM_cons_eq_ok.mp ran
      exact ih (fun j member => step j (List.mem_cons_of_mem i member))
        (step i List.mem_cons_self s u start first) ran

theorem foldlM_reaches (Inv P : σ → Prop) {l : List ι} {i : ι} {s t : σ}
    (step : ∀ j ∈ l, ∀ s t, Inv s → f s j = .ok t → Inv t ∧ (P s → P t)) (member : i ∈ l)
    (made : ∀ s t, Inv s → f s i = .ok t → P t) (start : Inv s) (ran : l.foldlM f s = .ok t) :
    P t := by
  obtain ⟨before, rest, rfl⟩ := List.append_of_mem member
  obtain ⟨u, first, ran⟩ := foldlM_append_eq_ok.mp ran
  obtain ⟨v, second, ran⟩ := foldlM_cons_eq_ok.mp ran
  have kept : Inv u := foldlM_keeps Inv
    (fun j here s t kept ran => (step j (List.mem_append_left _ here) s t kept ran).1) start first
  have kept' : Inv v := (step i member u v kept second).1
  have both : Inv t ∧ P t := foldlM_keeps (fun s => Inv s ∧ P s) (fun j here s t both ran => by
    have there : j ∈ before ++ i :: rest :=
      List.mem_append_right _ (List.mem_cons_of_mem i here)
    obtain ⟨kept, holds⟩ := step j there s t both.1 ran
    exact ⟨kept, holds both.2⟩) ⟨kept', made u v kept second⟩ ran
  exact both.2

theorem foldlM_tracks (Inv : List ι → σ → Prop) {l : List ι} {s t : σ}
    (step : ∀ done i rest s t, l = done ++ i :: rest → Inv done s → f s i = .ok t →
      Inv (done ++ [i]) t)
    (start : Inv [] s) (ran : l.foldlM f s = .ok t) : Inv l t := by
  suffices general : ∀ rest done s, l = done ++ rest → Inv done s → rest.foldlM f s = .ok t →
      Inv l t from general l [] s rfl start ran
  intro rest
  induction rest with
  | nil =>
      intro done s split kept ran
      cases ran
      rwa [split, List.append_nil]
  | cons i rest ih =>
      intro done s split kept ran
      obtain ⟨u, first, ran⟩ := foldlM_cons_eq_ok.mp ran
      exact ih (done ++ [i]) u (by simpa using split) (step done i rest s u split kept first) ran

/-- A loop ends if each of its steps does from wherever the steps before it lead. -/
theorem foldlM_ends (Inv : List ι → σ → Prop) {l : List ι} {s : σ}
    (step : ∀ done i rest s, l = done ++ i :: rest → Inv done s →
      ∃ t, f s i = .ok t ∧ Inv (done ++ [i]) t)
    (start : Inv [] s) : ∃ t, l.foldlM f s = .ok t ∧ Inv l t := by
  suffices general : ∀ rest done s, l = done ++ rest → Inv done s →
      ∃ t, rest.foldlM f s = .ok t ∧ Inv l t from general l [] s rfl start
  intro rest
  induction rest with
  | nil =>
      intro done s split kept
      exact ⟨s, rfl, by rwa [split, List.append_nil]⟩
  | cons i rest ih =>
      intro done s split kept
      obtain ⟨u, first, kept⟩ := step done i rest s split kept
      obtain ⟨t, ran, kept⟩ := ih (done ++ [i]) u (by simpa using split) kept
      exact ⟨t, foldlM_cons_eq_ok.mpr ⟨u, first, ran⟩, kept⟩

theorem foldlM_ends_of_each {l : List ι} {s : σ} (each : ∀ i ∈ l, ∀ s, ∃ t, f s i = .ok t) :
    ∃ t, l.foldlM f s = .ok t := by
  obtain ⟨t, ran, -⟩ := foldlM_ends (fun _ _ => True) (f := f) (l := l) (s := s)
    (fun done i rest s split _ => by
      have member : i ∈ l := by
        rw [split]
        exact List.mem_append_right _ List.mem_cons_self
      obtain ⟨t, ran⟩ := each i member s
      exact ⟨t, ran, trivial⟩) trivial
  exact ⟨t, ran⟩

theorem foldlM_congr {g : σ → ι → Except Fault σ} {l : List ι} {s : σ}
    (same : ∀ i ∈ l, ∀ s, f s i = g s i) : l.foldlM f s = l.foldlM g s := by
  induction l generalizing s with
  | nil => rfl
  | cons i rest ih =>
      rw [List.foldlM_cons, List.foldlM_cons, same i List.mem_cons_self]
      exact bind_congr fun t => ih fun j member => same j (List.mem_cons_of_mem i member)

theorem foldlM_fst {κ : Type} {g : κ → σ → κ} {l : List ι} {s t : σ} {a : κ} :
    (∃ b, l.foldlM (fun (s, a) i => do
      let s ← f s i
      return (s, g a s)) (s, a) = .ok (t, b)) ↔ l.foldlM f s = .ok t := by
  induction l generalizing s a with
  | nil => simp
  | cons i rest ih =>
      simp only [foldlM_cons_eq_ok, bind_eq_ok, pure_eq_ok, Except.ok.injEq]
      constructor
      · intro ran
        obtain ⟨b, _, ⟨u, first, rfl⟩, ran⟩ := ran
        exact ⟨u, first, ih.mp ⟨b, ran⟩⟩
      · intro ran
        obtain ⟨u, first, ran⟩ := ran
        obtain ⟨b, ran⟩ := ih.mpr ran
        exact ⟨b, _, ⟨u, first, rfl⟩, ran⟩

theorem mapM_eq_ok {κ : Type} {f : ι → Except Fault κ} {l : List ι} {results : List κ} :
    l.mapM f = .ok results ↔ List.Forall₂ (fun i result => f i = .ok result) l results := by
  induction l generalizing results with
  | nil =>
      rw [List.mapM_nil, pure_eq_ok, Except.ok.injEq, List.forall₂_nil_left_iff, eq_comm]
  | cons i rest ih =>
      rw [List.mapM_cons, bind_eq_ok, List.forall₂_cons_left_iff]
      simp only [bind_eq_ok, ih, pure_eq_ok, Except.ok.injEq]
      constructor
      · intro ran
        obtain ⟨first, found, others, all, same⟩ := ran
        exact ⟨first, others, found, all, same.symm⟩
      · intro ran
        obtain ⟨first, others, found, all, same⟩ := ran
        exact ⟨first, found, others, all, same.symm⟩

theorem mapM_ends {κ : Type} {f : ι → Except Fault κ} {l : List ι} :
    (∃ results, l.mapM f = .ok results) ↔ ∀ i ∈ l, ∃ result, f i = .ok result := by
  induction l with
  | nil => simp
  | cons i rest ih =>
      rw [List.forall_mem_cons, ← ih]
      simp only [List.mapM_cons, bind_eq_ok, pure_eq_ok, Except.ok.injEq]
      constructor
      · rintro ⟨_, first, found, others, all, -⟩
        exact ⟨⟨first, found⟩, others, all⟩
      · rintro ⟨⟨first, found⟩, others, all⟩
        exact ⟨_, first, found, others, all, rfl⟩

theorem mapM_range_eq_ok {κ : Type} {f : Nat → Except Fault κ} {n : Nat} {results : List κ} :
    (List.range n).mapM f = .ok results ↔
      results.length = n ∧ ∀ i < n, ∃ result, f i = .ok result ∧ results[i]? = some result := by
  rw [mapM_eq_ok, List.forall₂_iff_get]
  constructor
  · intro all
    obtain ⟨length, each⟩ := all
    rw [List.length_range] at length
    refine ⟨length.symm, fun i inside => ?_⟩
    have found := each i (by simpa using inside) (by omega)
    exact ⟨_, by simpa using found, List.getElem?_eq_getElem _⟩
  · intro all
    obtain ⟨length, each⟩ := all
    refine ⟨by simp [length], fun i inside inside' => ?_⟩
    obtain ⟨result, found, held⟩ := each i (by simpa using inside)
    rw [List.getElem?_eq_getElem inside', Option.some.injEq] at held
    simpa [held] using found

end Loops

section Words

theorem Word.add_eq_ok {a b c : Nat} :
    Word.add a b = .ok c ↔ c = a + b ∧ a + b < 4294967296 := by
  unfold Word.add
  split <;> simp_all [eq_comm]

theorem Word.sub_eq_ok {a b c : Nat} : Word.sub a b = .ok c ↔ c = a - b ∧ b ≤ a := by
  unfold Word.sub
  split <;> simp_all [eq_comm]

theorem Word.mul_eq_ok {a b c : Nat} :
    Word.mul a b = .ok c ↔ c = a * b ∧ a * b < 4294967296 := by
  unfold Word.mul
  split <;> simp_all [eq_comm]

theorem Word.div_eq_ok {a b c : Nat} : Word.div a b = .ok c ↔ c = a / b ∧ 0 < b := by
  unfold Word.div
  split <;> simp_all [eq_comm, Nat.pos_iff_ne_zero]

theorem Word.rem_eq_ok {a b c : Nat} : Word.rem a b = .ok c ↔ c = a % b ∧ 0 < b := by
  unfold Word.rem
  split <;> simp_all [eq_comm, Nat.pos_iff_ne_zero]

theorem Word.groups_eq_ok {count size c : Nat} :
    Word.groups count size = .ok c ↔
      c = (count + size - 1) / size ∧ count + size < 4294967296 ∧ 1 ≤ count + size := by
  simp only [Word.groups, bind_eq_ok, Word.add_eq_ok, Word.sub_eq_ok, pure_eq_ok,
    Except.ok.injEq]
  constructor
  · rintro ⟨_, ⟨rfl, small⟩, _, ⟨rfl, positive⟩, rfl⟩
    exact ⟨rfl, small, positive⟩
  · rintro ⟨rfl, small, positive⟩
    exact ⟨_, ⟨rfl, small⟩, _, ⟨rfl, positive⟩, rfl⟩

theorem SignedWord.checked_eq_ok {e : Fault} {a b : Int} :
    SignedWord.checked e a = .ok b ↔ b = a ∧ -2147483648 ≤ a ∧ a < 2147483648 := by
  unfold SignedWord.checked
  split <;> rename_i range
  · simp [range, eq_comm]
  · simp only [reduceCtorEq, range, and_false]

theorem SignedWord.add_eq_ok {a b c : Int} :
    SignedWord.add a b = .ok c ↔ c = a + b ∧ -2147483648 ≤ a + b ∧ a + b < 2147483648 :=
  checked_eq_ok

theorem SignedWord.sub_eq_ok {a b c : Int} :
    SignedWord.sub a b = .ok c ↔ c = a - b ∧ -2147483648 ≤ a - b ∧ a - b < 2147483648 :=
  checked_eq_ok

theorem SignedWord.abs_eq_ok {a b : Int} :
    SignedWord.abs a = .ok b ↔ b = (a.natAbs : Int) ∧ a.natAbs < 2147483648 := by
  unfold SignedWord.abs
  rw [checked_eq_ok]
  omega

theorem SignedWord.rem_eq_ok {a b c : Int} :
    SignedWord.rem a b = .ok c ↔
      c = a.tmod b ∧ b ≠ 0 ∧ ¬(a = -2147483648 ∧ b = -1) := by
  unfold SignedWord.rem
  split
  · simp_all
  · split <;> simp_all [eq_comm]

theorem Word.toSigned_of_lt {n : Nat} (small : n < 2147483648) : Word.toSigned n = n := by
  unfold Word.toSigned
  rw [Int.bmod_def]
  split <;> omega

theorem Word.toSigned_of_ge {n : Nat} (long : 2147483648 ≤ n) (words : n < 4294967296) :
    Word.toSigned n = n - 4294967296 := by
  unfold Word.toSigned
  rw [Int.bmod_def]
  split <;> omega

theorem Word.halves_ofHalves (lo hi : Nat) :
    Word.halves (Word.ofHalves lo hi) = (lo % 65536, hi % 65536) := by
  simp only [Word.halves, Word.ofHalves, Prod.mk.injEq]
  omega

theorem SignedWord.toWord_of_nonneg {a : Int} (low : 0 ≤ a) (high : a < 4294967296) :
    SignedWord.toWord a = a.toNat := by
  rw [SignedWord.toWord, Int.emod_eq_of_lt low high]

theorem Size.mul_eq_ok {a b c : Nat} :
    Size.mul a b = .ok c ↔ c = a * b ∧ a * b < 18446744073709551616 := by
  rw [Size.mul]
  by_cases short : a * b < 18446744073709551616
  · simp [short, eq_comm]
  · simp [short]

theorem Size.add_eq_ok {a b c : Nat} :
    Size.add a b = .ok c ↔ c = a + b ∧ a + b < 18446744073709551616 := by
  rw [Size.add]
  by_cases short : a + b < 18446744073709551616
  · simp [short, eq_comm]
  · simp [short]

theorem mul_add_unique {n a b r s : Nat} (hr : r < n) (hs : s < n)
    (same : a * n + r = b * n + s) : a = b ∧ r = s := by
  have quotients := congrArg (· / n) same
  have remainders := congrArg (· % n) same
  have positive : 0 < n := Nat.zero_lt_of_lt hr
  simp only [Nat.add_comm _ r, Nat.add_comm _ s, Nat.add_mul_div_right _ _ positive,
    Nat.add_mul_mod_self_right, Nat.div_eq_of_lt hr, Nat.div_eq_of_lt hs, Nat.mod_eq_of_lt hr,
    Nat.mod_eq_of_lt hs, Nat.zero_add] at quotients remainders
  exact ⟨quotients, remainders⟩

end Words

section Vectors

variable {β γ δ : Type}

theorem Vec2.mapM_eq_ok {f : β → Except Fault γ} {v : Vec2 β} {w : Vec2 γ} :
    v.mapM f = .ok w ↔ f v.x = .ok w.x ∧ f v.y = .ok w.y := by
  cases w
  simp only [Vec2.mapM, bind_eq_ok, pure_eq_ok, Except.ok.injEq, Vec2.mk.injEq]
  constructor
  · rintro ⟨_, hx, _, hy, rfl, rfl⟩
    exact ⟨hx, hy⟩
  · rintro ⟨hx, hy⟩
    exact ⟨_, hx, _, hy, rfl, rfl⟩

theorem Vec2.zipWithM_eq_ok {f : β → γ → Except Fault δ} {v : Vec2 β} {w : Vec2 γ} {u : Vec2 δ} :
    v.zipWithM f w = .ok u ↔ f v.x w.x = .ok u.x ∧ f v.y w.y = .ok u.y := by
  cases u
  simp only [Vec2.zipWithM, bind_eq_ok, pure_eq_ok, Except.ok.injEq, Vec2.mk.injEq]
  constructor
  · rintro ⟨_, hx, _, hy, rfl, rfl⟩
    exact ⟨hx, hy⟩
  · rintro ⟨hx, hy⟩
    exact ⟨_, hx, _, hy, rfl, rfl⟩

theorem Vec3.mapM_eq_ok {f : β → Except Fault γ} {v : Vec3 β} {w : Vec3 γ} :
    v.mapM f = .ok w ↔ f v.x = .ok w.x ∧ f v.y = .ok w.y ∧ f v.z = .ok w.z := by
  cases w
  simp only [Vec3.mapM, bind_eq_ok, pure_eq_ok, Except.ok.injEq, Vec3.mk.injEq]
  constructor
  · rintro ⟨_, hx, _, hy, _, hz, rfl, rfl, rfl⟩
    exact ⟨hx, hy, hz⟩
  · rintro ⟨hx, hy, hz⟩
    exact ⟨_, hx, _, hy, _, hz, rfl, rfl, rfl⟩

theorem Vec3.zipWithM_eq_ok {f : β → γ → Except Fault δ} {v : Vec3 β} {w : Vec3 γ} {u : Vec3 δ} :
    v.zipWithM f w = .ok u ↔ f v.x w.x = .ok u.x ∧ f v.y w.y = .ok u.y ∧ f v.z w.z = .ok u.z := by
  cases u
  simp only [Vec3.zipWithM, bind_eq_ok, pure_eq_ok, Except.ok.injEq, Vec3.mk.injEq]
  constructor
  · rintro ⟨_, hx, _, hy, _, hz, rfl, rfl, rfl⟩
    exact ⟨hx, hy, hz⟩
  · rintro ⟨hx, hy, hz⟩
    exact ⟨_, hx, _, hy, _, hz, rfl, rfl, rfl⟩

theorem Vec3.mapM_sub_of_le {v : Vec3 Nat} {n : Nat} (enough : n ≤ v.x ∧ n ≤ v.y ∧ n ≤ v.z) :
    v.mapM (Word.sub · n) = .ok (v.map (· - n)) :=
  Vec3.mapM_eq_ok.mpr ⟨Word.sub_eq_ok.mpr ⟨rfl, enough.1⟩, Word.sub_eq_ok.mpr ⟨rfl, enough.2.1⟩,
    Word.sub_eq_ok.mpr ⟨rfl, enough.2.2⟩⟩

theorem Vec3.zipWithM_add_of_lt {v w : Vec3 Nat} (x : v.x + w.x < 4294967296)
    (y : v.y + w.y < 4294967296) (z : v.z + w.z < 4294967296) :
    v.zipWithM Word.add w = .ok (v.zipWith (· + ·) w) :=
  Vec3.zipWithM_eq_ok.mpr ⟨Word.add_eq_ok.mpr ⟨rfl, x⟩, Word.add_eq_ok.mpr ⟨rfl, y⟩,
    Word.add_eq_ok.mpr ⟨rfl, z⟩⟩

end Vectors

section Buffers

variable {β : Type}

theorem fetch_eq_ok {buffer : Array β} {i : Nat} {value : β} :
    fetch buffer i = .ok value ↔ buffer[i]? = some value := by
  unfold fetch
  split <;> simp_all

theorem fetch_of_lt {buffer : Array β} {i : Nat} (inside : i < buffer.size) :
    ∃ value, fetch buffer i = .ok value :=
  ⟨buffer[i], by rw [fetch, dif_pos inside]⟩

theorem fetch_congr {a b : Array β} {i : Nat} (sizes : a.size = b.size) (same : a[i]? = b[i]?) :
    fetch a i = fetch b i := by
  unfold fetch
  by_cases inside : i < a.size
  · have inside' : i < b.size := sizes ▸ inside
    rw [dif_pos inside, dif_pos inside']
    rw [Array.getElem?_eq_getElem inside, Array.getElem?_eq_getElem inside'] at same
    rw [Option.some.inj same]
  · rw [dif_neg inside, dif_neg (sizes ▸ inside), sizes]

theorem store_eq_ok {a b : Array β} {i : Nat} {value : β} :
    store a i value = .ok b ↔ i < a.size ∧ b = a.setIfInBounds i value := by
  unfold store
  split
  · rename_i inside
    simp [inside, Array.setIfInBounds, eq_comm]
  · rename_i outside
    simp [outside]

theorem store_of_lt {a : Array β} {i : Nat} (inside : i < a.size) (value : β) :
    store a i value = .ok (a.setIfInBounds i value) :=
  store_eq_ok.mpr ⟨inside, rfl⟩

end Buffers

end IrradianceField
