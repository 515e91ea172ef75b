import IrradianceField.Proofs.Classification
import IrradianceField.Proofs.Moving

/-!
Scrolling: a probe that has not just wrapped around was in the grid before, at the same cell of the
lattice and in the same slot.
-/

namespace IrradianceField

variable {α : Type}

/-- Coordinates in two placements of a grid that stand for the same cell of the same lattice. -/
structure Placement.SameCell (p q : Placement α) (c d : Vec3 Nat) : Prop where
  origin : p.origin = q.origin
  spacing : p.spacing = q.spacing
  x : p.scroll.x + c.x = q.scroll.x + d.x
  y : p.scroll.y + c.y = q.scroll.y + d.y
  z : p.scroll.z + c.z = q.scroll.z + d.z

theorem Placement.SameCell.slotAt_eq {p q : Placement α} {g : Grid} {index other : Nat}
    (cell : p.SameCell q (g.coordsAt index) (g.coordsAt other)) :
    g.slotAt p.scroll index = g.slotAt q.scroll other := by
  simp only [Grid.slotAt, Grid.wrapAt, Grid.wrapAxis_congr cell.x, Grid.wrapAxis_congr cell.y,
    Grid.wrapAxis_congr cell.z]

namespace Cascade

/-- A cascade that did not start anew has followed the view by whole probes. -/
structure Followed (c d : Cascade α) (delta : Vec3 Int) : Prop where
  origin : d.placement.origin = c.placement.origin
  spacing : d.placement.spacing = c.placement.spacing
  x : d.placement.scroll.x = c.placement.scroll.x + delta.x
  y : d.placement.scroll.y = c.placement.scroll.y + delta.y
  z : d.placement.scroll.z = c.placement.scroll.z + delta.z
  clear : d.scrollClear = delta.map Int.natAbs
  directions : d.scrollDirections = delta.map Int.sign

variable [Scalar α] {c d : Cascade α} {viewPos : Vec3 α} {counts : Vec3 Nat}

theorem followed_scrolled (c : Cascade α) (viewPos : Vec3 α) :
    Followed c (c.scrolled viewPos) (c.move viewPos) :=
  ⟨rfl, rfl, (add_sub_cancel _ _).symm, (add_sub_cancel _ _).symm, (add_sub_cancel _ _).symm, rfl,
    rfl⟩

theorem followed_of_update (ran : c.update viewPos counts = .ok d) (kept : d.reset = false) :
    ∃ delta, Followed c d delta := by
  obtain ⟨-, ⟨-, rfl⟩ | ⟨-, -, rfl⟩⟩ := update_eq_ok.mp ran
  · cases kept
  · exact ⟨_, followed_scrolled c viewPos⟩

end Cascade

namespace Cascades

variable {c d : Cascades α} {cascade : Nat} {item : Cascade α}

theorem get_eq_ok : c.get cascade = .ok item ↔ c.items[cascade]? = some item := by
  unfold get
  split <;> simp_all

theorem update_eq_ok [Scalar α] {viewPos : Vec3 α} (ran : c.update viewPos = .ok d) :
    d.counts = c.counts ∧ d.items.size = c.items.size ∧ ∀ cascade item, d.get cascade = .ok item →
      ∃ before, c.get cascade = .ok before ∧ before.update viewPos c.counts = .ok item := by
  simp only [update, bind_eq_ok, pure_eq_ok, Except.ok.injEq, Array.mapM_eq_mapM_toList,
    map_eq_pure_bind, mapM_eq_ok] at ran
  obtain ⟨_, ⟨items, each, rfl⟩, rfl⟩ := ran
  have lengths : c.items.toList.length = items.length := each.length_eq
  refine ⟨rfl, by simpa using lengths.symm, fun cascade item found => ?_⟩
  rw [get_eq_ok, List.getElem?_toArray] at found
  obtain ⟨inside, rfl⟩ := List.getElem?_eq_some_iff.mp found
  have below : cascade < c.items.toList.length := lengths ▸ inside
  refine ⟨c.items.toList[cascade], ?_, (List.forall₂_iff_get.mp each).2 cascade below inside⟩
  rw [get_eq_ok, ← Array.getElem?_toList, List.getElem?_eq_getElem below]

end Cascades

namespace ClassificationPass

theorem moved_of_entered {coord count : Nat} {delta : Int} (inside : coord < count)
    (kept : entered coord count delta.natAbs delta.sign = .ok false) :
    ∃ other : Nat, other < count ∧ (other : Int) = coord + delta := by
  refine ⟨(coord + delta).toNat, ?_⟩
  unfold entered at kept
  split at kept
  · omega
  · split at kept
    · rename_i forward
      have positive : 0 < delta := Int.sign_pos_iff.mp forward
      obtain ⟨sum, added, kept⟩ := bind_eq_ok.mp kept
      obtain ⟨rfl, -⟩ := Word.add_eq_ok.mp added
      have short : ¬count ≤ coord + delta.natAbs := by simpa using kept
      omega
    · rename_i backward
      have negative : ¬0 < delta := fun positive => backward (Int.sign_pos_iff.mpr positive)
      have long : ¬coord < delta.natAbs := by simpa using kept
      omega

theorem not_entered {pass : ClassificationPass} {coords counts : Vec3 Nat}
    (kept : pass.isScrolledIn coords counts = .ok false) :
    entered coords.x counts.x pass.scrollClear.x pass.scrollDirections.x = .ok false ∧
    entered coords.y counts.y pass.scrollClear.y pass.scrollDirections.y = .ok false ∧
    entered coords.z counts.z pass.scrollClear.z pass.scrollDirections.z = .ok false := by
  obtain ⟨x, hx, kept⟩ := bind_eq_ok.mp kept
  cases x with
  | true => exact absurd kept (by simp)
  | false =>
      obtain ⟨y, hy, kept⟩ := bind_eq_ok.mp kept
      cases y with
      | true => exact absurd kept (by simp)
      | false => exact ⟨hx, hy, kept⟩

theorem stood_of_followed {pass : ClassificationPass} {g : Grid} {c d : Cascade α}
    {delta : Vec3 Int} {index : Nat} (followed : Cascade.Followed c d delta)
    (clear : pass.scrollClear = d.scrollClear) (directions : pass.scrollDirections = d.scrollDirections)
    (inside : index < g.size) (kept : pass.isScrolledIn (g.coordsAt index) g.counts = .ok false) :
    ∃ other < g.size,
      d.placement.SameCell c.placement (g.coordsAt index) (g.coordsAt other) := by
  obtain ⟨hx, hy, hz⟩ := not_entered kept
  obtain ⟨ix, iy, iz⟩ := Grid.coordsAt_contained inside
  rw [clear, directions, followed.clear, followed.directions] at hx hy hz
  obtain ⟨x, x_lt, mx⟩ := moved_of_entered ix hx
  obtain ⟨y, y_lt, my⟩ := moved_of_entered iy hy
  obtain ⟨z, z_lt, mz⟩ := moved_of_entered iz hz
  have contained : g.Contains ⟨x, y, z⟩ := ⟨x_lt, y_lt, z_lt⟩
  refine ⟨g.indexAt ⟨x, y, z⟩, Grid.indexAt_lt contained, followed.origin, followed.spacing, ?_, ?_, ?_⟩
  · rw [Grid.coordsAt_indexAt contained, followed.x, mx]
    ring
  · rw [Grid.coordsAt_indexAt contained, followed.y, my]
    ring
  · rw [Grid.coordsAt_indexAt contained, followed.z, mz]
    ring

end ClassificationPass

namespace Classification

variable [Scalar α] {volume : Volume α} {pass : ClassificationPass} {probes : Array PackedProbe}
  {coords : Vec3 Nat} {place : Nat} {before : Probe α}

theorem kept_of_previous (known : previous volume pass probes coords place = .ok before)
    (awake : before.state ≠ .inactive) : pass.reset = false ∧
      pass.isScrolledIn coords volume.grid.counts = .ok false ∧
      ∃ packed, probes[place]? = some packed ∧ before = .unpack packed := by
  rw [previous] at known
  cases fresh : pass.reset with
  | true =>
      obtain rfl : Probe.dormant = before := by simpa [fresh] using known
      exact absurd rfl awake
  | false =>
      simp only [fresh, Bool.false_eq_true, if_false, bind_eq_ok] at known
      obtain ⟨isNew, asked, known⟩ := known
      cases isNew with
      | true =>
          obtain rfl : Probe.dormant = before := by simpa using known
          exact absurd rfl awake
      | false =>
          obtain ⟨packed, held, same⟩ := bind_eq_ok.mp known
          exact ⟨rfl, asked, packed, fetch_eq_ok.mp held, (Except.ok.inj same).symm⟩

end Classification

end IrradianceField
