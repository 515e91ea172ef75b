import IrradianceField.Word

/-!
Probes: the state and the relocation offset of each, packed into a pair of words.
-/

namespace IrradianceField

/-- State of a probe. An inactive probe is too far from any surface to be traced or sampled; one
that has just become active, or has moved, has no history to blend with. -/
structure ProbeState where
  code : Nat
  deriving DecidableEq, Repr, Inhabited

namespace ProbeState

def inactive : ProbeState := ⟨0⟩
def activated : ProbeState := ⟨1⟩
def active : ProbeState := ⟨2⟩

def isInactive (s : ProbeState) : Bool := s = inactive
def isActivated (s : ProbeState) : Bool := s = activated

end ProbeState

/-- The offset is relative to the spacing of the probes, within `-1 ..= 1` along each axis. -/
structure Probe (α : Type) where
  offset : Vec3 α
  state : ProbeState
  deriving DecidableEq, Repr, Inhabited

/-- Three signed 16-bit codes of the offset and the code of the state, two to a word. -/
abbrev PackedProbe := Vec2 Nat

namespace Probe

variable {α : Type} [Scalar α]

def dormant : Probe α := ⟨.zero, .inactive⟩

def pack (p : Probe α) : PackedProbe :=
  ⟨Word.ofHalves (Scalar.toSnorm16 p.offset.x) (Scalar.toSnorm16 p.offset.y),
    Word.ofHalves (Scalar.toSnorm16 p.offset.z) p.state.code⟩

def unpack (words : PackedProbe) : Probe α :=
  let (x, y) := Word.halves words.x
  let (z, state) := Word.halves words.y
  ⟨⟨Scalar.ofSnorm16 x, Scalar.ofSnorm16 y, Scalar.ofSnorm16 z⟩, ⟨state⟩⟩

def worldOffset (p : Probe α) (spacing : α) : Vec3 α := p.offset.scale spacing

end Probe

end IrradianceField
