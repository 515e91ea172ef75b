import IrradianceField.Renderer.Passes

/-!
Requirements: what a renderer needs of its device beyond the usual.
-/

namespace IrradianceField

/-- Whether runs of passes are given constants, most bytes of those, and most storage buffers that
are bound to a pass. -/
structure Requirements where
  constants : Bool
  maxConstantsSize : Nat
  maxStorageBuffers : Nat
  deriving DecidableEq, Repr

def Requirements.ofRenderer : Requirements := ⟨true, 64, 10⟩

end IrradianceField
