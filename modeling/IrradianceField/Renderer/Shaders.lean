import IrradianceField.Renderer.Command

/-!
Shaders: the modules of kernels, read from the files of a directory in a fixed order. The first file
that cannot be used ends the loading.
-/

namespace IrradianceField

/-- What is wrong with the file of a module. -/
inductive ShaderFailure where
  | missing (shader : ShaderName)
  | malformed (shader : ShaderName)
  deriving DecidableEq, Repr

namespace ShaderFailure

def message (directory : String) : ShaderFailure → String
  | missing _ => "No such file or directory (os error 2)"
  | malformed s => "`" ++ directory ++ "/" ++ s.file ++ ".spv` is not a valid SPIR-V module"

end ShaderFailure

namespace Shaders

variable {α : Type}

/-- Words of four bytes each, the lowest byte first; a rest of fewer bytes is dropped. -/
def words : List Nat → List Nat
  | a :: b :: c :: d :: rest => (a + 256 * (b + 256 * (c + 256 * d))) :: words rest
  | _ => []

/-- The module in a file, whose contents are none if there is no such file. -/
def module? (shader : ShaderName) (contents : Option (List Nat)) :
    Except ShaderFailure (Command α) :=
  match contents with
  | none => .error (.missing shader)
  | some bytes =>
    if bytes.length % 4 = 0 then .ok (.createShader ⟨shader, 0⟩ (words bytes))
    else .error (.malformed shader)

def loadFrom (contents : ShaderName → Option (List Nat)) :
    List ShaderName → List (Command α) × Option ShaderFailure
  | [] => ([], none)
  | s :: rest =>
    match module? s (contents s) with
    | .error e => ([], some e)
    | .ok c =>
      let (commands, failure) := loadFrom contents rest
      (c :: commands, failure)

def load (contents : ShaderName → Option (List Nat)) : List (Command α) × Option ShaderFailure :=
  loadFrom contents ShaderName.all

end Shaders

end IrradianceField
