import IrradianceField.Fault

/-!
Self-describing data: what scenes, settings, questions and reports are made of. `Answer` is the
outcome of reading some, and of computing what was asked for.
-/

namespace IrradianceField

/-- A number is `mantissa` divided by ten to the power of `places`; `failure` stands where a part of
a report could not be computed. -/
inductive Datum where
  | null
  | flag (value : Bool)
  | number (mantissa : Int) (places : Nat)
  | text (value : String)
  | list (items : List Datum)
  | record (fields : List (String × Datum))
  | failure (message : String)
  deriving Inhabited

/-- Why there is no answer: the question makes no sense, or its computation stopped. -/
inductive Refusal where
  | malformed
  | fault (f : Fault)
  deriving DecidableEq, Repr

abbrev Answer := Except Refusal

namespace Answer

variable {β : Type}

def malformed : Answer β := .error .malformed

def ofFallible (r : Except Fault β) : Answer β := r.mapError .fault

instance : MonadLift (Except Fault) Answer := ⟨ofFallible⟩

def orFailure (a : Answer Datum) : Answer Datum :=
  match a with
  | .error (.fault f) => .ok (.failure f.message)
  | a => a

end Answer

namespace Datum

def items : Datum → Answer (List Datum)
  | list items => .ok items
  | _ => .malformed

def field? (d : Datum) (key : String) : Option Datum :=
  match d with
  | record fields => fields.lookup key
  | _ => none

end Datum

end IrradianceField
