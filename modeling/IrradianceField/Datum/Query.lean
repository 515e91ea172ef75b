import IrradianceField.Datum.Reading
import IrradianceField.Datum.Writing

/-!
Questions: values and functions that can be asked for by name, with their arguments, and sessions of
questions that change a state.
-/

namespace IrradianceField

/-- What can be asked for: values that can be written, and functions of values that can be read. -/
class Askable (β : Type) where
  ask : β → List Datum → Answer Datum

namespace Askable

variable {α β : Type}

instance (priority := low) [Writable β] : Askable β := ⟨fun b _ => .ok (.of b)⟩

instance [Askable β] : Askable (Except Fault β) := ⟨fun r arguments => do
  ask (← Answer.ofFallible r) arguments⟩

instance [Askable β] : Askable (Except Refusal β) := ⟨fun r arguments => do
  ask (← r) arguments⟩

instance [Readable α] [Askable β] : Askable (α → β) := ⟨fun f arguments => do
  match arguments with
  | first :: rest => ask (f (← first.as)) rest
  | [] => .malformed⟩

end Askable

abbrev Responder := List Datum → Answer Datum

abbrev Responders := List (String × Responder)

namespace Responders

def answer (table : Responders) (question : Datum) : Answer Datum := do
  match ← question.items with
  | name :: arguments => match table.lookup (← name.as) with
    | some respond => respond arguments
    | none => .malformed
  | [] => .malformed

def answerAll (table : Responders) (questions : List Datum) : Answer (List Datum) :=
  questions.mapM fun question => (table.answer question).orFailure

end Responders

namespace Session

variable {σ : Type}

/-- Answers of questions that change a state; one that fails leaves it as it was. -/
def run (next : σ → Datum → Answer (σ × Datum)) : σ → List Datum → Answer (List Datum)
  | _, [] => .ok []
  | state, question :: rest =>
    match next state question with
    | .ok (state, answer) => do return answer :: (← run next state rest)
    | .error (.fault f) => do return .failure f.message :: (← run next state rest)
    | .error e => .error e

/-- Answers of questions that change a state; the first one that fails ends the session. -/
def runUntilFailure (next : σ → Datum → Answer (σ × Datum)) :
    σ → List Datum → Answer (List Datum)
  | _, [] => .ok []
  | state, question :: rest =>
    match next state question with
    | .ok (state, answer) => do return answer :: (← runUntilFailure next state rest)
    | .error (.fault f) => .ok [.failure f.message]
    | .error e => .error e

end Session

end IrradianceField
