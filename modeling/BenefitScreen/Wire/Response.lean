import BenefitScreen.Json.Text
import BenefitScreen.Simulation.Response
import BenefitScreen.Wire.Document

/-!
The answer of a simulation service: a document under `result`.
-/

namespace BenefitScreen

open Simulation

/-- Why the body of an answer is of no use. -/
inductive BodyError where
  /-- Not JSON, or JSON of another shape, for a reason that the reader gives. -/
  | malformed (reason : String)
  | noResult
  deriving DecidableEq, Repr

def BodyError.text : BodyError → String
  | malformed reason => reason
  | noResult => "response has no 'result'"

/-- The document under `result`, if there is one. -/
def Decode.result : Decoder (Option Document) := fun j => do
  let [slot] ← slots ["result"] j | none
  slot.orNone document

def Decode.resultDocument (j : Json) : Except BodyError Document :=
  match Decode.result j with
  | some (some d) => .ok d
  | some none => .error .noResult
  | none => .error (.malformed "not of the shape of an answer")

/-- The parts of a body that are read: the fields of the document under `result`. -/
def bodyParts : Json.Selection := .fields ["result"] (.fields Decode.documentFields .everything)

namespace Simulation.Response

def ofBody (body period : String) : Except BodyError Response :=
  match Json.parseParts? bodyParts body with
  | some j => return ⟨← Decode.resultDocument j, period⟩
  | none => .error (.malformed "not JSON")

end Simulation.Response

end BenefitScreen
