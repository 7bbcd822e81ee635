import StepFlow.Connection
import StepFlow.Step.Json

namespace StepFlow

namespace Outcome

def ofWord? (word : String) : Option Outcome := [success, failure].find? (·.word = word)

def toJson (outcome : Outcome) : Json := .text outcome.word

def ofJson? (json : Json) : Option Outcome := json.word?.bind ofWord?

end Outcome

namespace Connection

def toJson (connection : Connection) : Json := .object
  [("fromStepId", connection.source.toJson),
   ("toStepId", connection.target.toJson),
   ("type", connection.outcome.toJson)]

def fields : List Json.FieldNames := [["fromStepId"], ["toStepId"], ["type"]]

open Json.FieldReader in
def reader : Json.FieldReader Connection := do
  let source ← required StepId.ofJson?
  let target ← required StepId.ofJson?
  let outcome ← required Outcome.ofJson?
  return { source, target, outcome }

def ofJson? (json : Json) : Option Connection := json.record? fields reader

end Connection

end StepFlow
