import StepFlow.Json.Record
import StepFlow.Table.Row

namespace StepFlow.Row

def toJson (row : Row) : Json := .object
  [("sourceNode", .text row.source),
   ("destinationNode", .text row.destination),
   ("ruleList", .text row.ruleList),
   ("priority", .integer row.priority.toInt),
   ("operation", .text row.operation)]

def fields : List Json.FieldNames :=
  [["sourceNode"], ["destinationNode"], ["ruleList"], ["priority"], ["operation"]]

open Json.FieldReader in
def reader : Json.FieldReader Row := do
  let source ← required Json.text?
  let destination ← required Json.text?
  let ruleList ← required Json.text?
  let priority ← required fun json => json.integer?.bind Priority.ofInt?
  let operation ← required Json.text?
  return { source, destination, ruleList, priority, operation }

def ofJson? (json : Json) : Option Row := json.record? fields reader

end StepFlow.Row
