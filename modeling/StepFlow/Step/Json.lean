import StepFlow.Json.Record
import StepFlow.Step

namespace StepFlow

namespace StepId

def toJson (id : StepId) : Json := .text id.text

def ofJson? (json : Json) : Option StepId := json.text?.map StepId.mk

end StepId

namespace Role

def ofWord? (word : String) : Option Role := [state, rule, behavior].find? (·.word = word)

def toJson (role : Role) : Json := .text role.word

def ofJson? (json : Json) : Option Role := json.word?.bind ofWord?

end Role

namespace Step

def toJson (step : Step) : Json := .object
  [("id", step.id.toJson),
   ("name", .text step.name),
   ("alias", .ofOption .text step.nickname),
   ("description", .text step.description),
   ("type", .ofOption Role.toJson step.declaredRole),
   ("parentId", .ofOption StepId.toJson step.parent),
   ("assumptions", .ofTexts step.assumptions),
   ("questions", .ofTexts step.questions),
   ("images", .ofTexts step.images)]

def fields : List Json.FieldNames :=
  [["id"], ["name"], ["alias"], ["description"], ["type"], ["parentId"], ["assumptions"],
   ["questions"], ["images"]]

open Json.FieldReader in
def reader : Json.FieldReader Step := do
  let id ← required StepId.ofJson?
  let name ← required Json.text?
  let nickname ← withDefault none (Json.optional? Json.text?)
  let description ← withDefault "" Json.text?
  let declaredRole ← withDefault none (Json.optional? Role.ofJson?)
  let parent ← withDefault none (Json.optional? StepId.ofJson?)
  let assumptions ← withDefault [] (Json.list? Json.text?)
  let questions ← withDefault [] (Json.list? Json.text?)
  let images ← withDefault [] (Json.list? Json.text?)
  return { id, name, nickname, description, declaredRole, parent, assumptions, questions, images }

def ofJson? (json : Json) : Option Step := json.record? fields reader

end Step

end StepFlow
