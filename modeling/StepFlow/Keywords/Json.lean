import StepFlow.Json.Read
import StepFlow.Json.Record
import StepFlow.Json.Write
import StepFlow.Keywords

namespace StepFlow.Keywords

def listsJson (rule behavior : List String) : Json := .object
  [("ruleKeywords", .ofTexts rule), ("behaviorKeywords", .ofTexts behavior)]

def toJson (keywords : Keywords) : Json := listsJson keywords.rule keywords.behavior

def fields : List Json.FieldNames :=
  [["ruleKeywords", "rule_keywords", "rule"],
   ["behaviorKeywords", "behavior_keywords", "behavior"]]

open Json.FieldReader in
def listsReader : Json.FieldReader (List String × List String) := do
  let rule ← required (Json.list? Json.text?)
  let behavior ← required (Json.list? Json.text?)
  return (rule, behavior)

def listsOfJson? (json : Json) : Option (List String × List String) :=
  json.record? fields listsReader

def ofJson? (json : Json) : Option Keywords := do
  let (rule, behavior) ← listsOfJson? json
  (ofLists rule behavior).toOption

def render (keywords : Keywords) : String := keywords.toJson.render

def parse (text : String) : Except KeywordError Keywords :=
  match (Json.ofText? text).bind listsOfJson? with
  | some (rule, behavior) => ofLists rule behavior
  | none => .error .malformed

end StepFlow.Keywords
