import StepFlow.Dictionary
import StepFlow.Json.Read
import StepFlow.Json.Write
import StepFlow.Step.Json

namespace StepFlow

namespace Roles

def toJson (roles : Roles) : Json := .ofMap Role.toJson roles

def ofJson? (json : Json) : Option Roles := json.map? Role.ofJson?

end Roles

namespace Dictionary

def toJson (dictionary : Dictionary) : Json := .ofMap .text dictionary

def ofJson? (json : Json) : Option Dictionary := json.map? Json.text?

def render (dictionary : Dictionary) : String := (toJson dictionary).render

def parse? (text : String) : Option Dictionary := (Json.ofText? text).bind ofJson?

end Dictionary

namespace Dictionaries

def entriesJson (state rule : List (String × String)) : Json := .object
  [("stateDictionary", .ofEntries .text state), ("ruleDictionary", .ofEntries .text rule)]

def toJson (dictionaries : Dictionaries) : Json :=
  entriesJson dictionaries.state.entries dictionaries.rule.entries

def fields : List Json.FieldNames := [["stateDictionary", "state"], ["ruleDictionary", "rule"]]

open Json.FieldReader in
def entriesReader : Json.FieldReader (List (String × String) × List (String × String)) := do
  let state ← required (Json.entries? Json.text?)
  let rule ← required (Json.entries? Json.text?)
  return (state, rule)

def entriesOfJson? (json : Json) : Option (List (String × String) × List (String × String)) :=
  json.record? fields entriesReader

def ofJson? (json : Json) : Option Dictionaries := do
  let (state, rule) ← entriesOfJson? json
  return { state := .ofList state, rule := .ofList rule }

end Dictionaries

end StepFlow
