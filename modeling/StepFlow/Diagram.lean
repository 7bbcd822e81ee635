import StepFlow.Connection.Json
import StepFlow.Json.Read
import StepFlow.Project

namespace StepFlow

structure DiagramStep where
  step : Step
  roleWord : Option String
  deriving DecidableEq, Repr

structure DiagramConnection where
  source : StepId
  target : StepId
  outcomeWord : String
  deriving DecidableEq, Repr

structure DiagramKeywords where
  rule : Option (List String)
  behavior : Option (List String)
  deriving DecidableEq, Repr

structure Diagram where
  steps : List DiagramStep
  connections : List DiagramConnection
  keywords : Option DiagramKeywords
  deriving DecidableEq, Repr

namespace DiagramStep

def fields : List Json.FieldNames :=
  [["id"], ["name"], ["alias"], ["description"], ["type"], ["parent_id", "parentId"]]

open Json.FieldReader in
def reader : Json.FieldReader DiagramStep := do
  let id ← required StepId.ofJson?
  let name ← required Json.text?
  let nickname ← withDefault none (Json.optional? Json.text?)
  let description ← withDefault "" Json.text?
  let roleWord ← withDefault none (Json.optional? Json.text?)
  let parent ← withDefault none (Json.optional? StepId.ofJson?)
  return { step := { id, name, nickname, description, parent }, roleWord }

def ofJson? (json : Json) : Option DiagramStep := json.record? fields reader

def roleOfWord? (word : String) : Option Role :=
  if word = "behaviour" then some .behavior else Role.ofWord? word

def toStep (given : DiagramStep) : Except ImportError Step :=
  match given.roleWord with
  | none => .ok given.step
  | some word =>
      let lower := Text.lowerString word
      match roleOfWord? lower with
      | some role => .ok { given.step with declaredRole := some role }
      | none => .error (.unknownRole lower)

end DiagramStep

namespace DiagramConnection

def fields : List Json.FieldNames :=
  [["from_step_id", "fromStepId"], ["to_step_id", "toStepId"], ["type"]]

open Json.FieldReader in
def reader : Json.FieldReader DiagramConnection := do
  let source ← required StepId.ofJson?
  let target ← required StepId.ofJson?
  let outcomeWord ← required Json.text?
  return { source, target, outcomeWord }

def ofJson? (json : Json) : Option DiagramConnection := json.record? fields reader

def toConnection (given : DiagramConnection) : Except ImportError Connection :=
  let lower := Text.lowerString given.outcomeWord
  match Outcome.ofWord? lower with
  | some outcome => .ok { source := given.source, target := given.target, outcome }
  | none => .error (.unknownOutcome lower)

end DiagramConnection

namespace DiagramKeywords

def fields : List Json.FieldNames :=
  [["rule_keywords", "ruleKeywords", "rule"],
   ["behavior_keywords", "behaviorKeywords", "behavior"]]

open Json.FieldReader in
def reader : Json.FieldReader DiagramKeywords := do
  let rule ← withDefault none (Json.optional? (Json.list? Json.text?))
  let behavior ← withDefault none (Json.optional? (Json.list? Json.text?))
  return { rule, behavior }

def ofJson? (json : Json) : Option DiagramKeywords := json.record? fields reader

def toKeywords (given : DiagramKeywords) : Except KeywordError Keywords :=
  Keywords.ofLists (given.rule.getD Keywords.standard.rule)
    (given.behavior.getD Keywords.standard.behavior)

end DiagramKeywords

namespace Diagram

def fields : List Json.FieldNames :=
  [["steps"], ["connections"], ["classification_rules", "classificationRules"]]

open Json.FieldReader in
def reader : Json.FieldReader Diagram := do
  let steps ← required (Json.list? DiagramStep.ofJson?)
  let connections ← withDefault [] (Json.list? DiagramConnection.ofJson?)
  let keywords ← withDefault none (Json.optional? DiagramKeywords.ofJson?)
  return { steps, connections, keywords }

def parse? (text : String) : Option Diagram :=
  (Json.ofText? text).bind (Json.record? fields reader)

def keywordsOf (diagram : Diagram) : Except ImportError Keywords :=
  match diagram.keywords with
  | none => .ok .standard
  | some given => given.toKeywords.mapError .keywords

/-- Unknown words are reported before empty keywords, and those before a repeated id. -/
def toProject (diagram : Diagram) : Except ImportError Project := do
  let steps ← diagram.steps.mapM DiagramStep.toStep
  let connections ← diagram.connections.mapM DiagramConnection.toConnection
  let keywords ← diagram.keywordsOf
  (Project.ofParts steps connections keywords).mapError .graph

end Diagram

end StepFlow
