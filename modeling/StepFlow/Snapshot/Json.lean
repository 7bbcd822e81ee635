import StepFlow.Connection.Json
import StepFlow.Dictionary.Json
import StepFlow.Keywords.Json
import StepFlow.Snapshot.Basic

/-!
Snapshots as JSON records. Steps and connections have to be given; without the rest the keywords
are the standard ones, and roles and dictionaries are empty.
-/
namespace StepFlow

namespace Manifest

def toJson (manifest : Manifest) : Json := .object
  [("steps", .array (manifest.steps.map Step.toJson)),
   ("connections", .array (manifest.connections.map Connection.toJson)),
   ("keywords", Keywords.listsJson manifest.ruleKeywords manifest.behaviorKeywords),
   ("classifications", .ofEntries Role.toJson manifest.roles),
   ("dictionaries", Dictionaries.entriesJson manifest.stateLabels manifest.ruleLabels)]

def fields : List Json.FieldNames :=
  [["steps"], ["connections"], ["keywords"], ["classifications"], ["dictionaries"]]

open Json.FieldReader in
def reader : Json.FieldReader Manifest := do
  let steps ← required (Json.list? Step.ofJson?)
  let connections ← required (Json.list? Connection.ofJson?)
  let (ruleKeywords, behaviorKeywords) ←
    withDefault (Keywords.standard.rule, Keywords.standard.behavior) Keywords.listsOfJson?
  let roles ← withDefault [] (Json.entries? Role.ofJson?)
  let (stateLabels, ruleLabels) ← withDefault ([], []) Dictionaries.entriesOfJson?
  return { steps, connections, ruleKeywords, behaviorKeywords, roles, stateLabels, ruleLabels }

def ofJson? (json : Json) : Option Manifest := json.record? fields reader

end Manifest

namespace Snapshot

def toJson (snapshot : Snapshot) : Json := snapshot.manifest.toJson

def ofJson? (json : Json) : Option Snapshot := (Manifest.ofJson? json).bind Manifest.snapshot?

end Snapshot

end StepFlow
