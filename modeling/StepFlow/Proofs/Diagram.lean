import StepFlow.Diagram
import StepFlow.Proofs.Keywords
import StepFlow.Proofs.Snapshot.Json

namespace StepFlow

theorem Keywords.Plain.lowerString_eq {word : String} (plain : Plain word) :
    Text.lowerString word = word := by
  rw [Text.lowerString, Text.lower, Text.lowerFrom_of_uncovered plain.uncovered,
    String.ofList_toList]

def Step.plain (step : Step) : Step :=
  { step with assumptions := [], questions := [], images := [] }

namespace DiagramStep

def ofStep (step : Step) : DiagramStep where
  step := { step.plain with declaredRole := none }
  roleWord := step.declaredRole.map Role.word

theorem ofJson?_toJson (step : Step) : ofJson? step.toJson = some (ofStep step) := by
  have values : Json.fieldValues? fields step.toJson =
      some [some step.id.toJson, some (.text step.name), some (.ofOption .text step.nickname),
        some (.text step.description), some (.ofOption Role.toJson step.declaredRole),
        some (.ofOption StepId.toJson step.parent)] := rfl
  have roleWord : Json.optional? Json.text? (.ofOption Role.toJson step.declaredRole) =
      some (step.declaredRole.map Role.word) := by
    cases step.declaredRole <;> rfl
  rw [ofJson?, Json.record?_of_values values]
  simp [reader, StepId.ofJson?_toJson, Json.text?, Json.optional?_ofOption_text, roleWord,
    StepId.optional?_ofOption, ofStep, Step.plain]

theorem roleOfWord?_word (role : Role) : roleOfWord? (Text.lowerString role.word) = some role := by
  have plain : Keywords.Plain role.word := by cases role <;> decide
  rw [plain.lowerString_eq]
  cases role <;> decide

theorem toStep_ofStep (step : Step) : (ofStep step).toStep = .ok step.plain := by
  rw [toStep, ofStep]
  cases declared : step.declaredRole with
  | none => simp [Step.plain, declared]
  | some role => simp [Step.plain, declared, roleOfWord?_word]

end DiagramStep

namespace DiagramConnection

def ofConnection (connection : Connection) : DiagramConnection where
  source := connection.source
  target := connection.target
  outcomeWord := connection.outcome.word

theorem ofJson?_toJson (connection : Connection) :
    ofJson? connection.toJson = some (ofConnection connection) := by
  have values : Json.fieldValues? fields connection.toJson =
      some [some connection.source.toJson, some connection.target.toJson,
        some (.text connection.outcome.word)] := rfl
  rw [ofJson?, Json.record?_of_values values]
  simp [reader, StepId.ofJson?_toJson, Json.text?, ofConnection]

theorem ofWord?_word (outcome : Outcome) :
    Outcome.ofWord? (Text.lowerString outcome.word) = some outcome := by
  have plain : Keywords.Plain outcome.word := by cases outcome <;> decide
  rw [plain.lowerString_eq]
  cases outcome <;> decide

theorem toConnection_ofConnection (connection : Connection) :
    (ofConnection connection).toConnection = .ok connection := by
  rw [toConnection, ofConnection]
  simp [ofWord?_word]

end DiagramConnection

namespace Diagram

def ofManifest (manifest : Manifest) : Diagram where
  steps := manifest.steps.map DiagramStep.ofStep
  connections := manifest.connections.map DiagramConnection.ofConnection
  keywords := none

theorem parse?_render (manifest : Manifest) :
    parse? manifest.toJson.render = some (ofManifest manifest) := by
  have values : Json.fieldValues? fields manifest.toJson =
      some [some (.array (manifest.steps.map Step.toJson)),
        some (.array (manifest.connections.map Connection.toJson)), none] := rfl
  have steps : Json.list? DiagramStep.ofJson? (.array (manifest.steps.map Step.toJson)) =
      some (manifest.steps.map DiagramStep.ofStep) :=
    Json.mapM_map_of_pure _ _ DiagramStep.ofStep DiagramStep.ofJson?_toJson _
  have connections : Json.list? DiagramConnection.ofJson?
      (.array (manifest.connections.map Connection.toJson)) =
      some (manifest.connections.map DiagramConnection.ofConnection) :=
    Json.mapM_map_of_pure _ _ DiagramConnection.ofConnection DiagramConnection.ofJson?_toJson _
  rw [parse?, Json.ofText?_render manifest.textual_toJson, Option.bind_some,
    Json.record?_of_values values]
  simp [reader, steps, connections, ofManifest]

theorem toProject_ofManifest (manifest : Manifest) : (ofManifest manifest).toProject =
    (Project.ofParts (manifest.steps.map Step.plain) manifest.connections .standard).mapError
      .graph := by
  have steps : (manifest.steps.map DiagramStep.ofStep).mapM DiagramStep.toStep =
      .ok (manifest.steps.map Step.plain) :=
    Json.mapM_map_of_pure _ _ Step.plain DiagramStep.toStep_ofStep _
  have connections : (manifest.connections.map DiagramConnection.ofConnection).mapM
      DiagramConnection.toConnection = .ok manifest.connections :=
    (Json.mapM_map_of_pure _ _ id DiagramConnection.toConnection_ofConnection _).trans
      (congrArg Except.ok (List.map_id _))
  rw [toProject, ofManifest, steps, connections]
  rfl

end Diagram

end StepFlow
