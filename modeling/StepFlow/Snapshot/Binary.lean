import StepFlow.Codec
import StepFlow.Snapshot.Basic

namespace StepFlow

namespace Codec

def role : Codec Role := choice [.state, .rule, .behavior]

def outcome : Codec Outcome := choice [.success, .failure]

def stepId : Codec StepId := text.via StepId.text fun text => some ⟨text⟩

def texts : Codec (List String) := text.list

def step : Codec Step :=
  (stepId.pair <| text.pair <| text.option.pair <| text.pair <| role.option.pair <|
    stepId.option.pair <| texts.pair <| texts.pair texts).via
    (fun s => (s.id, s.name, s.nickname, s.description, s.declaredRole, s.parent, s.assumptions,
      s.questions, s.images))
    fun (id, name, nickname, description, declaredRole, parent, assumptions, questions, images) =>
      some { id, name, nickname, description, declaredRole, parent, assumptions, questions, images }

def connection : Codec Connection :=
  (stepId.pair <| stepId.pair outcome).via (fun c => (c.source, c.target, c.outcome))
    fun (source, target, outcome) => some { source, target, outcome }

/-- Lists that make no keywords are refused at once, whatever comes behind them. -/
def keywordLists : Codec (List String × List String) :=
  (texts.pair texts).via id fun lists =>
    (Keywords.ofLists lists.1 lists.2).toOption.map fun _ => lists

def labels : Codec (List (String × String)) := (text.pair text).list

def manifest : Codec Manifest :=
  (step.list.pair <| connection.list.pair <| keywordLists.pair <| (text.pair role).list.pair <|
    labels.pair labels).via
    (fun m => (m.steps, m.connections, (m.ruleKeywords, m.behaviorKeywords), m.roles, m.stateLabels,
      m.ruleLabels))
    fun (steps, connections, (ruleKeywords, behaviorKeywords), roles, stateLabels, ruleLabels) =>
      some { steps, connections, ruleKeywords, behaviorKeywords, roles, stateLabels, ruleLabels }

end Codec

namespace Manifest

def toBytes (manifest : Manifest) : List UInt8 := Codec.manifest.write manifest

def ofBytes (memory : Memory) (bytes : List UInt8) : Except ReadFault Manifest :=
  (Codec.manifest.read bytes).under memory

end Manifest

end StepFlow
