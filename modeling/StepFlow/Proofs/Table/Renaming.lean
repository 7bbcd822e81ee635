import StepFlow.Proofs.Dictionary
import StepFlow.Proofs.Graph.Load
import StepFlow.Proofs.Graph.Renaming
import StepFlow.Proofs.Roles
import StepFlow.Proofs.TextMap
import StepFlow.Table.Basic

namespace StepFlow

variable {newId : StepId ↪ StepId}

namespace Roles

/-- The same entries under the new ids, those that belong to no step included. -/
def rename (newId : StepId ↪ StepId) (roles : Roles) : Roles :=
  .ofList (roles.entries.map fun entry => ((newId ⟨entry.1⟩).text, entry.2))

def Renamed (newId : StepId ↪ StepId) (roles renamed : Roles) : Prop :=
  ∀ id, renamed.get? (newId id) = roles.get? id

theorem renamed_rename (newId : StepId ↪ StepId) (roles : Roles) :
    roles.Renamed newId (roles.rename newId) := by
  intro id
  have injective : Function.Injective fun text : String => (newId ⟨text⟩).text := by
    intro left right same
    exact congrArg StepId.text (newId.injective (StepId.text_inj.mp same))
  have keys : (roles.entries.map fun entry => ((newId ⟨entry.1⟩).text, entry.2)).map (·.1) =
      (roles.entries.map (·.1)).map fun text => (newId ⟨text⟩).text := by
    rw [List.map_map, List.map_map]
    rfl
  have distinct : ((roles.entries.map fun entry =>
      ((newId ⟨entry.1⟩).text, entry.2)).map (·.1)).Nodup :=
    keys ▸ roles.nodup_keys.map injective
  apply Option.ext
  intro role
  rw [get?, get?, rename, TextMap.get?_ofList distinct, TextMap.lookup_eq_some_iff distinct,
    TextMap.get?_eq_some_iff, List.mem_map]
  constructor
  · rintro ⟨⟨text, _⟩, member, same⟩
    rcases Prod.mk.inj same with ⟨sameText, rfl⟩
    have itsText : text = id.text := injective sameText
    subst itsText
    exact member
  · intro member
    exact ⟨(id.text, role), member, rfl⟩

namespace Renamed

variable {roles renamed : Roles} (same : roles.Renamed newId renamed)

include same

theorem roleOf_eq (id : StepId) : renamed.roleOf (newId id) = roles.roleOf id := by
  rw [roleOf, roleOf, same id]

theorem set {step stepToo : Step} (sameStep : step.Renamed newId stepToo) (role : Role) :
    (roles.set step.id role).Renamed newId (renamed.set stepToo.id role) := by
  intro id
  simp only [get?_set, sameStep.id, newId.apply_eq_iff_eq, same id]

theorem fillStep (keywords : Keywords) {step stepToo : Step}
    (sameStep : step.Renamed newId stepToo) :
    (Roles.fillStep keywords roles step).Renamed newId
      (Roles.fillStep keywords renamed stepToo) := by
  intro id
  simp only [get?_fillStep, filled, sameStep.id, sameStep.declaredRole, sameStep.name,
    newId.apply_eq_iff_eq, same id]

theorem fill (keywords : Keywords) {graph graphToo : Graph}
    (sameGraph : graph.Renamed newId graphToo) :
    (roles.fill keywords graph).Renamed newId (renamed.fill keywords graphToo) :=
  List.rel_foldl (fun _ _ sameRoles _ _ sameStep => sameRoles.fillStep keywords sameStep) same
    sameGraph.steps

end Renamed

theorem classify_renamed (keywords : Keywords) {graph graphToo : Graph}
    (sameGraph : graph.Renamed newId graphToo) :
    (classify keywords graph).Renamed newId (classify keywords graphToo) := by
  have nothing : Renamed newId ∅ ∅ := fun _ => rfl
  refine List.rel_foldl ?_ nothing sameGraph.steps
  intro roles renamed sameRoles step stepToo sameStep
  have sameRole : keywords.roleOfStep stepToo = keywords.roleOfStep step := by
    rw [Keywords.roleOfStep, Keywords.roleOfStep, sameStep.declaredRole, sameStep.name]
  dsimp only
  rw [sameRole]
  exact sameRoles.set sameStep _

end Roles

theorem Dictionaries.defaults_renamed {graph graphToo : Graph} {roles rolesToo : Roles}
    (sameGraph : graph.Renamed newId graphToo) (sameRoles : roles.Renamed newId rolesToo) :
    defaults graphToo rolesToo = defaults graph roles := by
  refine congrArg Prod.fst (Eq.symm (List.rel_foldl (P := Eq) ?_ rfl sameGraph.steps))
  rintro merged _ rfl step stepToo sameStep
  dsimp only
  rw [sameStep.id, sameRoles.roleOf_eq, sameGraph.qualifiedName_eq]

def ChainOutcome.rename (newId : StepId ↪ StepId) : ChainOutcome → ChainOutcome
  | direct => direct
  | reached => reached
  | dangling last => dangling (newId last)
  | cycle repeated => cycle (newId repeated)

def Chain.rename (newId : StepId ↪ StepId) (chain : Chain) : Chain :=
  { chain with
    destinationStep := chain.destinationStep.map newId
    ruleSteps := chain.ruleSteps.map newId
    outcome := chain.outcome.rename newId }

def GeneratedRow.rename (newId : StepId ↪ StepId) (generated : GeneratedRow) : GeneratedRow :=
  { generated with source := newId generated.source, chain := generated.chain.map (.rename newId) }

def Finding.rename (newId : StepId ↪ StepId) : Finding → Finding
  | unknownState name => unknownState name
  | unknownRule name => unknownRule name
  | danglingChain source last => danglingChain (newId source) (newId last)
  | cyclicChain source repeated => cyclicChain (newId source) (newId repeated)
  | branchingStep step connections => branchingStep (newId step) connections

theorem Finding.rename_injective (newId : StepId ↪ StepId) : Function.Injective (rename newId) := by
  intro left right same
  cases left <;> cases right <;> simp_all [rename]

def Table.rename (newId : StepId ↪ StepId) (table : Table) : Table :=
  { table with findings := table.findings.map (.rename newId) }

namespace Flow

structure Renamed (newId : StepId ↪ StepId) (flow renamed : Flow) : Prop where
  graph : flow.graph.Renamed newId renamed.graph
  roles : flow.roles.Renamed newId renamed.roles
  dictionaries : renamed.dictionaries = flow.dictionaries

theorem complete_renamed {graph graphToo : Graph} (same : graph.Renamed newId graphToo)
    (keywords : Keywords) (roles : Option Roles) (dictionaries : Option Dictionaries) :
    (complete graph keywords roles dictionaries).Renamed newId
      (complete graphToo keywords (roles.map (.rename newId)) dictionaries) := by
  have sameRoles : (complete graph keywords roles dictionaries).roles.Renamed newId
      (complete graphToo keywords (roles.map (.rename newId)) dictionaries).roles := by
    cases roles with
    | none => exact Roles.classify_renamed keywords same
    | some roles => exact (roles.renamed_rename newId).fill keywords same
  refine ⟨same, sameRoles, ?_⟩
  cases dictionaries with
  | some dictionaries => rfl
  | none => exact Dictionaries.defaults_renamed same sameRoles

namespace Renamed

variable {flow renamed : Flow} (same : flow.Renamed newId renamed)

include same

theorem hasRole_eq (role : Role) (id : StepId) :
    renamed.hasRole role (newId id) = flow.hasRole role id := by
  rw [hasRole, hasRole, same.roles.roleOf_eq]

theorem stateLabel_eq (id : StepId) : renamed.stateLabel (newId id) = flow.stateLabel id := by
  rw [stateLabel, stateLabel, same.dictionaries, same.graph.qualifiedName_eq]

theorem ruleLabel_eq (id : StepId) : renamed.ruleLabel (newId id) = flow.ruleLabel id := by
  rw [ruleLabel, ruleLabel, same.dictionaries, same.graph.qualifiedName_eq]

theorem chainWalk_eq (start : StepId) :
    renamed.chainWalk (newId start) = (flow.chainWalk start).map newId :=
  Links.walk_map (fun _ => True) newId.injective (fun _ _ => trivial)
    (fun _ => same.graph.successor?_eq _) (fun _ => same.hasRole_eq .state _) trivial

theorem filter_hasRole_map (role : Role) (ids : List StepId) :
    (ids.map newId).filter (renamed.hasRole role) = (ids.filter (flow.hasRole role)).map newId := by
  rw [List.filter_map]
  exact congrArg (fun keep => (ids.filter keep).map newId) (funext (same.hasRole_eq role))

theorem chainOfWalk_eq (walk : Walk StepId) :
    renamed.chainOfWalk (walk.map newId) = (flow.chainOfWalk walk).rename newId := by
  have outcome : ChainOutcome.ofEnd (walk.ending.map newId) =
      (ChainOutcome.ofEnd walk.ending).rename newId := by
    cases walk.ending <;> rfl
  have ruleLabels (ids : List StepId) :
      (ids.map newId).map renamed.ruleLabel = ids.map flow.ruleLabel := by
    rw [List.map_map]
    exact congrArg (List.map · ids) (funext same.ruleLabel_eq)
  have destination (goal : Option StepId) :
      (goal.map newId).map renamed.stateLabel = goal.map flow.stateLabel := by
    rw [Option.map_map]
    exact congrArg (Option.map · goal) (funext same.stateLabel_eq)
  simp only [chainOfWalk, Chain.rename, Walk.map, same.filter_hasRole_map, WalkEnd.goal?_map,
    ruleLabels, destination, outcome, List.length_map]

theorem resolve_eq (connection : Connection) :
    renamed.resolve (connection.rename newId) = (flow.resolve connection).rename newId := by
  rw [resolve, resolve, Connection.rename, same.hasRole_eq]
  split
  · rw [same.stateLabel_eq]
    rfl
  · rw [same.chainWalk_eq, same.chainOfWalk_eq]

theorem rowOf_eq (priority : Priority) (state : StepId) (connection : Connection) :
    renamed.rowOf priority (newId state) (connection.rename newId) =
      (flow.rowOf priority state connection).rename newId := by
  rw [rowOf, rowOf, same.resolve_eq, same.stateLabel_eq]
  rfl

theorem rowsOf_eq (priority : Priority) (state : StepId) :
    renamed.rowsOf priority (newId state) =
      (flow.rowsOf priority state).map (.rename newId) := by
  rw [rowsOf, rowsOf, same.graph.outgoing_eq, same.stateLabel_eq]
  cases flow.graph.outgoing state with
  | nil => rfl
  | cons first rest =>
      simp only [List.map_cons, List.map_map, same.rowOf_eq]
      congr 2
      funext connection
      exact same.rowOf_eq priority state connection

theorem rows_eq (priority : Priority) :
    renamed.rows priority = (flow.rows priority).map (.rename newId) := by
  rw [rows, rows, states, states, same.graph.ids_eq, same.filter_hasRole_map, List.flatMap_map,
    List.map_flatMap]
  exact List.flatMap_congr fun state _ => same.rowsOf_eq priority state

theorem stateFindings_eq (id : StepId) :
    renamed.stateFindings (newId id) = (flow.stateFindings id).map (.rename newId) := by
  simp only [stateFindings, same.dictionaries, same.graph.qualifiedName_eq]
  split <;> rfl

theorem ruleFindings_eq (id : StepId) :
    renamed.ruleFindings (newId id) = (flow.ruleFindings id).map (.rename newId) := by
  simp only [ruleFindings, same.dictionaries, same.graph.qualifiedName_eq]
  split <;> rfl

theorem chainFindings_eq (source : StepId) (chain : Chain) :
    renamed.chainFindings (newId source) (chain.rename newId) =
      (flow.chainFindings source chain).map (.rename newId) := by
  have outcome : outcomeFindings (newId source) (chain.outcome.rename newId) =
      (outcomeFindings source chain.outcome).map (.rename newId) := by
    cases chain.outcome <;> rfl
  have destination : (chain.destinationStep.map newId).toList.flatMap renamed.stateFindings =
      (chain.destinationStep.toList.flatMap flow.stateFindings).map (.rename newId) := by
    cases chain.destinationStep with
    | none => rfl
    | some id => simp [same.stateFindings_eq]
  have rules : (chain.ruleSteps.map newId).flatMap renamed.ruleFindings =
      (chain.ruleSteps.flatMap flow.ruleFindings).map (.rename newId) := by
    rw [List.flatMap_map, List.map_flatMap]
    exact List.flatMap_congr fun id _ => same.ruleFindings_eq id
  rw [chainFindings, chainFindings, List.map_append, List.map_append]
  exact congrArg₂ (· ++ ·) (congrArg₂ (· ++ ·) outcome destination) rules

theorem rowFindings_eq (generated : GeneratedRow) :
    renamed.rowFindings (generated.rename newId) =
      (flow.rowFindings generated).map (.rename newId) := by
  rcases generated with ⟨row, source, chain⟩
  rw [rowFindings, rowFindings, GeneratedRow.rename, same.stateFindings_eq, List.map_append]
  cases chain with
  | none => rfl
  | some chain => simp [same.chainFindings_eq]

theorem branchings_eq : renamed.branchings = flow.branchings.map (.rename newId) := by
  apply eq_map_of_forall₂
  refine List.rel_filterMap ?_ same.graph.steps
  intro step stepToo sameStep
  simp only [sameStep.id, same.hasRole_eq, same.graph.outgoing_eq, List.length_map]
  split
  · exact .some rfl
  · exact .none

/-- Rows name no ids, and findings are the same but for the ids that they name. -/
theorem compile_eq (priority : Priority) :
    renamed.compile priority = (flow.compile priority).rename newId := by
  have rows : ((flow.rows priority).map (GeneratedRow.rename newId)).map (·.row) =
      (flow.rows priority).map (·.row) := by
    rw [List.map_map]
    rfl
  have findings :
      ((flow.rows priority).map (GeneratedRow.rename newId)).flatMap renamed.rowFindings =
      ((flow.rows priority).flatMap flow.rowFindings).map (.rename newId) := by
    rw [List.flatMap_map, List.map_flatMap]
    exact List.flatMap_congr fun generated _ => same.rowFindings_eq generated
  rw [compile, compile, Table.rename, same.rows_eq, same.branchings_eq]
  dsimp only
  rw [rows, findings, ← List.map_append, eraseDups_map (Finding.rename_injective newId)]

end Renamed

/-- Of steps and connections under other ids, with other things for show, a load refuses the same,
and every table of what it loads is the same but for the ids in the findings. -/
theorem compile_renamed (newId : StepId ↪ StepId) {steps stepsToo : List Step}
    (sameSteps : List.Forall₂ (Step.Renamed newId) steps stepsToo)
    (connections : List Connection) :
    ((∃ graph, Graph.ofParts steps connections = .ok graph) ↔
      ∃ renamed, Graph.ofParts stepsToo (connections.map (.rename newId)) = .ok renamed) ∧
    (∀ id, Graph.ofParts steps connections = .error (.duplicateId id) →
      Graph.ofParts stepsToo (connections.map (.rename newId)) =
        .error (.duplicateId (newId id))) ∧
    ∀ graph renamed, Graph.ofParts steps connections = .ok graph →
      Graph.ofParts stepsToo (connections.map (.rename newId)) = .ok renamed →
      ∀ (keywords : Keywords) (roles : Option Roles) (dictionaries : Option Dictionaries)
          (priority : Priority),
        (complete renamed keywords (roles.map (.rename newId)) dictionaries).compile priority =
          ((complete graph keywords roles dictionaries).compile priority).rename newId := by
  match Graph.ofParts steps connections,
    Graph.ofParts stepsToo (connections.map (.rename newId)),
    Graph.ofParts_renamed sameSteps connections with
  | _, _, .refused id => simp
  | _, _, .loaded same =>
      refine ⟨by simp, by simp, ?_⟩
      rintro _ _ ⟨⟩ ⟨⟩ keywords roles dictionaries priority
      exact (complete_renamed same keywords roles dictionaries).compile_eq priority

def prefixed : StepId ↪ StepId where
  toFun id := ⟨"x/" ++ id.text⟩
  inj' := by
    intro left right same
    exact StepId.text_inj.mp (String.append_right_inj _ |>.mp (congrArg StepId.text same))

def prefixedTangle : List Step :=
  Graph.tangle.map fun step =>
    { step with
      id := prefixed step.id
      parent := step.parent.map prefixed
      nickname := some step.name }

def loadedTangle : Graph :=
  (Graph.ofParts Graph.tangle Graph.tangleConnections).toOption.getD {}

def loadedPrefixedTangle : Graph :=
  (Graph.ofParts prefixedTangle (Graph.tangleConnections.map (.rename prefixed))).toOption.getD {}

def tangleRoles : Roles := .ofList [("b", .rule), ("ghost", .behavior)]

theorem compile_renamed_tangle : List.Forall₂ (Step.Renamed prefixed) Graph.tangle prefixedTangle ∧
    Graph.ofParts Graph.tangle Graph.tangleConnections = .ok loadedTangle ∧
    Graph.ofParts prefixedTangle (Graph.tangleConnections.map (.rename prefixed)) =
      .ok loadedPrefixedTangle ∧
    (complete loadedPrefixedTangle .standard (some (tangleRoles.rename prefixed)) none).compile
        .standard =
      ((complete loadedTangle .standard (some tangleRoles) none).compile .standard).rename
        prefixed ∧
    ((complete loadedTangle .standard (some tangleRoles) none).compile .standard).findings =
      [.danglingChain ⟨"a"⟩ ⟨"b"⟩] := by
  have sameSteps : List.Forall₂ (Step.Renamed prefixed) Graph.tangle prefixedTangle :=
    List.forall₂_map_right_iff.mpr (List.forall₂_same.mpr fun _ _ => ⟨rfl, rfl, rfl, rfl⟩)
  have loaded : Graph.ofParts Graph.tangle Graph.tangleConnections = .ok loadedTangle := by
    decide +kernel
  have loadedToo : Graph.ofParts prefixedTangle (Graph.tangleConnections.map (.rename prefixed)) =
      .ok loadedPrefixedTangle := by
    decide +kernel
  exact ⟨sameSteps, loaded, loadedToo,
    (compile_renamed prefixed sameSteps Graph.tangleConnections).2.2 _ _ loaded loadedToo
      .standard (some tangleRoles) none .standard,
    by decide +kernel⟩

end Flow

end StepFlow
