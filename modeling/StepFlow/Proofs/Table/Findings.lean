import StepFlow.Proofs.Dictionary
import StepFlow.Proofs.Repeats
import StepFlow.Proofs.Table.Rows
import StepFlow.Table.Basic

namespace StepFlow

def Flow.HasChain (flow : Flow) (state : StepId) (chain : Chain) : Prop :=
  flow.IsState state ∧
    ∃ connection ∈ flow.graph.connections, connection.source = state ∧
      flow.resolve connection = chain

def Finding.HoldsIn (flow : Flow) : Finding → Prop
  | .unknownState name =>
      (∃ state, flow.IsState state ∧ flow.graph.qualifiedName state = name) ∧
        flow.dictionaries.state.contains name = false
  | .unknownRule name =>
      (∃ state chain, flow.HasChain state chain ∧
        ∃ rule ∈ chain.ruleSteps, flow.graph.qualifiedName rule = name) ∧
        flow.dictionaries.rule.contains name = false
  | .danglingChain source last =>
      ∃ chain, flow.HasChain source chain ∧ chain.outcome = .dangling last
  | .cyclicChain source repeated =>
      ∃ chain, flow.HasChain source chain ∧ chain.outcome = .cycle repeated
  | .branchingStep step connections =>
      (step ∈ flow.graph.ids ∧ flow.hasRole .state step = false) ∧
        (flow.graph.outgoing step).length = connections ∧ 1 < connections

namespace Flow

variable (flow : Flow) (finding : Finding)

theorem mem_stateFindings (id : StepId) : finding ∈ flow.stateFindings id ↔
    finding = .unknownState (flow.graph.qualifiedName id) ∧
      flow.dictionaries.state.contains (flow.graph.qualifiedName id) = false := by
  rw [stateFindings]
  cases flow.dictionaries.state.contains (flow.graph.qualifiedName id) <;> simp

theorem mem_ruleFindings (id : StepId) : finding ∈ flow.ruleFindings id ↔
    finding = .unknownRule (flow.graph.qualifiedName id) ∧
      flow.dictionaries.rule.contains (flow.graph.qualifiedName id) = false := by
  rw [ruleFindings]
  cases flow.dictionaries.rule.contains (flow.graph.qualifiedName id) <;> simp

theorem mem_outcomeFindings (source : StepId) (outcome : ChainOutcome) :
    finding ∈ outcomeFindings source outcome ↔
      (∃ last, outcome = .dangling last ∧ finding = .danglingChain source last) ∨
        ∃ repeated, outcome = .cycle repeated ∧ finding = .cyclicChain source repeated := by
  cases outcome <;> simp [outcomeFindings]

theorem mem_chainFindings (source : StepId) (chain : Chain) :
    finding ∈ flow.chainFindings source chain ↔
      finding ∈ outcomeFindings source chain.outcome ∨
        (∃ id, chain.destinationStep = some id ∧ finding ∈ flow.stateFindings id) ∨
        ∃ rule ∈ chain.ruleSteps, finding ∈ flow.ruleFindings rule := by
  simp [chainFindings]

theorem mem_branchings : finding ∈ flow.branchings ↔
    ∃ step connections, finding = .branchingStep step connections ∧
      (Finding.branchingStep step connections).HoldsIn flow := by
  simp only [branchings, List.mem_filterMap, Option.ite_none_right_eq_some, Bool.and_eq_true,
    Bool.not_eq_true', decide_eq_true_iff, Option.some.injEq]
  constructor
  · rintro ⟨step, member, ⟨noState, many⟩, rfl⟩
    exact ⟨step.id, _, rfl, ⟨Graph.mem_ids.mpr ⟨step, member, rfl⟩, noState⟩, rfl, many⟩
  · rintro ⟨id, connections, rfl, ⟨isStep, noState⟩, rfl, many⟩
    obtain ⟨step, member, rfl⟩ := Graph.mem_ids.mp isStep
    exact ⟨step, member, ⟨noState, many⟩, rfl⟩

/-- Apart from branching steps all findings come from states and from the chains out of them. A
state that nothing leaves is among them, for it has a terminal row. -/
theorem mem_rowsFindings (priority : Priority) :
    finding ∈ (flow.rows priority).flatMap flow.rowFindings ↔
      (∃ state, flow.IsState state ∧ finding ∈ flow.stateFindings state) ∨
        ∃ state chain, flow.HasChain state chain ∧ finding ∈ flow.chainFindings state chain := by
  simp only [List.mem_flatMap, mem_rows_iff, rowFindings, List.mem_append]
  constructor
  · rintro ⟨generated, ⟨state, isState, member⟩, atSource | inChain⟩
    · rw [flow.source_of_mem_rowsOf priority member] at atSource
      exact .inl ⟨state, isState, atSource⟩
    · rcases (flow.mem_rowsOf_iff priority state generated).mp member with
        ⟨-, rfl⟩ | ⟨connection, stored, leaves, rfl⟩
      · simp [terminalRow] at inChain
      · exact .inr ⟨state, flow.resolve connection,
          ⟨isState, connection, stored, leaves, rfl⟩, by simpa [rowOf] using inChain⟩
  · rintro (⟨state, isState, atState⟩ | ⟨state, _, ⟨isState, connection, stored, leaves, rfl⟩,
      inChain⟩)
    · obtain ⟨generated, member⟩ := List.exists_mem_of_ne_nil _ (flow.rowsOf_ne_nil priority state)
      refine ⟨generated, ⟨state, isState, member⟩, .inl ?_⟩
      rw [flow.source_of_mem_rowsOf priority member]
      exact atState
    · refine ⟨flow.rowOf priority state connection, ⟨state, isState, ?_⟩,
        .inr (by simpa [rowOf] using inChain)⟩
      exact (flow.mem_rowsOf_iff priority state _).mpr (.inr ⟨connection, stored, leaves, rfl⟩)

variable {flow finding}

theorem HasChain.isState (wellFormed : flow.graph.WellFormed) {state id : StepId} {chain : Chain}
    (hasChain : flow.HasChain state chain) (reached : chain.destinationStep = some id) :
    flow.IsState id := by
  rcases hasChain with ⟨-, connection, stored, -, rfl⟩
  exact isState_of_destination wellFormed (wellFormed.endsExist connection stored).2 reached

theorem mem_findings_iff (wellFormed : flow.graph.WellFormed) (priority : Priority) :
    finding ∈ (flow.compile priority).findings ↔ finding.HoldsIn flow := by
  have members : finding ∈ (flow.compile priority).findings ↔ finding ∈ flow.branchings ∨
      (∃ state, flow.IsState state ∧ finding ∈ flow.stateFindings state) ∨
        ∃ state chain, flow.HasChain state chain ∧ finding ∈ flow.chainFindings state chain := by
    rw [compile, List.mem_eraseDups, List.mem_append, mem_rowsFindings]
  rw [members]
  simp only [mem_branchings, mem_stateFindings, mem_chainFindings, mem_outcomeFindings,
    mem_ruleFindings]
  cases finding with
  | branchingStep step connections => simp
  | danglingChain source last => simp [Finding.HoldsIn]
  | cyclicChain source repeated => simp [Finding.HoldsIn]
  | unknownState name =>
      simp only [reduceCtorEq, Finding.HoldsIn, false_and, exists_const, exists_false,
        Finding.unknownState.injEq, and_false, or_self, or_false, false_or]
      constructor
      · rintro (⟨state, isState, rfl, absent⟩ | ⟨state, chain, hasChain, id, reached, rfl, absent⟩)
        · exact ⟨⟨state, isState, rfl⟩, absent⟩
        · exact ⟨⟨id, hasChain.isState wellFormed reached, rfl⟩, absent⟩
      · rintro ⟨⟨state, isState, rfl⟩, absent⟩
        exact .inl ⟨state, isState, rfl, absent⟩
  | unknownRule name =>
      simp only [reduceCtorEq, Finding.HoldsIn, false_and, exists_const, exists_false, and_false,
        or_self, Finding.unknownRule.injEq, false_or]
      constructor
      · rintro ⟨state, chain, hasChain, rule, inside, rfl, absent⟩
        exact ⟨⟨state, chain, hasChain, rule, inside, rfl⟩, absent⟩
      · rintro ⟨⟨state, chain, hasChain, rule, inside, rfl⟩, absent⟩
        exact ⟨state, chain, hasChain, rule, inside, rfl, absent⟩

theorem not_unknown_of_covers (wellFormed : flow.graph.WellFormed)
    (covers : flow.dictionaries.Covers flow.graph flow.roles) (name : String) :
    ¬ (Finding.unknownState name).HoldsIn flow ∧ ¬ (Finding.unknownRule name).HoldsIn flow := by
  have labelled {role : Role} (hasLabels : role ≠ .behavior) {id : StepId}
      (isStep : id ∈ flow.graph.ids) (itsRole : flow.hasRole role id = true) :
      (flow.dictionaries.labels role).contains (flow.graph.qualifiedName id) = true := by
    obtain ⟨step, member, rfl⟩ := Graph.mem_ids.mp isStep
    exact covers role hasLabels _
      (List.mem_map.mpr ⟨step, List.mem_filter.mpr ⟨member, itsRole⟩, rfl⟩)
  constructor
  · rintro ⟨⟨state, ⟨isStep, isState⟩, rfl⟩, absent⟩
    cases absent.symm.trans (labelled (by decide : Role.state ≠ .behavior) isStep isState)
  · rintro ⟨⟨_, _, ⟨-, connection, stored, -, rfl⟩, rule, inside, rfl⟩, absent⟩
    obtain ⟨isStep, isRule⟩ :=
      mem_ids_of_mem_ruleSteps wellFormed (wellFormed.endsExist connection stored).2 inside
    cases absent.symm.trans (labelled (by decide : Role.rule ≠ .behavior) isStep isRule)

theorem not_unknown_of_defaults (wellFormed : flow.graph.WellFormed)
    (byDefault : flow.dictionaries = Dictionaries.defaults flow.graph flow.roles) (name : String) :
    ¬ (Finding.unknownState name).HoldsIn flow ∧ ¬ (Finding.unknownRule name).HoldsIn flow :=
  not_unknown_of_covers wellFormed (byDefault ▸ Dictionaries.covers_defaults _ _) name

/-- A table reports just what holds in the flow that it is made from, each finding once, and no
unknown names where the labels are the default ones. -/
theorem findings_agree {graph : Graph} (reachable : graph.Reachable) (keywords : Keywords)
    (roles : Option Roles) (dictionaries : Option Dictionaries) (priority : Priority) :
    ((complete graph keywords roles dictionaries).compile priority).findings.Nodup ∧
      (∀ finding,
        finding ∈ ((complete graph keywords roles dictionaries).compile priority).findings ↔
          finding.HoldsIn (complete graph keywords roles dictionaries)) ∧
      (dictionaries = none → ∀ name,
        .unknownState name ∉
            ((complete graph keywords roles dictionaries).compile priority).findings ∧
          .unknownRule name ∉
            ((complete graph keywords roles dictionaries).compile priority).findings) := by
  have wellFormed : (complete graph keywords roles dictionaries).graph.WellFormed :=
    reachable.wellFormed
  refine ⟨nodup_eraseDups _, fun finding => mem_findings_iff wellFormed priority, ?_⟩
  rintro rfl name
  rw [mem_findings_iff wellFormed, mem_findings_iff wellFormed]
  exact not_unknown_of_defaults wellFormed rfl name

def labelledLasso : Flow := complete lasso.graph .standard (some lasso.roles) none

theorem findings_agree_lasso : lasso.graph.Reachable ∧
    (labelledLasso.compile .standard).findings.Nodup ∧
    (∀ finding, finding ∈ (labelledLasso.compile .standard).findings ↔
      finding.HoldsIn labelledLasso) ∧
    (∀ name, .unknownState name ∉ (labelledLasso.compile .standard).findings ∧
      .unknownRule name ∉ (labelledLasso.compile .standard).findings) ∧
    (labelledLasso.compile .standard).findings = [.cyclicChain ⟨"step-1"⟩ ⟨"step-2"⟩] := by
  have reachable : lasso.graph.Reachable := ⟨{}, lassoEdits, .empty, rfl⟩
  obtain ⟨distinct, agree, known⟩ :=
    findings_agree reachable .standard (some lasso.roles) none .standard
  exact ⟨reachable, distinct, agree, known rfl, by decide +kernel⟩

end Flow

end StepFlow
