import StepFlow.Keywords
import StepFlow.Proofs.Repeats
import StepFlow.Proofs.Text.LowerCase

namespace StepFlow.Keywords

theorem normalWord_normalWord (word : String) : normalWord (normalWord word) = normalWord word := by
  have trimmed := (Text.trimmed_trim word.toList).lower
  rw [normalWord, normalWord, String.toList_ofList, trimmed.trim_eq, Text.lower_lower]

structure Normal (words : List String) : Prop where
  settled : ∀ word ∈ words, normalWord word = word
  nonempty : "" ∉ words
  distinct : words.Nodup

theorem normal_of_normalList {role : Role} {words normal : List String}
    (made : normalList role words = .ok normal) : Normal normal := by
  rw [normalList] at made
  split at made
  · cases made
  · rename_i nonempty
    obtain rfl := Except.ok.inj made
    refine ⟨?_, ?_, nodup_eraseDups _⟩
    · intro word member
      obtain ⟨origin, -, rfl⟩ := List.mem_map.mp (List.mem_eraseDups.mp member)
      exact normalWord_normalWord origin
    · rwa [List.mem_eraseDups]

theorem mem_of_normalList {role : Role} {words normal : List String}
    (made : normalList role words = .ok normal) (word : String) :
    word ∈ normal ↔ ∃ origin ∈ words, normalWord origin = word := by
  rw [normalList] at made
  split at made
  · cases made
  · obtain rfl := Except.ok.inj made
    rw [List.mem_eraseDups, List.mem_map]

theorem Normal.normalList_eq {words : List String} (normal : Normal words) (role : Role) :
    normalList role words = .ok words := by
  have same : words.map normalWord = words :=
    (List.map_congr_left normal.settled).trans (List.map_id words)
  rw [normalList, same, if_neg normal.nonempty, eraseDups_of_nodup normal.distinct]

/-- What normal form comes to: words without blanks at the ends, in lower case, none of them empty
and none of them twice. -/
structure Tidy (words : List String) : Prop where
  trimmed : ∀ word ∈ words, Text.trim word.toList = word.toList
  lowered : ∀ word ∈ words, Text.lower word.toList = word.toList
  nonempty : ∀ word ∈ words, word ≠ ""
  distinct : words.Nodup

theorem Normal.tidy {words : List String} (normal : Normal words) : Tidy words := by
  have form (word : String) (member : word ∈ words) :
      word.toList = Text.lower (Text.trim word.toList) := by
    have settled := congrArg String.toList (normal.settled word member)
    rw [normalWord, String.toList_ofList] at settled
    exact settled.symm
  refine ⟨?_, ?_, ?_, normal.distinct⟩
  · intro word member
    rw [form word member]
    exact (Text.trimmed_trim word.toList).lower.trim_eq
  · intro word member
    rw [form word member]
    exact Text.lower_lower _
  · rintro word member rfl
    exact normal.nonempty member

/-- Keywords are only ever made from lists of words. -/
def Built (keywords : Keywords) : Prop := ∃ rule behavior, ofLists rule behavior = .ok keywords

theorem built_of_toOption {rule behavior : List String} {keywords : Keywords}
    (made : (ofLists rule behavior).toOption = some keywords) : keywords.Built := by
  refine ⟨rule, behavior, ?_⟩
  cases given : ofLists rule behavior with
  | error error => simp [given, Except.toOption] at made
  | ok _ => simpa [given, Except.toOption] using made

theorem normalLists_of_ofLists {rule behavior : List String} {keywords : Keywords}
    (made : ofLists rule behavior = .ok keywords) :
    normalList .rule rule = .ok keywords.rule ∧
      normalList .behavior behavior = .ok keywords.behavior := by
  rw [ofLists] at made
  cases madeRule : normalList .rule rule with
  | error error =>
      rw [madeRule] at made
      cases made
  | ok normalRule =>
      cases madeBehavior : normalList .behavior behavior with
      | error error =>
          rw [madeRule, madeBehavior] at made
          cases made
      | ok normalBehavior =>
          rw [madeRule, madeBehavior] at made
          cases made
          exact ⟨rfl, rfl⟩

theorem Built.normal {keywords : Keywords} (built : keywords.Built) :
    Normal keywords.rule ∧ Normal keywords.behavior := by
  obtain ⟨rule, behavior, made⟩ := built
  exact (normalLists_of_ofLists made).imp normal_of_normalList normal_of_normalList

theorem ofLists_of_normal {keywords : Keywords} (rule : Normal keywords.rule)
    (behavior : Normal keywords.behavior) :
    ofLists keywords.rule keywords.behavior = .ok keywords := by
  rw [ofLists, rule.normalList_eq, behavior.normalList_eq]
  rfl

theorem ofLists_of_built {keywords : Keywords} (built : keywords.Built) :
    ofLists keywords.rule keywords.behavior = .ok keywords :=
  ofLists_of_normal built.normal.1 built.normal.2

section Standard

def Plain (word : String) : Prop := ∀ c ∈ word.toList, 0x61 ≤ c.toNat ∧ c.toNat ≤ 0x7A

instance (word : String) : Decidable (Plain word) := List.decidableBAll _ _

theorem Plain.uncovered {word : String} (plain : Plain word) :
    ∀ c ∈ word.toList, Text.Uncovered c.toNat := by
  have noRun : ∀ run ∈ Text.caseRuns, run.last < 0x61 ∨ 0x7A < run.first := by decide +kernel
  intro c member
  have letter := plain c member
  refine ⟨by omega, fun run listed inside => ?_⟩
  have within := Text.CaseRun.covers_iff.mp inside
  have apart := noRun run listed
  omega

theorem Plain.trimmed {word : String} (plain : Plain word) : Text.Trimmed word.toList := by
  have noRange : ∀ range ∈ Text.blankRanges, range.2 < 0x61 ∨ 0x7A < range.1 := by decide
  have notBlank : ∀ c ∈ word.toList, Text.isBlank c = false := by
    intro c member
    have letter := plain c member
    refine List.any_eq_false.mpr fun range listed => ?_
    have apart := noRange range listed
    simp only [Bool.and_eq_true, decide_eq_true_iff]
    omega
  exact ⟨fun c first => notBlank c (List.mem_of_mem_head? first),
    fun c last => notBlank c (List.mem_of_mem_getLast? last)⟩

theorem Plain.normalWord_eq {word : String} (plain : Plain word) : normalWord word = word := by
  rw [normalWord, plain.trimmed.trim_eq, Text.lower, Text.lowerFrom_of_uncovered plain.uncovered,
    String.ofList_toList]

theorem built_standard : standard.Built := by
  have plain : ∀ word ∈ standard.rule ++ standard.behavior, Plain word := by decide +kernel
  refine ⟨standard.rule, standard.behavior, ofLists_of_normal ⟨?_, ?_, ?_⟩ ⟨?_, ?_, ?_⟩⟩
  · exact fun word member => (plain word (List.mem_append_left _ member)).normalWord_eq
  · decide
  · decide
  · exact fun word member => (plain word (List.mem_append_right _ member)).normalWord_eq
  · decide
  · decide

end Standard

end StepFlow.Keywords
