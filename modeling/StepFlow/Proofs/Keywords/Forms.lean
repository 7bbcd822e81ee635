import StepFlow.Proofs.Snapshot.Json

namespace StepFlow.Keywords

def HasBlank (words : List String) : Prop := ∃ word ∈ words, Text.trim word.toList = []

instance (words : List String) : Decidable (HasBlank words) :=
  inferInstanceAs (Decidable (∃ word ∈ words, Text.trim word.toList = []))

def firstForms (words : List String) : List String :=
  ((words.map normalWord).zipIdx.filter fun (word, place) =>
    word ∉ (words.map normalWord).take place).map (·.1)

theorem normalWord_eq_empty_iff (word : String) :
    normalWord word = "" ↔ Text.trim word.toList = [] := by
  rw [← String.toList_inj, normalWord, String.toList_ofList]
  exact Text.lower_eq_nil_iff _

theorem mem_empty_map_normalWord (words : List String) :
    "" ∈ words.map normalWord ↔ HasBlank words := by
  simp only [List.mem_map, normalWord_eq_empty_iff, HasBlank]

theorem normalList_eq (role : Role) (words : List String) : normalList role words =
    if HasBlank words then .error (.emptyEntry role) else .ok (firstForms words) := by
  have forms := eraseDups_filter (fun _ => true) (words.map normalWord)
  simp only [Bool.true_and, List.filter_true] at forms
  rw [normalList, firstForms, forms]
  simp only [mem_empty_map_normalWord]

theorem ofLists_eq (rule behavior : List String) : ofLists rule behavior =
    if HasBlank rule then .error (.emptyEntry .rule)
    else if HasBlank behavior then .error (.emptyEntry .behavior)
    else .ok ⟨firstForms rule, firstForms behavior⟩ := by
  rw [ofLists, normalList_eq, normalList_eq]
  by_cases blankRule : HasBlank rule
  · rw [if_pos blankRule, if_pos blankRule]
    rfl
  · rw [if_neg blankRule, if_neg blankRule]
    by_cases blankBehavior : HasBlank behavior
    · rw [if_pos blankBehavior, if_pos blankBehavior]
      rfl
    · rw [if_neg blankBehavior, if_neg blankBehavior]
      rfl

theorem parse_render {keywords : Keywords} (built : keywords.Built) :
    parse keywords.render = .ok keywords := by
  have textual : keywords.toJson.Textual := textual_listsJson _ _
  rw [parse, render, Json.ofText?_render textual, Option.bind_some, toJson,
    listsOfJson?_listsJson]
  exact ofLists_of_built built

theorem ofJson?_toJson {keywords : Keywords} (built : keywords.Built) :
    ofJson? keywords.toJson = some keywords := by
  rw [ofJson?, toJson, listsOfJson?_listsJson]
  exact congrArg Except.toOption (ofLists_of_built built)

inductive Obtained : Keywords → Prop
  | standard : Obtained standard
  | made {rule behavior : List String} {keywords : Keywords}
      (made : ofLists rule behavior = .ok keywords) : Obtained keywords
  | parsed {text : String} {keywords : Keywords} (parsed : parse text = .ok keywords) :
      Obtained keywords
  | read {json : Json} {keywords : Keywords} (read : ofJson? json = some keywords) :
      Obtained keywords
  | restored {format : ArchiveFormat} {memory : Memory} {bytes : Bytes} {snapshot : Snapshot}
      (decoded : format.decode memory bytes = .ok snapshot) : Obtained snapshot.keywords

theorem Obtained.built {keywords : Keywords} (obtained : keywords.Obtained) : keywords.Built := by
  cases obtained with
  | standard => exact built_standard
  | made made => exact ⟨_, _, made⟩
  | parsed parsed =>
      rw [parse] at parsed
      split at parsed
      · exact ⟨_, _, parsed⟩
      · cases parsed
  | read read =>
      obtain ⟨⟨rule, behavior⟩, -, made⟩ := Option.bind_eq_some_iff.mp read
      exact built_of_toOption made
  | restored decoded => exact ArchiveFormat.built_of_decode decoded

/-- Two lists of words make keywords unless one of them has a blank entry, which is looked for in
the rule list first. Keywords, however they came about, are tidy and come back from the forms in which
they are kept: their own two lists, their text and their JSON. -/
theorem ofLists_settled (rule behavior : List String) :
    (∀ error, ofLists rule behavior = .error error ↔
      HasBlank rule ∧ error = .emptyEntry .rule ∨
        ¬ HasBlank rule ∧ HasBlank behavior ∧ error = .emptyEntry .behavior) ∧
    (∀ keywords, ofLists rule behavior = .ok keywords ↔
      ¬ HasBlank rule ∧ ¬ HasBlank behavior ∧ keywords = ⟨firstForms rule, firstForms behavior⟩) ∧
    ∀ keywords : Keywords, keywords.Obtained →
      Tidy keywords.rule ∧ Tidy keywords.behavior ∧
        ofLists keywords.rule keywords.behavior = .ok keywords ∧
        parse keywords.render = .ok keywords ∧ ofJson? keywords.toJson = some keywords := by
  refine ⟨?_, ?_, ?_⟩
  · intro error
    rw [ofLists_eq]
    split_ifs with blankRule blankBehavior
    · simp [blankRule, eq_comm]
    · simp [blankRule, blankBehavior, eq_comm]
    · simp [blankRule, blankBehavior]
  · intro keywords
    rw [ofLists_eq]
    split_ifs with blankRule blankBehavior
    · simp [blankRule]
    · simp [blankBehavior]
    · simp [blankRule, blankBehavior, eq_comm]
  · intro keywords obtained
    have built := obtained.built
    exact ⟨built.normal.1.tidy, built.normal.2.tidy, ofLists_of_built built, parse_render built,
      ofJson?_toJson built⟩

/-- A sigma at the end of a word, a letter that has two characters in lower case, and a blank beyond
the ASCII characters. -/
def odosWords : List String := ["ΟΔΟΣ", " İs\t", "οδος\u2003"]

def odos : Keywords := ⟨["οδος", "i\u0307s"], ["push"]⟩

theorem ofLists_settled_odos :
    ofLists odosWords ["Push", "push "] = .ok odos ∧ odos.Obtained ∧
      Tidy odos.rule ∧ Tidy odos.behavior ∧ ofLists odos.rule odos.behavior = .ok odos ∧
      parse odos.render = .ok odos ∧ ofJson? odos.toJson = some odos := by
  have made : ofLists odosWords ["Push", "push "] = .ok odos := by decide +kernel
  have obtained : odos.Obtained := .made made
  exact ⟨made, obtained, (ofLists_settled odosWords ["Push", "push "]).2.2 odos obtained⟩

end StepFlow.Keywords
