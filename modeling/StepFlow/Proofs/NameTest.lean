import StepFlow.NameTest
import StepFlow.Proofs.Keywords
import StepFlow.Proofs.Text.Word

/-!
Tests of names by keywords. A test is meant to ask if the name opens with a keyword as a whole word,
in capitals or not. Name and keyword are lowered apart from each other, though, and each as a whole,
so what is asked is whether the keyword is what some front of the name becomes in its place. For
`Steady` names the two are the same, and for no others (`keywordTests_exact`).
-/
namespace StepFlow

namespace Text

/-- Some front of the text is the word but for the case of letters, and the word ends there. -/
def OpensWith (word text : List Char) : Prop :=
  ∃ front rest, text = front ++ rest ∧ lower front = lower word ∧ EndsWord rest

/-- There is no dotted capital I in the text, and no front that a word may end with is lowered
otherwise than in its place. -/
structure Steady (text : List Char) : Prop where
  noDottedI : dottedI ∉ text
  noCrossing : ∀ front rest, text = front ++ rest → EndsWord rest → ¬ Crosses [] front rest

theorem Steady.opensInPlace_iff {text : List Char} (steady : Steady text) (word : List Char) :
    OpensInPlace [] (lower word) text ↔ OpensWith word text := by
  have alone {front rest : List Char} (split : text = front ++ rest) (ends : EndsWord rest) :
      lowerBefore rest [] front = lower front :=
    (lowerBefore_eq_iff rest [] front).mpr (steady.noCrossing front rest split ends)
  constructor
  · intro opens
    cases opens with
    | between front rest split same ends =>
        exact ⟨front, rest, split, (alone split ends).symm.trans same, ends⟩
    | within front rest split => exact absurd (by simp [split]) steady.noDottedI
  · rintro ⟨front, rest, split, same, ends⟩
    exact .between front rest split ((alone split ends).trans same) ends

theorem length_lower (text : List Char) : (lower text).length = width text := by
  rw [lower, ← lowerBefore_nil, length_lowerBefore]

section Fronts

/-! Fronts of one text are told apart by their widths. -/

variable {front rest frontToo restToo : List Char}

theorem front_eq_of_width (same : front ++ rest = frontToo ++ restToo)
    (sameWidth : width front = width frontToo) : front = frontToo := by
  rcases List.append_eq_append_iff.mp same with ⟨more, rfl, -⟩ | ⟨more, rfl, -⟩
  all_goals
    rw [width_append] at sameWidth
    have noMore : width more = 0 := by omega
    rw [eq_nil_of_width noMore, List.append_nil]

theorem width_ne_of_dottedI (same : front ++ dottedI :: rest = frontToo ++ restToo) :
    width frontToo ≠ width front + 1 := by
  rcases List.append_eq_append_iff.mp same with ⟨more, rfl, onward⟩ | ⟨more, rfl, -⟩
  · rw [width_append]
    cases more with
    | nil => simp [width]
    | cons c more =>
        obtain ⟨rfl, -⟩ := List.cons.inj onward
        simp only [width, List.length_cons, List.count_cons_self]
        omega
  · rw [width_append]
    omega

end Fronts

theorem lower_eq_of_lower_append {text word tail : List Char} (found : lower text = word ++ tail) :
    lower word = word := by
  refine lowerFrom_of_uncovered fun d member => ?_
  have inside : d ∈ lower text := found ▸ List.mem_append_left tail member
  obtain ⟨c, -, lowers⟩ := exists_lowersTo inside
  exact lowers.uncovered

theorem notBlank_of_isCaseIgnorable {c : Char} (ignored : isCaseIgnorable c = true) :
    isBlank c = false := by
  have apart : ∀ range ∈ caseIgnorableRanges, ∀ blanks ∈ blankRanges,
      range.2 < blanks.1 ∨ blanks.2 < range.1 := by decide +kernel
  rcases List.any_eq_true.mp ignored with ⟨range, listed, around⟩
  refine List.any_eq_false.mpr fun blanks blank => ?_
  have outside := apart range listed blanks blank
  simp only [Bool.and_eq_true, decide_eq_true_iff] at around ⊢
  omega

/-- A word that ends on the first half of a dotted capital I is found, although it is no front. -/
theorem exists_word_of_dottedI {text : List Char} (trimmed : Trimmed text)
    (dotted : dottedI ∈ text) : ∃ word, Trimmed word ∧ word ≠ [] ∧
      OpensInPlace [] (lower word) text ∧ ¬ OpensWith word text := by
  obtain ⟨front, rest, rfl⟩ := List.append_of_mem dotted
  let word := lowerBefore (dottedI :: rest) [] front ++ ['i']
  have opens : OpensInPlace [] word (front ++ dottedI :: rest) := .within front rest rfl rfl
  obtain ⟨tail, found, -⟩ := opens.exists_tail
  have settled : lower word = word := lower_eq_of_lower_append found
  have nonempty : word ≠ [] := by simp [word]
  refine ⟨word, ⟨?_, ?_⟩, nonempty, by rwa [settled], ?_⟩
  · intro c leads
    refine trimmed.lower.first c ?_
    rwa [lower, found, List.head?_append_of_ne_nil _ nonempty]
  · intro c ends
    rw [List.getLast?_concat] at ends
    cases ends
    decide +kernel
  · rintro ⟨frontToo, restToo, split, same, -⟩
    refine width_ne_of_dottedI split ?_
    calc
      width frontToo = (lower word).length := by rw [← length_lower, same]
      _ = word.length := by rw [settled]
      _ = width front + 1 := by rw [List.length_append, length_lowerBefore, List.length_singleton]

theorem Crosses.trimmed {front rest : List Char} (crosses : Crosses [] front rest)
    (trimmed : Trimmed (front ++ rest)) : Trimmed front := by
  rcases crosses with ⟨start, after, rfl, -, ignored, -⟩
  constructor
  · intro c leads
    refine trimmed.first c ?_
    rwa [List.head?_append_of_ne_nil _ (by simp)]
  · intro c ends
    rw [List.getLast?_append_of_ne_nil _ (List.cons_ne_nil _ _)] at ends
    rcases List.mem_cons.mp (List.mem_of_mem_getLast? ends) with rfl | inside
    · decide +kernel
    · exact notBlank_of_isCaseIgnorable (ignored c inside)

theorem exists_word_of_crosses {front rest : List Char} (trimmed : Trimmed (front ++ rest))
    (ends : EndsWord rest) (crosses : Crosses [] front rest) : ∃ word, Trimmed word ∧ word ≠ [] ∧
      OpensWith word (front ++ rest) ∧ ¬ OpensInPlace [] (lower word) (front ++ rest) := by
  have nonempty : front ≠ [] := by
    rcases crosses with ⟨start, after, rfl, -⟩
    simp
  refine ⟨front, crosses.trimmed trimmed, nonempty, ⟨front, rest, rfl, rfl, ends⟩, ?_⟩
  intro opens
  cases opens with
  | between frontToo restToo split same =>
      have sameWidth := congrArg List.length same
      rw [length_lowerBefore, length_lower] at sameWidth
      obtain rfl := front_eq_of_width split sameWidth.symm
      obtain rfl := List.append_cancel_left split
      exact (lowerBefore_eq_iff rest [] front).mp same crosses
  | within frontToo restToo split same =>
      have wider := congrArg List.length same
      rw [List.length_append, length_lowerBefore, length_lower] at wider
      exact width_ne_of_dottedI split.symm wider.symm

theorem exists_word_of_not_steady {text : List Char} (trimmed : Trimmed text)
    (unsteady : ¬ Steady text) : ∃ word, Trimmed word ∧ word ≠ [] ∧
      ¬ (OpensInPlace [] (lower word) text ↔ OpensWith word text) := by
  by_cases dotted : dottedI ∈ text
  · rcases exists_word_of_dottedI trimmed dotted with ⟨word, tidy, nonempty, found, noFront⟩
    exact ⟨word, tidy, nonempty, fun same => noFront (same.mp found)⟩
  · have somewhere : ∃ front rest, text = front ++ rest ∧ EndsWord rest ∧ Crosses [] front rest := by
      by_contra nowhere
      push Not at nowhere
      exact unsteady ⟨dotted, nowhere⟩
    rcases somewhere with ⟨front, rest, rfl, ends, crosses⟩
    rcases exists_word_of_crosses trimmed ends crosses with ⟨word, tidy, nonempty, isFront, missed⟩
    exact ⟨word, tidy, nonempty, fun same => missed (same.mpr isFront)⟩

end Text

namespace NameTest

open Text

/-- Whatever lists keywords are made from, each of the keyword tests asks if one of the words of its
list opens the trimmed name. -/
def KeywordTestsAsk (opens : List Char → List Char → Prop) (name : String) : Prop :=
  ∀ rule behavior keywords, Keywords.ofLists rule behavior = .ok keywords →
    (startsWithRuleKeyword.holds keywords name = true ↔
      ∃ word ∈ rule, opens (trim word.toList) (trim name.toList)) ∧
    (startsWithBehaviorKeyword.holds keywords name = true ↔
      ∃ word ∈ behavior, opens (trim word.toList) (trim name.toList))

theorem startsWithAny_iff {role : Role} {words normal : List String}
    (made : Keywords.normalList role words = .ok normal) (name : List Char) :
    startsWithAny normal name = true ↔
      ∃ word ∈ words, OpensInPlace [] (lower (trim word.toList)) name := by
  simp only [startsWithAny, List.any_eq_true, startsWithWord_lower_iff,
    Keywords.mem_of_normalList made]
  constructor
  · rintro ⟨_, ⟨word, member, rfl⟩, opens⟩
    rw [Keywords.normalWord, String.toList_ofList] at opens
    exact ⟨word, member, opens⟩
  · rintro ⟨word, member, opens⟩
    refine ⟨_, ⟨word, member, rfl⟩, ?_⟩
    rwa [Keywords.normalWord, String.toList_ofList]

theorem keywordTestsAsk_inPlace (name : String) :
    KeywordTestsAsk (fun word => OpensInPlace [] (lower word)) name := by
  intro rule behavior keywords made
  rcases Keywords.normalLists_of_ofLists made with ⟨madeRule, madeBehavior⟩
  exact ⟨startsWithAny_iff madeRule _, startsWithAny_iff madeBehavior _⟩

theorem ofLists_singleton (word : List Char) (nonempty : lower (trim word) ≠ []) :
    Keywords.ofLists [String.ofList word] [] = .ok ⟨[String.ofList (lower (trim word))], []⟩ := by
  have normal : Keywords.normalWord (String.ofList word) = String.ofList (lower (trim word)) := by
    rw [Keywords.normalWord, String.toList_ofList]
  have notEmpty : "" ∉ [String.ofList (lower (trim word))] := by
    intro empty
    have nothing := congrArg String.toList (List.mem_singleton.mp empty)
    exact nonempty (String.toList_ofList.symm.trans nothing.symm)
  rw [Keywords.ofLists, Keywords.normalList, List.map_singleton, normal, if_neg notEmpty]
  rfl

theorem lower_ne_nil {word : List Char} (nonempty : word ≠ []) : lower word ≠ [] := by
  intro nothing
  have noWidth := congrArg List.length nothing
  rw [length_lower] at noWidth
  exact nonempty (eq_nil_of_width noWidth)

/-- The tests find the words that open the name in its place. These are the words that open it but
for the case of letters if the name is steady, and for other names some word tells the two apart. -/
theorem keywordTests_exact (name : String) :
    KeywordTestsAsk (fun word => OpensInPlace [] (lower word)) name ∧
      (KeywordTestsAsk OpensWith name ↔ Steady (trim name.toList)) := by
  have inPlace := keywordTestsAsk_inPlace name
  refine ⟨inPlace, ?_, ?_⟩
  · intro asked
    by_contra unsteady
    rcases exists_word_of_not_steady (trimmed_trim name.toList) unsteady with
      ⟨word, trimmed, nonempty, differ⟩
    have made := ofLists_singleton word (trimmed.trim_eq.symm ▸ lower_ne_nil nonempty)
    have found := (inPlace _ _ _ made).1
    have meant := (asked _ _ _ made).1
    simp only [List.mem_singleton, exists_eq_left, String.toList_ofList, trimmed.trim_eq]
      at found meant
    exact differ (found.symm.trans meant)
  · intro steady rule behavior keywords made
    have found := inPlace rule behavior keywords made
    simp only [steady.opensInPlace_iff] at found
    exact found

/-- Two names that are not steady. The first one opens with the keyword letter by letter, but behind
the keyword its word goes on, so the keyword is lowered to a final sigma and the name to a medial
one. The second one is said to open with one half of what its first letter is lowered to. -/
theorem keywordTests_unsteady :
    (Keywords.ofLists ["ΟΔΟΣ"] [] = .ok ⟨["οδος"], []⟩ ∧
      OpensWith (trim "ΟΔΟΣ".toList) (trim "ΟΔΟΣ'α".toList) ∧
      startsWithRuleKeyword.holds ⟨["οδος"], []⟩ "ΟΔΟΣ'α" = false) ∧
    (Keywords.ofLists ["i"] [] = .ok ⟨["i"], []⟩ ∧
      ¬ OpensWith (trim "i".toList) (trim "İs it".toList) ∧
      startsWithRuleKeyword.holds ⟨["i"], []⟩ "İs it" = true) ∧
    ¬ KeywordTestsAsk OpensWith "ΟΔΟΣ'α" ∧ ¬ KeywordTestsAsk OpensWith "İs it" := by
  have made : Keywords.ofLists ["ΟΔΟΣ"] [] = .ok ⟨["οδος"], []⟩ := by
    have lowered : lower (trim "ΟΔΟΣ".toList) = "οδος".toList := by decide +kernel
    have accepted := ofLists_singleton "ΟΔΟΣ".toList (lower_ne_nil (by decide +kernel))
    rwa [lowered, String.ofList_toList, String.ofList_toList] at accepted
  have opens : OpensWith (trim "ΟΔΟΣ".toList) (trim "ΟΔΟΣ'α".toList) :=
    ⟨"ΟΔΟΣ".toList, [Char.ofNat 0x27, 'α'], by decide +kernel, by decide +kernel,
      endsWord_cons.mpr (by decide +kernel)⟩
  have missed : startsWithRuleKeyword.holds ⟨["οδος"], []⟩ "ΟΔΟΣ'α" = false := by decide +kernel
  have madeToo : Keywords.ofLists ["i"] [] = .ok ⟨["i"], []⟩ := by decide +kernel
  have opensNot : ¬ OpensWith (trim "i".toList) (trim "İs it".toList) := by
    rintro ⟨front, rest, split, same, -⟩
    have leads : [] ++ dottedI :: "s it".toList = front ++ rest := by
      rw [← split]
      decide +kernel
    refine width_ne_of_dottedI leads ?_
    rw [← length_lower, same]
    decide +kernel
  have found : startsWithRuleKeyword.holds ⟨["i"], []⟩ "İs it" = true := by decide +kernel
  refine ⟨⟨made, opens, missed⟩, ⟨madeToo, opensNot, found⟩, ?_, ?_⟩
  · intro asked
    have held := (asked _ _ _ made).1.mpr ⟨"ΟΔΟΣ", List.mem_singleton_self _, opens⟩
    rw [missed] at held
    cases held
  · intro asked
    rcases (asked _ _ _ madeToo).1.mp found with ⟨word, member, opensToo⟩
    obtain rfl := List.mem_singleton.mp member
    exact opensNot opensToo

end NameTest

end StepFlow
