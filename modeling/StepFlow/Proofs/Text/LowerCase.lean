import StepFlow.Proofs.Text.Blank
import StepFlow.Text.LowerCase

/-!
Lower-casing settles a text: what it writes has no lower-case form but itself, and it neither makes
nor removes a blank at an end. So a text that is trimmed and then lowered stays as it is when both
are done again.
-/
namespace StepFlow.Text

namespace CaseRun

def image (run : CaseRun) : CaseRun :=
  { run with first := (run.first + run.shift).toNat, last := (run.last + run.shift).toNat }

/-- Whether two runs are seen to have no character in common: because one ends before the other
begins, or because one has the even characters and the other the odd ones. -/
def apartFrom (run other : CaseRun) : Bool :=
  run.last.blt other.first || other.last.blt run.first ||
    other.stride = 2 && (run.stride = 2 || run.first = run.last) && run.first % 2 ≠ other.first % 2

def settles (run : CaseRun) : Bool :=
  0 ≤ run.first + run.shift && caseRuns.all run.image.apartFrom && !run.image.covers 0x130 &&
    blankRanges.all fun range => run.image.last < range.1 || range.2 < run.image.first

theorem settles_of_mem : ∀ run ∈ caseRuns, run.settles = true := by decide +kernel

theorem covers_iff {run : CaseRun} {code : Nat} : run.covers code = true ↔
    run.first ≤ code ∧ code ≤ run.last ∧ (code - run.first) % run.stride = 0 := by
  simp only [covers, Bool.and_eq_true, decide_eq_true_iff, beq_iff_eq, and_assoc]

theorem not_covers_of_apartFrom {run other : CaseRun} (apart : run.apartFrom other = true)
    {code : Nat} (inside : run.covers code = true) : ¬ other.covers code = true := by
  simp only [apartFrom, Nat.blt_eq, Bool.or_eq_true, Bool.and_eq_true, decide_eq_true_iff] at apart
  rw [covers_iff] at inside ⊢
  rcases apart with (before | behind) | ⟨⟨even, lone⟩, parity⟩
  · omega
  · omega
  · -- The stride of a run of one character does not matter.
    rw [even]
    rcases lone with even' | lone
    · rw [even'] at inside
      omega
    · omega

theorem covers_image {run : CaseRun} (above : 0 ≤ run.first + run.shift) {code : Nat}
    (inside : run.covers code = true) : run.image.covers (code + run.shift).toNat = true := by
  rw [covers_iff] at inside ⊢
  obtain ⟨first, last, stride⟩ := inside
  have distance : (code + run.shift).toNat - (run.first + run.shift).toNat = code - run.first := by
    omega
  refine ⟨?_, ?_, ?_⟩
  · exact Int.toNat_le_toNat (by omega)
  · exact Int.toNat_le_toNat (by omega)
  · exact distance.symm ▸ stride

end CaseRun

def Uncovered (code : Nat) : Prop :=
  code ≠ 0x130 ∧ ∀ run ∈ caseRuns, ¬ run.covers code = true

instance (code : Nat) : Decidable (Uncovered code) := instDecidableAnd

theorem lowerChar_of_uncovered {c : Char} (uncovered : Uncovered c.toNat) : lowerChar c = [c] := by
  have noDottedI : c ≠ Char.ofNat 0x130 := by
    rintro rfl
    exact uncovered.1 rfl
  have noRun : caseRuns.find? (·.covers c.toNat) = none := List.find?_eq_none.mpr uncovered.2
  rw [lowerChar, if_neg noDottedI, noRun]

theorem toNat_ofNat (code : Nat) : (Char.ofNat code).toNat = code ∨ Char.ofNat code = '\x00' := by
  by_cases valid : code.isValidChar
  · exact .inl (congrArg Char.toNat (dif_pos valid))
  · exact .inr (dif_neg valid)

theorem CaseRun.uncovered_form {run : CaseRun} (member : run ∈ caseRuns) {code : Nat}
    (inside : run.covers code = true) : Uncovered (code + run.shift).toNat := by
  have settled := run.settles_of_mem member
  simp only [settles, Bool.and_eq_true, decide_eq_true_iff, Bool.not_eq_true', List.all_eq_true]
    at settled
  obtain ⟨⟨⟨above, apart⟩, noDottedI⟩, -⟩ := settled
  have form := covers_image above inside
  constructor
  · intro same
    simp [same, noDottedI] at form
  · exact fun other member => not_covers_of_apartFrom (apart other member) form

theorem CaseRun.notBlank_form {run : CaseRun} (member : run ∈ caseRuns) {code : Nat}
    (inside : run.covers code = true) {c : Char} (form : c.toNat = (code + run.shift).toNat) :
    isBlank c = false := by
  have settled := run.settles_of_mem member
  simp only [settles, Bool.and_eq_true, Bool.or_eq_true, decide_eq_true_iff, List.all_eq_true]
    at settled
  obtain ⟨⟨⟨above, -⟩, -⟩, noBlank⟩ := settled
  have within := covers_iff.mp (covers_image above inside)
  refine List.any_eq_false.mpr fun range listed => ?_
  have outside := noBlank range listed
  simp only [Bool.and_eq_true, decide_eq_true_iff, form]
  omega

theorem lowerChar_cases (c : Char) :
    (c = Char.ofNat 0x130 ∧ lowerChar c = ['i', Char.ofNat 0x307]) ∨
    (∃ run ∈ caseRuns, run.covers c.toNat = true ∧
      lowerChar c = [Char.ofNat (c.toNat + run.shift).toNat]) ∨
    (Uncovered c.toNat ∧ lowerChar c = [c]) := by
  by_cases dottedI : c = Char.ofNat 0x130
  · exact .inl ⟨dottedI, by rw [lowerChar, if_pos dottedI]⟩
  cases found : caseRuns.find? (·.covers c.toNat) with
  | some run =>
      have inside := List.find?_some found
      exact .inr (.inl ⟨run, List.mem_of_find?_eq_some found, inside,
        by rw [lowerChar, if_neg dottedI, found]⟩)
  | none =>
      have uncovered : Uncovered c.toNat := by
        refine ⟨fun same => dottedI ?_, List.find?_eq_none.mp found⟩
        rw [← same, Char.ofNat_toNat]
      exact .inr (.inr ⟨uncovered, lowerChar_of_uncovered uncovered⟩)

theorem lowerChar_ne_nil (c : Char) : lowerChar c ≠ [] := by
  rcases lowerChar_cases c with ⟨-, form⟩ | ⟨run, -, -, form⟩ | ⟨-, form⟩ <;> simp [form]

theorem uncovered_of_mem_lowerChar {c d : Char} (member : d ∈ lowerChar c) :
    Uncovered d.toNat := by
  rcases lowerChar_cases c with ⟨-, form⟩ | ⟨run, listed, inside, form⟩ | ⟨uncovered, form⟩
  · rw [form, List.mem_pair] at member
    rcases member with rfl | rfl <;> decide +kernel
  · rw [form, List.mem_singleton] at member
    subst member
    rcases toNat_ofNat (c.toNat + run.shift).toNat with same | nul
    · rw [same]
      exact CaseRun.uncovered_form listed inside
    · rw [nul]
      decide +kernel
  · rw [form, List.mem_singleton] at member
    rwa [member]

theorem notBlank_of_mem_lowerChar {c d : Char} (member : d ∈ lowerChar c)
    (notBlank : isBlank c = false) : isBlank d = false := by
  rcases lowerChar_cases c with ⟨-, form⟩ | ⟨run, listed, inside, form⟩ | ⟨-, form⟩
  · rw [form, List.mem_pair] at member
    rcases member with rfl | rfl <;> decide +kernel
  · rw [form, List.mem_singleton] at member
    subst member
    rcases toNat_ofNat (c.toNat + run.shift).toNat with same | nul
    · exact CaseRun.notBlank_form listed inside same
    · rw [nul]
      decide +kernel
  · rw [form, List.mem_singleton] at member
    rwa [member]

def LowersTo (c d : Char) : Prop := d ∈ lowerChar c ∨ c = 'Σ' ∧ d = 'ς'

theorem LowersTo.uncovered {c d : Char} (lowers : LowersTo c d) : Uncovered d.toNat := by
  rcases lowers with member | ⟨-, rfl⟩
  · exact uncovered_of_mem_lowerChar member
  · decide +kernel

theorem LowersTo.notBlank {c d : Char} (lowers : LowersTo c d) (notBlank : isBlank c = false) :
    isBlank d = false := by
  rcases lowers with member | ⟨-, rfl⟩
  · exact notBlank_of_mem_lowerChar member notBlank
  · decide +kernel

def formIn (before after : List Char) (c : Char) : List Char :=
  if c = 'Σ' then [if closesWord before after then 'ς' else 'σ'] else lowerChar c

theorem lowerFrom_cons (before : List Char) (c : Char) (after : List Char) :
    lowerFrom before (c :: after) = formIn before after c ++ lowerFrom (c :: before) after := rfl

theorem lowersTo_of_mem_formIn {before after : List Char} {c d : Char}
    (member : d ∈ formIn before after c) : LowersTo c d := by
  by_cases sigma : c = 'Σ'
  · subst sigma
    rw [formIn, if_pos rfl, List.mem_singleton] at member
    cases closes : closesWord before after with
    | true => exact .inr ⟨rfl, by rw [member, closes, if_pos rfl]⟩
    | false =>
        refine .inl ?_
        rw [member, closes]
        decide +kernel
  · rw [formIn, if_neg sigma] at member
    exact .inl member

theorem formIn_ne_nil (before after : List Char) (c : Char) : formIn before after c ≠ [] := by
  rw [formIn]
  split
  · exact List.cons_ne_nil _ _
  · exact lowerChar_ne_nil c

theorem exists_lowersTo {d : Char} : ∀ {before text : List Char}, d ∈ lowerFrom before text →
    ∃ c ∈ text, LowersTo c d
  | before, c :: after, member => by
      rw [lowerFrom_cons, List.mem_append] at member
      rcases member with here | later
      · exact ⟨c, List.mem_cons_self, lowersTo_of_mem_formIn here⟩
      · obtain ⟨c', inside, lowers⟩ := exists_lowersTo later
        exact ⟨c', List.mem_cons_of_mem c inside, lowers⟩

theorem lowerFrom_of_uncovered : ∀ {before text : List Char},
    (∀ c ∈ text, Uncovered c.toNat) → lowerFrom before text = text
  | before, [], _ => rfl
  | before, c :: after, uncovered => by
      obtain ⟨first, others⟩ := List.forall_mem_cons.mp uncovered
      have noSigma : c ≠ 'Σ' := by
        rintro rfl
        revert first
        decide +kernel
      rw [lowerFrom_cons, formIn, if_neg noSigma, lowerChar_of_uncovered first,
        lowerFrom_of_uncovered others]
      rfl

theorem lower_lower (text : List Char) : lower (lower text) = lower text := by
  refine lowerFrom_of_uncovered fun d member => ?_
  obtain ⟨c, -, lowers⟩ := exists_lowersTo member
  exact lowers.uncovered

theorem lower_eq_nil_iff (text : List Char) : lower text = [] ↔ text = [] := by
  cases text with
  | nil => exact iff_of_true rfl rfl
  | cons c after => simp [lower, lowerFrom_cons, formIn_ne_nil]

theorem exists_lowersTo_first {before text : List Char} {d : Char}
    (leads : d ∈ (lowerFrom before text).head?) : ∃ c ∈ text.head?, LowersTo c d := by
  cases text with
  | nil => cases leads
  | cons c after =>
      rw [lowerFrom_cons, List.head?_append_of_ne_nil _ (formIn_ne_nil before after c)] at leads
      exact ⟨c, rfl, lowersTo_of_mem_formIn (List.mem_of_mem_head? leads)⟩

theorem exists_lowersTo_last {d : Char} : ∀ {before text : List Char},
    d ∈ (lowerFrom before text).getLast? → ∃ c ∈ text.getLast?, LowersTo c d
  | before, [c], ends => by
      rw [lowerFrom_cons, lowerFrom, List.append_nil] at ends
      exact ⟨c, rfl, lowersTo_of_mem_formIn (List.mem_of_mem_getLast? ends)⟩
  | before, c :: c' :: after, ends => by
      have more : lowerFrom (c :: before) (c' :: after) ≠ [] := by
        simp [lowerFrom_cons, formIn_ne_nil]
      rw [lowerFrom_cons, List.getLast?_append_of_ne_nil _ more] at ends
      obtain ⟨last, is, lowers⟩ := exists_lowersTo_last ends
      exact ⟨last, by rwa [List.getLast?_cons_cons], lowers⟩

theorem Trimmed.lower {text : List Char} (trimmed : Trimmed text) : Trimmed (lower text) where
  first d leads := by
    obtain ⟨c, first, lowers⟩ := exists_lowersTo_first leads
    exact lowers.notBlank (trimmed.first c first)
  last d ends := by
    obtain ⟨c, last, lowers⟩ := exists_lowersTo_last ends
    exact lowers.notBlank (trimmed.last c last)

end StepFlow.Text
