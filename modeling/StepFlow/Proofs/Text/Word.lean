import Mathlib.Data.List.Count
import Mathlib.Data.List.Infix
import StepFlow.Proofs.Text.LowerCase
import StepFlow.Text.Word

/-!
Words at the start of a text in lower case. Characters are lowered where they stand, so the word is
what some front of the text becomes in its place, or ends inside of a dotted capital I, which becomes
two characters (`startsWithWord_lower_iff`). On its own a front becomes the same as in its place,
unless it ends on a capital sigma that something behind the front keeps from being final
(`lowerBefore_eq_iff`).
-/
namespace StepFlow.Text

section Letters

/-! The case runs consist of letters, and so do their lower-case forms. -/

def casedLetterRanges : CodeRanges :=
  [(0x41, 0x5A), (0x61, 0x7A), (0xC0, 0xD6), (0xD8, 0xF6), (0xF8, 0x2C1), (0x363, 0x374),
   (0x376, 0x377), (0x37A, 0x37D), (0x37F, 0x37F), (0x386, 0x386), (0x388, 0x38A),
   (0x38C, 0x38C), (0x38E, 0x3A1), (0x3A3, 0x3F5), (0x3F7, 0x481), (0x48A, 0x52F),
   (0x531, 0x556), (0x560, 0x588), (0x10A0, 0x10C5), (0x10C7, 0x10C7), (0x10CD, 0x10CD),
   (0x10D0, 0x10FA), (0x10FC, 0x1248), (0x13A0, 0x13F5), (0x13F8, 0x13FD), (0x1C80, 0x1C8A),
   (0x1C90, 0x1CBA), (0x1CBD, 0x1CBF), (0x1D00, 0x1DBF), (0x1E00, 0x1F15), (0x1F18, 0x1F1D),
   (0x1F20, 0x1F45), (0x1F48, 0x1F4D), (0x1F50, 0x1F57), (0x1F59, 0x1F59), (0x1F5B, 0x1F5B),
   (0x1F5D, 0x1F5D), (0x1F5F, 0x1F7D), (0x1F80, 0x1FB4), (0x1FB6, 0x1FBC), (0x1FC2, 0x1FC4),
   (0x1FC6, 0x1FCC), (0x1FD0, 0x1FD3), (0x1FD6, 0x1FDB), (0x1FE0, 0x1FEC), (0x1FF2, 0x1FF4),
   (0x1FF6, 0x1FFC), (0x2126, 0x2126), (0x212A, 0x212D), (0x212F, 0x2139), (0x214E, 0x214E),
   (0x2160, 0x2188), (0x24B6, 0x24E9), (0x2C00, 0x2CE4), (0x2CEB, 0x2CEE), (0x2CF2, 0x2CF3),
   (0x2D00, 0x2D25), (0x2D27, 0x2D27), (0x2D2D, 0x2D2D), (0xA640, 0xA66E), (0xA67F, 0xA6EF),
   (0xA722, 0xA788), (0xA78B, 0xA7DC), (0xA7F1, 0xA805), (0xAB30, 0xAB5A), (0xAB70, 0xABEA),
   (0xFF21, 0xFF3A), (0xFF41, 0xFF5A), (0x10400, 0x1049D), (0x104B0, 0x104D3),
   (0x104D8, 0x104FB), (0x10570, 0x1057A), (0x1057C, 0x1058A), (0x1058C, 0x10592),
   (0x10594, 0x10595), (0x10597, 0x105A1), (0x105A3, 0x105B1), (0x105B3, 0x105B9),
   (0x105BB, 0x105BC), (0x10C80, 0x10CB2), (0x10CC0, 0x10CF2), (0x10D4A, 0x10D65),
   (0x10D6F, 0x10D85), (0x118A0, 0x118DF), (0x16E40, 0x16E7F), (0x16EA0, 0x16EB8),
   (0x16EBB, 0x16ED3), (0x1E900, 0x1E943)]

theorem casedLetterRanges_sublist : casedLetterRanges.Sublist alphabeticRanges := by decide +kernel

def CasedLetter (code : Nat) : Prop :=
  ∃ range ∈ casedLetterRanges, range.1 ≤ code ∧ code ≤ range.2

theorem CasedLetter.toNat_ofNat {code : Nat} (letter : CasedLetter code) :
    (Char.ofNat code).toNat = code := by
  have valid : ∀ range ∈ casedLetterRanges,
      range.2 < 0xD800 ∨ 0xDFFF < range.1 ∧ range.2 < 0x110000 := by decide +kernel
  rcases letter with ⟨range, listed, first, last⟩
  have isCode : code.isValidChar := by
    rcases valid range listed with low | ⟨above, high⟩
    · exact .inl (by omega)
    · exact .inr ⟨by omega, by omega⟩
  exact congrArg Char.toNat (dif_pos isCode)

theorem CasedLetter.isAlphanumeric {c : Char} (letter : CasedLetter c.toNat) :
    isAlphanumeric c = true := by
  rcases letter with ⟨range, listed, first, last⟩
  have letters : isAlphabetic c = true :=
    List.any_eq_true.mpr ⟨range, casedLetterRanges_sublist.subset listed, by simp [first, last]⟩
  rw [Text.isAlphanumeric, letters, Bool.true_or]

namespace CaseRun

def codes (run : CaseRun) : List Nat :=
  List.range' run.first ((run.last - run.first) / run.stride + 1) run.stride

def lettered (run : CaseRun) : Bool :=
  (casedLetterRanges.any fun range => run.last.ble range.2 && range.1.ble run.first) ||
    run.codes.all fun code => casedLetterRanges.any fun range =>
      code.ble range.2 && range.1.ble code

theorem lettered_of_mem : ∀ run ∈ caseRuns,
    (run.lettered && run.image.lettered) = true := by decide +kernel

variable {run : CaseRun} {code : Nat}

theorem mem_codes (inside : run.covers code = true) : code ∈ run.codes := by
  rcases covers_iff.mp inside with ⟨first, last, onStride⟩
  have steps := Nat.div_add_mod (code - run.first) run.stride
  have within := Nat.div_le_div_right (c := run.stride) (Nat.sub_le_sub_right last run.first)
  refine List.mem_range'.mpr ⟨(code - run.first) / run.stride, by omega, ?_⟩
  rw [onStride] at steps
  omega

theorem casedLetter_of_lettered (letters : run.lettered = true) (inside : run.covers code = true) :
    CasedLetter code := by
  rcases Bool.or_eq_true_iff.mp letters with oneRange | each
  · rcases List.any_eq_true.mp oneRange with ⟨range, listed, around⟩
    rcases covers_iff.mp inside with ⟨first, last, -⟩
    simp only [Bool.and_eq_true, Nat.ble_eq] at around
    exact ⟨range, listed, by omega, by omega⟩
  · rcases List.any_eq_true.mp (List.all_eq_true.mp each code (mem_codes inside)) with
      ⟨range, listed, around⟩
    simp only [Bool.and_eq_true, Nat.ble_eq] at around
    exact ⟨range, listed, around.2, around.1⟩

theorem casedLetter (listed : run ∈ caseRuns) (inside : run.covers code = true) :
    CasedLetter code ∧ CasedLetter (code + run.shift).toNat := by
  have letters := Bool.and_eq_true_iff.mp (run.lettered_of_mem listed)
  have settled := run.settles_of_mem listed
  simp only [settles, Bool.and_eq_true, decide_eq_true_iff] at settled
  have above := settled.1.1.1
  exact ⟨casedLetter_of_lettered letters.1 inside,
    casedLetter_of_lettered letters.2 (covers_image above inside)⟩

end CaseRun

theorem isAlphanumeric_of_lowerChar {c d : Char} (leads : d ∈ (lowerChar c).head?) :
    isAlphanumeric d = isAlphanumeric c := by
  rcases lowerChar_cases c with ⟨dotted, form⟩ | ⟨run, listed, inside, form⟩ | ⟨-, form⟩
  · rw [form] at leads
    cases leads
    rw [dotted]
    decide +kernel
  · rcases CaseRun.casedLetter listed inside with ⟨letter, image⟩
    rw [form] at leads
    cases leads
    rw [letter.isAlphanumeric, CasedLetter.isAlphanumeric]
    rwa [image.toNat_ofNat]
  · rw [form] at leads
    cases leads
    rfl

theorem isAlphanumeric_of_formIn {before after : List Char} {c d : Char}
    (leads : d ∈ (formIn before after c).head?) : isAlphanumeric d = isAlphanumeric c := by
  rw [formIn] at leads
  split at leads
  · rename_i sigma
    rw [sigma]
    cases leads
    cases closesWord before after <;> decide +kernel
  · exact isAlphanumeric_of_lowerChar leads

end Letters

def EndsWord (rest : List Char) : Prop := ∀ c ∈ rest.head?, isAlphanumeric c = false

theorem endsWord_cons {c : Char} {rest : List Char} :
    EndsWord (c :: rest) ↔ isAlphanumeric c = false := by
  simp [EndsWord]

theorem startsWithWord_iff (word text : List Char) :
    startsWithWord word text = true ↔ ∃ rest, text = word ++ rest ∧ EndsWord rest := by
  have ends_iff (rest : List Char) : (!rest.head?.any isAlphanumeric) = true ↔ EndsWord rest := by
    cases rest <;> simp [EndsWord]
  rw [startsWithWord, Bool.and_eq_true, List.isPrefixOf_iff_prefix, ends_iff]
  constructor
  · rintro ⟨⟨rest, rfl⟩, ends⟩
    rw [List.drop_left] at ends
    exact ⟨rest, rfl, ends⟩
  · rintro ⟨rest, rfl, ends⟩
    rw [List.drop_left]
    exact ⟨List.prefix_append word rest, ends⟩

theorem endsWord_lowerFrom_iff (before rest : List Char) :
    EndsWord (lowerFrom before rest) ↔ EndsWord rest := by
  cases rest with
  | nil => rfl
  | cons c after =>
      rcases List.exists_cons_of_ne_nil (formIn_ne_nil before after c) with ⟨d, more, form⟩
      have leads : d ∈ (formIn before after c).head? := by
        rw [form]
        rfl
      rw [lowerFrom_cons, form, List.cons_append, endsWord_cons, endsWord_cons,
        isAlphanumeric_of_formIn leads]

section Places

/-! Fronts of a text, lowered where they stand. -/

abbrev dottedI : Char := Char.ofNat 0x130

/-- What a front becomes behind the characters `before`, read backwards, and in front of `rest`. -/
def lowerBefore (rest before : List Char) : List Char → List Char
  | [] => []
  | c :: after => formIn before (after ++ rest) c ++ lowerBefore rest (c :: before) after

theorem lowerBefore_nil (before front : List Char) :
    lowerBefore [] before front = lowerFrom before front := by
  induction front generalizing before with
  | nil => rfl
  | cons c after ih => rw [lowerBefore, List.append_nil, ih, lowerFrom_cons]

theorem lowerFrom_append (before front rest : List Char) : lowerFrom before (front ++ rest) =
    lowerBefore rest before front ++ lowerFrom (front.reverse ++ before) rest := by
  induction front generalizing before with
  | nil => rfl
  | cons c after ih =>
      rw [List.cons_append, lowerFrom_cons, ih, lowerBefore, List.append_assoc, List.reverse_cons,
        List.append_assoc, List.singleton_append]

theorem formIn_cases (before after : List Char) (c : Char) :
    (c = dottedI ∧ formIn before after c = ['i', Char.ofNat 0x307]) ∨
      (c ≠ dottedI ∧ ∃ d, formIn before after c = [d]) := by
  by_cases dotted : c = dottedI
  · subst dotted
    exact .inl ⟨rfl, rfl⟩
  · refine .inr ⟨dotted, ?_⟩
    rw [formIn]
    split
    · exact ⟨_, rfl⟩
    · rcases lowerChar_cases c with ⟨is, -⟩ | ⟨run, -, -, form⟩ | ⟨-, form⟩
      · exact absurd is dotted
      · exact ⟨_, form⟩
      · exact ⟨_, form⟩

def width (text : List Char) : Nat := text.length + text.count dottedI

theorem width_append (text more : List Char) : width (text ++ more) = width text + width more := by
  simp only [width, List.length_append, List.count_append]
  omega

theorem eq_nil_of_width {text : List Char} (noWidth : width text = 0) : text = [] := by
  rw [width] at noWidth
  exact List.length_eq_zero_iff.mp (by omega)

theorem length_formIn (before after : List Char) (c : Char) :
    (formIn before after c).length = width [c] := by
  rcases formIn_cases before after c with ⟨rfl, form⟩ | ⟨differs, d, form⟩
  · rw [form]
    rfl
  · rw [form, width, List.count_singleton]
    simp [differs]

theorem length_lowerBefore (rest before front : List Char) :
    (lowerBefore rest before front).length = width front := by
  induction front generalizing before with
  | nil => rfl
  | cons c after ih =>
      rw [lowerBefore, List.length_append, length_formIn, ih, ← width_append, List.singleton_append]

/-- The text opens with the lowered word, behind the characters `before`: either the word is what a
front becomes where it stands, or its last character is the first one of a dotted capital I. The
second one is a mark, at which a word may end. -/
inductive OpensInPlace (before lowered text : List Char) : Prop
  | between (front rest : List Char) (split : text = front ++ rest)
      (same : lowerBefore rest before front = lowered) (ends : EndsWord rest)
  | within (front rest : List Char) (split : text = front ++ dottedI :: rest)
      (same : lowerBefore (dottedI :: rest) before front ++ ['i'] = lowered)

theorem OpensInPlace.cons {before lowered after : List Char} {c : Char}
    (opens : OpensInPlace (c :: before) lowered after) :
    OpensInPlace before (formIn before after c ++ lowered) (c :: after) := by
  cases opens with
  | between front rest split same ends =>
      subst split same
      exact .between (c :: front) rest rfl rfl ends
  | within front rest split same =>
      subst split same
      refine .within (c :: front) rest rfl ?_
      rw [lowerBefore, List.append_assoc]

theorem opensInPlace_of_lowerFrom : ∀ {text before lowered tail : List Char},
    lowerFrom before text = lowered ++ tail → EndsWord tail → OpensInPlace before lowered text
  | text, before, [], tail, found, ends => by
      rw [List.nil_append] at found
      rw [← found, endsWord_lowerFrom_iff] at ends
      exact .between [] text rfl rfl ends
  | [], before, d :: lowered, tail, found, ends => by cases found
  | c :: after, before, d :: lowered, tail, found, ends => by
      rw [lowerFrom_cons] at found
      rcases formIn_cases before after c with ⟨rfl, form⟩ | ⟨-, e, form⟩
      · simp only [form, List.cons_append, List.nil_append, List.cons.injEq] at found
        obtain ⟨rfl, later⟩ := found
        cases lowered with
        | nil => exact .within [] after rfl rfl
        | cons mark lowered =>
            rw [List.cons_append, List.cons.injEq] at later
            obtain ⟨rfl, onward⟩ := later
            have opens := (opensInPlace_of_lowerFrom onward ends).cons
            rwa [form] at opens
      · rw [form, List.singleton_append, List.cons_append, List.cons.injEq] at found
        obtain ⟨rfl, later⟩ := found
        have opens := (opensInPlace_of_lowerFrom later ends).cons
        rwa [form] at opens

theorem OpensInPlace.exists_tail {before lowered text : List Char}
    (opens : OpensInPlace before lowered text) :
    ∃ tail, lowerFrom before text = lowered ++ tail ∧ EndsWord tail := by
  cases opens with
  | between front rest split same ends =>
      subst split same
      exact ⟨_, lowerFrom_append before front rest, (endsWord_lowerFrom_iff _ rest).mpr ends⟩
  | within front rest split same =>
      subst split same
      refine ⟨Char.ofNat 0x307 :: lowerFrom (dottedI :: (front.reverse ++ before)) rest, ?_, ?_⟩
      · rw [lowerFrom_append, List.append_assoc]
        rfl
      · rw [endsWord_cons]
        decide +kernel

theorem startsWithWord_lower_iff (lowered text : List Char) :
    startsWithWord lowered (lower text) = true ↔ OpensInPlace [] lowered text := by
  rw [startsWithWord_iff]
  constructor
  · rintro ⟨tail, found, ends⟩
    exact opensInPlace_of_lowerFrom found ends
  · intro opens
    exact opens.exists_tail

end Places

section Sigma

/-! A sigma looks beyond the end of a front for the next letter. -/

theorem opensWithLetter_append (front rest : List Char) : opensWithLetter (front ++ rest) =
    if front.all isCaseIgnorable then opensWithLetter rest else opensWithLetter front := by
  induction front with
  | nil => simp
  | cons c front ih =>
      rw [opensWithLetter, opensWithLetter] at ih
      cases ignored : isCaseIgnorable c with
      | false => simp [opensWithLetter, ignored]
      | true => simp [opensWithLetter, ignored, ih]

theorem opensWithLetter_of_ignorable {text : List Char}
    (ignored : ∀ c ∈ text, isCaseIgnorable c = true) : opensWithLetter text = false := by
  have alone := opensWithLetter_append text []
  rwa [List.append_nil, if_pos (List.all_eq_true.mpr ignored)] at alone

/-- Where a capital sigma is the last letter of a front, but not that of its word in the text. -/
def SigmaCut (before after rest : List Char) : Prop :=
  opensWithLetter before = true ∧ (∀ c ∈ after, isCaseIgnorable c = true) ∧
    opensWithLetter rest = true

theorem closesWord_append_eq_iff (before after rest : List Char) :
    closesWord before (after ++ rest) = closesWord before after ↔ ¬ SigmaCut before after rest := by
  rw [closesWord, closesWord, opensWithLetter_append, SigmaCut]
  by_cases ignored : ∀ c ∈ after, isCaseIgnorable c = true
  · rw [if_pos (List.all_eq_true.mpr ignored), opensWithLetter_of_ignorable ignored, and_left_comm,
      and_iff_right ignored]
    cases opensWithLetter before <;> cases opensWithLetter rest <;> simp
  · rw [if_neg (mt List.all_eq_true.mp ignored)]
    simp [ignored]

theorem formIn_append_eq_iff (before after rest : List Char) (c : Char) :
    formIn before (after ++ rest) c = formIn before after c ↔
      ¬ (c = 'Σ' ∧ SigmaCut before after rest) := by
  by_cases sigma : c = 'Σ'
  · rw [formIn, formIn, if_pos sigma, if_pos sigma, List.singleton_inj, and_iff_right sigma,
      ← closesWord_append_eq_iff]
    cases closesWord before (after ++ rest) <;> cases closesWord before after <;> simp
  · simp [formIn, sigma]

/-- A capital sigma in the front becomes a final one there, but not in the text. -/
def Crosses (before front rest : List Char) : Prop :=
  ∃ start after, front = start ++ 'Σ' :: after ∧ SigmaCut (start.reverse ++ before) after rest

theorem crosses_cons {before after rest : List Char} {c : Char} :
    Crosses before (c :: after) rest ↔
      (c = 'Σ' ∧ SigmaCut before after rest) ∨ Crosses (c :: before) after rest := by
  have onward (start : List Char) : (c :: start).reverse ++ before = start.reverse ++ c :: before := by
    rw [List.reverse_cons, List.append_assoc, List.singleton_append]
  constructor
  · rintro ⟨start, between, split, cut⟩
    cases start with
    | nil =>
        obtain ⟨rfl, rfl⟩ := List.cons.inj split
        exact .inl ⟨rfl, cut⟩
    | cons d start =>
        obtain ⟨rfl, rfl⟩ := List.cons.inj split
        rw [onward] at cut
        exact .inr ⟨start, between, rfl, cut⟩
  · rintro (⟨rfl, cut⟩ | ⟨start, between, rfl, cut⟩)
    · exact ⟨[], after, rfl, cut⟩
    · refine ⟨c :: start, between, rfl, ?_⟩
      rwa [onward]

theorem lowerBefore_eq_iff (rest before front : List Char) :
    lowerBefore rest before front = lowerFrom before front ↔ ¬ Crosses before front rest := by
  induction front generalizing before with
  | nil => simp [lowerBefore, lowerFrom, Crosses]
  | cons c after ih =>
      have sameLength : (formIn before (after ++ rest) c).length = (formIn before after c).length := by
        rw [length_formIn, length_formIn]
      have apart : formIn before (after ++ rest) c ++ lowerBefore rest (c :: before) after =
          formIn before after c ++ lowerFrom (c :: before) after ↔
            formIn before (after ++ rest) c = formIn before after c ∧
              lowerBefore rest (c :: before) after = lowerFrom (c :: before) after :=
        ⟨fun same => List.append_inj same sameLength, fun same => congrArg₂ _ same.1 same.2⟩
      rw [lowerBefore, lowerFrom_cons, apart, formIn_append_eq_iff, ih, crosses_cons, not_or]

end Sigma

end StepFlow.Text
