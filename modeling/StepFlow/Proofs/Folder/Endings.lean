import StepFlow.Proofs.Folder

namespace StepFlow

namespace Path

theorem names_cons (c : Char) (rest : List Char) : names (c :: rest) =
    if c = '/' then [] :: names rest else (names rest).modifyHead (c :: ·) := rfl

theorem names_ne_nil (text : List Char) : names text ≠ [] := by
  induction text with
  | nil => exact List.cons_ne_nil _ _
  | cons c rest ih =>
      rw [names_cons]
      split
      · exact List.cons_ne_nil _ _
      · simpa using ih

theorem names_of_unslashed {text : List Char} (unslashed : '/' ∉ text) : names text = [text] := by
  induction text with
  | nil => rfl
  | cons c rest ih =>
      rw [List.mem_cons, not_or] at unslashed
      rw [names_cons, ih unslashed.2, if_neg (Ne.symm unslashed.1), List.modifyHead_cons]

theorem names_append_slash (front last : List Char) :
    names (front ++ '/' :: last) = names front ++ names last := by
  induction front with
  | nil => rfl
  | cons c rest ih =>
      rw [List.cons_append, names_cons, names_cons, ih]
      split
      · rfl
      · obtain ⟨first, more, given⟩ := List.exists_cons_of_ne_nil (names_ne_nil rest)
        rw [given]
        rfl

theorem unslashed_or_exists_split (text : List Char) :
    '/' ∉ text ∨ ∃ front last, text = front ++ '/' :: last ∧ '/' ∉ last := by
  by_cases slashed : '/' ∈ text.reverse
  · rcases List.eq_append_cons_of_mem slashed with ⟨back, front, split, unslashed⟩
    refine .inr ⟨front.reverse, back.reverse, ?_, by simpa using unslashed⟩
    rw [← List.reverse_reverse text, split]
    simp
  · exact .inl (by simpa using slashed)

theorem ofChars_of_unslashed {last : List Char} (unslashed : '/' ∉ last) (notEmpty : last ≠ []) :
    ofChars last = ⟨false, [], String.ofList last, false⟩ := by
  have noStart : last.head? ≠ some '/' := fun starts => unslashed (List.mem_of_mem_head? starts)
  have noEnd : last.getLast? ≠ some '/' := fun ends => unslashed (List.mem_of_getLast? ends)
  simp [ofChars, names_of_unslashed unslashed, notEmpty, noStart, noEnd]

theorem ofChars_append_slash (front : List Char) {last : List Char} (unslashed : '/' ∉ last)
    (notEmpty : last ≠ []) : ofChars (front ++ '/' :: last) =
      ⟨(front ++ ['/']).head? = some '/', ((names front).filter (· ≠ [])).map String.ofList,
        String.ofList last, false⟩ := by
  have noEnd : last.getLast? ≠ some '/' := fun ends => unslashed (List.mem_of_getLast? ends)
  have starts : (front ++ '/' :: last).head? = (front ++ ['/']).head? := by
    cases front <;> rfl
  have ends : (front ++ '/' :: last).getLast? = last.getLast? := by
    rw [List.getLast?_append_of_ne_nil _ (List.cons_ne_nil _ _),
      List.getLast?_cons_of_ne_nil notEmpty]
  simp [ofChars, names_append_slash, names_of_unslashed unslashed, notEmpty, noEnd, starts, ends]

/-- The stem leads along the way and then begins a name, of which there may be nothing yet. -/
structure Begins (stem : List Char) (absolute : Bool) (way : List String) (name : List Char) :
    Prop where
  atSlash : name = [] → stem = [] ∨ stem.getLast? = some '/'
  ofChars : ∀ {ending : List Char}, '/' ∉ ending → name ++ ending ≠ [] →
    Path.ofChars (stem ++ ending) = ⟨absolute, way, String.ofList (name ++ ending), false⟩

theorem exists_begins (stem : List Char) : ∃ absolute way name, Begins stem absolute way name := by
  rcases unslashed_or_exists_split stem with unslashed | ⟨front, last, rfl, unslashed⟩
  · refine ⟨false, [], stem, .inl, ?_⟩
    intro ending unslashedToo notEmpty
    exact ofChars_of_unslashed (by simp [unslashed, unslashedToo]) notEmpty
  · refine ⟨(front ++ ['/']).head? = some '/', ((names front).filter (· ≠ [])).map String.ofList,
      last, ?_, ?_⟩
    · rintro rfl
      exact .inr (by simp)
    · intro ending unslashedToo notEmpty
      rw [List.append_assoc, List.cons_append]
      exact ofChars_append_slash front (by simp [unslashed, unslashedToo]) notEmpty

theorem parse_eq_ok {text : String} {path : Path} (parsed : parse text = .ok path) :
    text ≠ "" ∧ ofChars text.toList = path := by
  rw [parse] at parsed
  split_ifs at parsed with nul empty tooLong
  exact ⟨empty, Except.ok.inj parsed⟩

end Path

namespace Folder

theorem fileIn_eq_ok {folder : Folder} {names : List String} {name file : String}
    (found : folder.fileIn names name = .ok file) : file = pathOf (names ++ [name]) := by
  rw [fileIn] at found
  split_ifs at found
  exact (Except.ok.inj found).symm

theorem pathOf_concat_inj {names : List String} {name other : String}
    (same : pathOf (names ++ [name]) = pathOf (names ++ [other])) : name = other := by
  by_cases empty : names = []
  · subst empty
    simpa [pathOf] using same
  · rw [pathOf, pathOf, String.intercalate_append_of_ne_nil empty (by simp),
      String.intercalate_append_of_ne_nil empty (by simp)] at same
    simpa using same

theorem locate_of_begins {folder : Folder} {stem name ending : List Char} {absolute : Bool}
    {way : List String} {file : String} (begins : Path.Begins stem absolute way name)
    (unslashed : '/' ∉ ending)
    (located : folder.locate (String.ofList (stem ++ ending)) = .ok file) :
    ∃ names, way.foldlM folder.follow (if absolute then [""] else []) = .ok names ∧
      file = pathOf (names ++ [String.ofList (name ++ ending)]) := by
  rcases locate_eq_ok_iff.mp located with ⟨path, names, parsed, entered, noSlash, found⟩
  rcases Path.parse_eq_ok parsed with ⟨notEmpty, rfl⟩
  rw [String.toList_ofList] at entered noSlash found
  -- Without a name the path is empty or ends at a slash, and neither leads to a file.
  have named : name ++ ending ≠ [] := by
    intro nameless
    obtain ⟨noName, rfl⟩ := List.append_eq_nil_iff.mp nameless
    rw [List.append_nil] at notEmpty noSlash
    rcases begins.atSlash noName with empty | slashed
    · exact notEmpty (by rw [empty])
    · simp [Path.ofChars, slashed] at noSlash
  rw [begins.ofChars unslashed named] at entered found
  exact ⟨names, entered, fileIn_eq_ok found⟩

theorem apart_of_endings (folder : Folder) (stem : List Char) {left right : List Char}
    (unslashedLeft : '/' ∉ left) (unslashedRight : '/' ∉ right) (different : left ≠ right) :
    folder.Apart (String.ofList (stem ++ left)) (String.ofList (stem ++ right)) := by
  intro file locatedLeft locatedRight
  rcases Path.exists_begins stem with ⟨absolute, way, name, begins⟩
  rcases locate_of_begins begins unslashedLeft locatedLeft with ⟨names, entered, here⟩
  rcases locate_of_begins begins unslashedRight locatedRight with ⟨namesToo, enteredToo, there⟩
  obtain rfl : names = namesToo := Except.ok.inj (entered.symm.trans enteredToo)
  have sameName := String.ofList_injective (pathOf_concat_inj (here.symm.trans there))
  exact different (List.append_cancel_left sameName)

end Folder

end StepFlow
