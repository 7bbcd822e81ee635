import Mathlib.Data.List.Basic
import StepFlow.Json.Scan
import StepFlow.Json.Write

namespace StepFlow.Json

def marked : List (Char × Char) :=
  [('"', '"'), ('\\', '\\'), ('\n', 'n'), ('\r', 'r'), ('\t', 't'), (.ofNat 8, 'b'),
   (.ofNat 12, 'f')]

inductive Escaped (c : Char) : Prop
  | byMark {mark : Char} (listed : (c, mark) ∈ marked)
  | byNumber (control : c.toNat < 0x20)
      (form : escape c =
        ['\\', 'u', '0', '0', hexDigit (c.toNat / 16), hexDigit (c.toNat % 16)])
  | asIs (noQuote : c ≠ '"') (noBackslash : c ≠ '\\') (noControl : isControl c = false)
      (form : escape c = [c])

theorem escape_marked : ∀ form ∈ marked, escape form.1 = ['\\', form.2] ∧ form.2 ≠ 'u' ∧
    escaped? form.2 = some form.1 := by
  decide

theorem escaped (c : Char) : Escaped c := by
  by_cases listed : ∃ mark, (c, mark) ∈ marked
  · obtain ⟨mark, listed⟩ := listed
    exact .byMark listed
  · have differs (other mark : Char) (member : (other, mark) ∈ marked) : c ≠ other := by
      rintro rfl
      exact listed ⟨mark, member⟩
    have notEight : c.toNat ≠ 8 := fun same =>
      differs (.ofNat 8) 'b' (by decide) (by rw [← same, Char.ofNat_toNat])
    have notTwelve : c.toNat ≠ 12 := fun same =>
      differs (.ofNat 12) 'f' (by decide) (by rw [← same, Char.ofNat_toNat])
    have noQuote := differs '"' '"' (by decide)
    have noBackslash := differs '\\' '\\' (by decide)
    have noNewline := differs '\n' 'n' (by decide)
    have noReturn := differs '\r' 'r' (by decide)
    have noTab := differs '\t' 't' (by decide)
    by_cases control : isControl c = true
    · refine .byNumber (of_decide_eq_true control) ?_
      simp [escape, noQuote, noBackslash, noNewline, noReturn, noTab, notEight, notTwelve, control]
    · refine .asIs noQuote noBackslash (by simpa using control) ?_
      simp [escape, noQuote, noBackslash, noNewline, noReturn, noTab, notEight, notTwelve, control]

theorem hexDigit?_hexDigit {value : Nat} (small : value < 16) :
    hexDigit? (hexDigit value) = some value := by
  have all : ∀ digit : Fin 16, hexDigit? (hexDigit digit) = some digit.val := by decide
  exact all ⟨value, small⟩

namespace Piece

def Spells (piece : Piece) (c : Char) : Prop :=
  ∀ rest, decodeFrom none (piece :: rest) = (decodeFrom none rest).map (c :: ·)

theorem char_spells (c : Char) : (char c).Spells c := fun _ => rfl

theorem unit_spells {c : Char} (control : c.toNat < 0x20) : (unit c.toNat).Spells c := by
  have notHigh : ¬ 0xD800 ≤ c.toNat := by omega
  have notLow : ¬ 0xDC00 ≤ c.toNat := by omega
  intro rest
  simp [decodeFrom, isHighSurrogate, isLowSurrogate, notHigh, notLow]

end Piece

namespace Scan

def tokensFrom (scan : Scan) (text : List Char) : Option (List Token) :=
  ((text.map some).foldlM step scan).bind finish

theorem tokens?_map_some (text : List Char) : tokens? (text.map some) = tokensFrom {} text := rfl

theorem tokensFrom_cons (scan : Scan) (c : Char) (rest : List Char) :
    scan.tokensFrom (c :: rest) = (scan.step (some c)).bind (·.tokensFrom rest) := by
  rw [tokensFrom, List.map_cons, List.foldlM_cons]
  cases scan.step (some c) <;> rfl

section Quoted

variable (found : List Token) (pieces : List Piece) (rest : List Char)

theorem tokensFrom_marked {c mark : Char} (listed : (c, mark) ∈ marked) :
    tokensFrom { found, mode := .quoted pieces } (escape c ++ rest) =
      tokensFrom { found, mode := .quoted (.char c :: pieces) } rest := by
  obtain ⟨form, known, stands⟩ := escape_marked (c, mark) listed
  simp [form, tokensFrom_cons, step, known, stands]

theorem tokensFrom_numbered {c : Char} (control : c.toNat < 0x20)
    (form : escape c = ['\\', 'u', '0', '0', hexDigit (c.toNat / 16), hexDigit (c.toNat % 16)]) :
    tokensFrom { found, mode := .quoted pieces } (escape c ++ rest) =
      tokensFrom { found, mode := .quoted (.unit c.toNat :: pieces) } rest := by
  have zero : hexDigit? '0' = some 0 := by decide
  have high := hexDigit?_hexDigit (by omega : c.toNat / 16 < 16)
  have low := hexDigit?_hexDigit (by omega : c.toNat % 16 < 16)
  have code : c.toNat / 16 * 16 + c.toNat % 16 = c.toNat := by omega
  simp [form, tokensFrom_cons, step, zero, high, low, code]

theorem tokensFrom_escape (c : Char) : ∃ piece : Piece, piece.Spells c ∧
    ∀ found pieces rest, tokensFrom { found, mode := .quoted pieces } (escape c ++ rest) =
      tokensFrom { found, mode := .quoted (piece :: pieces) } rest := by
  rcases escaped c with ⟨listed⟩ | ⟨control, form⟩ | ⟨noQuote, noBackslash, noControl, form⟩
  · exact ⟨.char c, Piece.char_spells c,
      fun found pieces rest => tokensFrom_marked found pieces rest listed⟩
  · exact ⟨.unit c.toNat, Piece.unit_spells control,
      fun found pieces rest => tokensFrom_numbered found pieces rest control form⟩
  · refine ⟨.char c, Piece.char_spells c, fun found pieces rest => ?_⟩
    simp [form, tokensFrom_cons, step, noQuote, noBackslash, noControl]

theorem tokensFrom_escapes (text : List Char) : ∃ spelled : List Piece,
    Piece.decode spelled = some text ∧
    ∀ found pieces rest, tokensFrom { found, mode := .quoted pieces } (text.flatMap escape ++ rest) =
      tokensFrom { found, mode := .quoted (spelled.reverse ++ pieces) } rest := by
  induction text with
  | nil => exact ⟨[], rfl, fun _ _ _ => rfl⟩
  | cons c text ih =>
      obtain ⟨piece, spells, here⟩ := tokensFrom_escape c
      obtain ⟨spelled, decoded, later⟩ := ih
      refine ⟨piece :: spelled, ?_, fun found pieces rest => ?_⟩
      · rw [Piece.decode, spells, ← Piece.decode, decoded, Option.map_some]
      · rw [List.flatMap_cons, List.append_assoc, here, later, List.reverse_cons, List.append_assoc,
          List.singleton_append]

theorem tokensFrom_quote (text : List Char) : tokensFrom { found } (quote text ++ rest) =
    tokensFrom { found := .text (some (String.ofList text)) :: found } rest := by
  obtain ⟨spelled, decoded, scanned⟩ := tokensFrom_escapes text
  have opened : step { found } (some '"') = some { found, mode := .quoted [] } := rfl
  rw [quote, List.cons_append, List.cons_append, List.append_assoc, tokensFrom_cons, opened,
    Option.bind_some, scanned, List.append_nil, List.singleton_append, tokensFrom_cons]
  simp [step, closeText, decoded]

end Quoted

section Between

variable (found : List Token) (rest : List Char)

theorem tokensFrom_blank {c : Char} (blank : isBlank c = true) :
    tokensFrom { found } (c :: rest) = tokensFrom { found } rest := by
  simp [tokensFrom_cons, step, start, blank]

theorem tokensFrom_newline (depth : Nat) :
    tokensFrom { found } (newline depth ++ rest) = tokensFrom { found } rest := by
  rw [newline, List.cons_append, tokensFrom_blank _ _ (by decide)]
  induction 2 * depth with
  | zero => rfl
  | succ width ih => rw [List.replicate_succ, List.cons_append, tokensFrom_blank _ _ (by decide), ih]

theorem tokensFrom_punctuation {c : Char} {token : Token}
    (spells : Token.punctuation? c = some token)
    (apart : isBlank c = false ∧ c ≠ '"' ∧ isWordChar c = false) :
    tokensFrom { found } (c :: rest) = tokensFrom { found := token :: found } rest := by
  simp [tokensFrom_cons, step, start, spells, apart]

def EndsWord (text : List Char) : Prop := ∀ c ∈ text.head?, isWordChar c = false

theorem endsWord_cons {c : Char} (other : isWordChar c = false) : EndsWord (c :: rest) := by
  intro first leads
  rw [← Option.some.inj leads]
  exact other

theorem tokensFrom_word (spelling : List Char) (ends : EndsWord rest) :
    tokensFrom { found, mode := .word spelling } rest =
      (closeWord found spelling).bind fun found => tokensFrom { found } rest := by
  cases rest with
  | nil => cases closed : closeWord found spelling <;> simp [tokensFrom, finish, closed]
  | cons c rest =>
      have other : isWordChar c = false := ends c rfl
      simp only [tokensFrom_cons, step, other, Bool.false_eq_true, if_false]
      cases closeWord found spelling <;> rfl

theorem tokensFrom_null (ends : EndsWord rest) :
    tokensFrom { found } ("null".toList ++ rest) = tokensFrom { found := .null :: found } rest :=
  tokensFrom_word found rest ['l', 'l', 'u', 'n'] ends

end Between

end Scan

end StepFlow.Json
