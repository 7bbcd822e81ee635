import Mathlib.Data.List.Basic
import StepFlow.Text.Utf8

namespace StepFlow.Text

theorem charOfCode?_toNat (c : Char) : charOfCode? c.toNat = some c := by
  have valid : c.toNat.isValidChar := c.valid
  rw [charOfCode?, dif_pos valid]
  rfl

theorem charFrom?_toNat {least : Nat} {c : Char} (enough : least ≤ c.toNat) :
    charFrom? least c.toNat = some c := by
  rw [charFrom?, if_pos enough, charOfCode?_toNat]

theorem continuation?_low (code : Nat) :
    continuation? (.ofNat (code % 0x40 + 0x80)) = some (code % 0x40) := by
  have same : (UInt8.ofNat (code % 0x40 + 0x80)).toNat = code % 0x40 + 0x80 :=
    UInt8.toNat_ofNat_of_lt' (by simp only [UInt8.size]; omega)
  have within : (0x80 ≤ code % 0x40 + 0x80 && code % 0x40 + 0x80 < 0xC0) = true := by
    simp only [Bool.and_eq_true, decide_eq_true_iff]
    omega
  rw [continuation?, same, if_pos within, Nat.add_sub_cancel]

section Widths

variable (c : Char) (following : List UInt8)

theorem decodeFirst?_one (small : c.toNat ≤ 0x7F) :
    decodeFirst? (.ofNat c.toNat) following = some (c, 0) := by
  have lead : (UInt8.ofNat c.toNat).toNat = c.toNat :=
    UInt8.toNat_ofNat_of_lt' (by simp only [UInt8.size]; omega)
  have ascii : c.toNat < 0x80 := by omega
  rw [decodeFirst?, lead, if_pos ascii, charOfCode?_toNat]
  rfl

theorem decodeFirst?_two (more : 0x80 ≤ c.toNat) (small : c.toNat ≤ 0x7FF) :
    decodeFirst? (.ofNat (c.toNat / 64 % 0x20 + 0xC0))
      (.ofNat (c.toNat % 0x40 + 0x80) :: following) = some (c, 1) := by
  have lead : (UInt8.ofNat (c.toNat / 64 % 0x20 + 0xC0)).toNat = c.toNat / 64 + 0xC0 := by
    rw [UInt8.toNat_ofNat_of_lt' (by simp only [UInt8.size]; omega)]
    omega
  have code : (c.toNat / 64 + 0xC0 - 0xC0) * 64 + c.toNat % 0x40 = c.toNat := by omega
  rw [decodeFirst?, lead, if_neg (by omega), if_neg (by omega), if_pos (by omega)]
  simp only [List.getElem?_cons_zero, Option.bind_eq_bind, Option.bind_some, continuation?_low, code,
    charFrom?_toNat more, Option.pure_def]

theorem decodeFirst?_three (more : 0x800 ≤ c.toNat) (small : c.toNat ≤ 0xFFFF) :
    decodeFirst? (.ofNat (c.toNat / 4096 % 0x10 + 0xE0))
      (.ofNat (c.toNat / 64 % 0x40 + 0x80) :: .ofNat (c.toNat % 0x40 + 0x80) :: following) =
        some (c, 2) := by
  have lead : (UInt8.ofNat (c.toNat / 4096 % 0x10 + 0xE0)).toNat = c.toNat / 4096 + 0xE0 := by
    rw [UInt8.toNat_ofNat_of_lt' (by simp only [UInt8.size]; omega)]
    omega
  have code : ((c.toNat / 4096 + 0xE0 - 0xE0) * 64 + c.toNat / 64 % 0x40) * 64 + c.toNat % 0x40 =
      c.toNat := by omega
  rw [decodeFirst?, lead, if_neg (by omega), if_neg (by omega), if_neg (by omega), if_pos (by omega)]
  simp only [List.getElem?_cons_zero, List.getElem?_cons_succ, Option.bind_eq_bind, Option.bind_some,
    continuation?_low, code, charFrom?_toNat more, Option.pure_def]

theorem decodeFirst?_four (more : 0x10000 ≤ c.toNat) :
    decodeFirst? (.ofNat (c.toNat / 262144 % 0x08 + 0xF0))
      (.ofNat (c.toNat / 4096 % 0x40 + 0x80) :: .ofNat (c.toNat / 64 % 0x40 + 0x80) ::
        .ofNat (c.toNat % 0x40 + 0x80) :: following) = some (c, 3) := by
  have valid : c.toNat < 0xD800 ∨ 0xDFFF < c.toNat ∧ c.toNat < 0x110000 := c.valid
  have lead : (UInt8.ofNat (c.toNat / 262144 % 0x08 + 0xF0)).toNat = c.toNat / 262144 + 0xF0 := by
    rw [UInt8.toNat_ofNat_of_lt' (by simp only [UInt8.size]; omega)]
    omega
  have code : (((c.toNat / 262144 + 0xF0 - 0xF0) * 64 + c.toNat / 4096 % 0x40) * 64 +
      c.toNat / 64 % 0x40) * 64 + c.toNat % 0x40 = c.toNat := by omega
  rw [decodeFirst?, lead, if_neg (by omega), if_neg (by omega), if_neg (by omega), if_neg (by omega)]
  simp only [List.getElem?_cons_zero, List.getElem?_cons_succ, Option.bind_eq_bind, Option.bind_some,
    continuation?_low, code, charFrom?_toNat more, Option.pure_def]

theorem decodeFirst?_utf8EncodeChar : ∃ first more, String.utf8EncodeChar c = first :: more ∧
    decodeFirst? first (more ++ following) = some (c, more.length) := by
  by_cases one : c.toNat ≤ 0x7F
  · exact ⟨_, [], if_pos one, decodeFirst?_one c following one⟩
  by_cases two : c.toNat ≤ 0x7FF
  · exact ⟨_, [_], (if_neg one).trans (if_pos two),
      decodeFirst?_two c following (Nat.lt_of_not_le one) two⟩
  by_cases three : c.toNat ≤ 0xFFFF
  · exact ⟨_, [_, _], (if_neg one).trans ((if_neg two).trans (if_pos three)),
      decodeFirst?_three c following (Nat.lt_of_not_le two) three⟩
  · exact ⟨_, [_, _, _], (if_neg one).trans ((if_neg two).trans (if_neg three)),
      decodeFirst?_four c following (Nat.lt_of_not_le three)⟩

end Widths

theorem decodeUtf8_append_char (c : Char) (rest : List UInt8) :
    decodeUtf8 (String.utf8EncodeChar c ++ rest) = some c :: decodeUtf8 rest := by
  obtain ⟨first, more, form, decoded⟩ := decodeFirst?_utf8EncodeChar c rest
  rw [form, List.cons_append, decodeUtf8, decoded]
  simp only [List.drop_left]

theorem decodeUtf8_encodeUtf8 (text : List Char) : decodeUtf8 (encodeUtf8 text) = text.map some := by
  induction text with
  | nil => rw [encodeUtf8, List.flatMap_nil, decodeUtf8, List.map_nil]
  | cons c text ih =>
      rw [encodeUtf8, List.flatMap_cons, decodeUtf8_append_char, List.map_cons]
      exact congrArg _ ih

@[simp] theorem textOfUtf8?_encodeUtf8 (text : List Char) :
    textOfUtf8? (encodeUtf8 text) = some text := by
  rw [textOfUtf8?, decodeUtf8_encodeUtf8, List.mapM_map]
  exact List.mapM_pure.trans (congrArg some (List.map_id text))

end StepFlow.Text
