import Mathlib.Algebra.Group.Nat.Defs
import StepFlow.Codec
import StepFlow.Proofs.Text.Utf8

/-!
The laws of codecs. What a codec writes it reads back, whatever stands behind it, and what it reads
from some bytes it reads from these with more behind them. So no form of a value begins another, and
a form that is cut short is not read at all (`Steady.read_cut`). All ways to build codecs keep the
laws.
-/
namespace StepFlow

namespace Reading

variable {α β : Type} {reading : Reading α} {memory : Memory}

theorem bind_of_none (unread : reading.outcome = none) (next : α → List UInt8 → Reading β) :
    reading.bind next = ⟨reading.claims, none⟩ := by
  rw [bind, unread]

theorem bind_of_some {value : α} {rest : List UInt8} (found : reading.outcome = some (value, rest))
    (next : α → List UInt8 → Reading β) : reading.bind next =
      ⟨reading.claims ++ (next value rest).claims, (next value rest).outcome⟩ := by
  rw [bind, found]

theorem claims_prefix_bind (reading : Reading α) (next : α → List UInt8 → Reading β) :
    reading.claims <+: (reading.bind next).claims := by
  cases found : reading.outcome with
  | none => simp [bind_of_none found]
  | some first =>
      obtain ⟨value, rest⟩ := first
      simp [bind_of_some found]

theorem under_of_within (within : ∀ claim ∈ reading.claims, claim ≤ memory.block) :
    reading.under memory = (orMalformed reading.outcome).map (·.1) := by
  have roomy : reading.claims.find? (memory.block < ·) = none := by
    simpa [List.find?_eq_none] using within
  rw [under, roomy]

theorem exists_overrun_iff : (∃ claimed, reading.under memory = .error (.overrun claimed)) ↔
    ∃ claim ∈ reading.claims, memory.block < claim := by
  rw [under]
  cases search : reading.claims.find? (memory.block < ·) with
  | some claimed =>
      have large := List.find?_some search
      exact ⟨fun _ => ⟨claimed, List.mem_of_find?_eq_some search, by simpa using large⟩,
        fun _ => ⟨claimed, rfl⟩⟩
  | none =>
      have within : ¬ ∃ claim ∈ reading.claims, memory.block < claim := by
        simpa [List.find?_eq_none] using search
      cases reading.outcome with
      | none => exact ⟨nofun, fun large => absurd large within⟩
      | some found => exact ⟨nofun, fun large => absurd large within⟩

end Reading

namespace Codec

variable {α β : Type}

/-- What is read, and the claims on the way, do not hang on what stands behind; and where something
is read no claim was larger than the bytes. -/
structure Steady (read : List UInt8 → Reading α) : Prop where
  readsOn {bytes : List UInt8} {value : α} {rest : List UInt8} (more : List UInt8)
    (found : (read bytes).outcome = some (value, rest)) :
    read (bytes ++ more) = ⟨(read bytes).claims, some (value, rest ++ more)⟩
  claimsOn (bytes more : List UInt8) : (read bytes).claims <+: (read (bytes ++ more)).claims
  backed {bytes : List UInt8} {value : α} {rest : List UInt8}
    (found : (read bytes).outcome = some (value, rest)) :
    rest.length ≤ bytes.length ∧ ∀ claim ∈ (read bytes).claims, claim ≤ bytes.length

def ReadsAs (read : List UInt8 → Reading α) (form : List UInt8) (value : α) : Prop :=
  (read form).outcome = some (value, [])

namespace Steady

variable {read : List UInt8 → Reading α}

/-- If a part of the form were read as something, so would the whole form, with something left. -/
theorem read_cut (steady : Steady read) {form part : List UInt8} {value : α}
    (spelled : ReadsAs read form value) (cut : part <+: form) (shorter : part ≠ form) :
    (read part).outcome = none ∧ ∀ claim ∈ (read part).claims, claim ≤ form.length := by
  obtain ⟨more, whole⟩ := cut
  constructor
  · cases found : (read part).outcome with
    | none => rfl
    | some result =>
        obtain ⟨other, rest⟩ := result
        have onward := congrArg Reading.outcome (steady.readsOn more found)
        rw [whole, spelled] at onward
        have nothing : rest ++ more = [] := (congrArg Prod.snd (Option.some.inj onward)).symm
        rw [(List.append_eq_nil_iff.mp nothing).2, List.append_nil] at whole
        exact absurd whole shorter
  · intro claim member
    have claims := steady.claimsOn part more
    rw [whole] at claims
    exact (steady.backed spelled).2 claim (claims.subset member)

theorem under_append (steady : Steady read) {form : List UInt8} {value : α}
    (spelled : ReadsAs read form value) {memory : Memory} (room : form.length ≤ memory.block)
    (more : List UInt8) : (read (form ++ more)).under memory = .ok value := by
  rw [steady.readsOn more spelled, Reading.under_of_within]
  · rfl
  · exact fun claim member => Nat.le_trans ((steady.backed spelled).2 claim member) room

theorem under_cut (steady : Steady read) {form part : List UInt8} {value : α}
    (spelled : ReadsAs read form value) {memory : Memory} (room : form.length ≤ memory.block)
    (cut : part <+: form) (shorter : part ≠ form) :
    (read part).under memory = .error .malformed := by
  obtain ⟨unread, claims⟩ := steady.read_cut spelled cut shorter
  rw [Reading.under_of_within, unread]
  · rfl
  · exact fun claim member => Nat.le_trans (claims claim member) room

theorem of_no_claims {read? : List UInt8 → Option (α × List UInt8)}
    (readsOn : ∀ {bytes value rest} (more : List UInt8), read? bytes = some (value, rest) →
      read? (bytes ++ more) = some (value, rest ++ more))
    (shortens : ∀ {bytes value rest}, read? bytes = some (value, rest) →
      rest.length ≤ bytes.length) : Steady fun bytes => ⟨[], read? bytes⟩ where
  readsOn more found := congrArg (Reading.mk []) (readsOn more found)
  claimsOn _ _ := List.prefix_rfl
  backed found := ⟨shortens found, nofun⟩

theorem done (value : α) : Steady (Reading.done value) :=
  of_no_claims (fun more found => by cases found; rfl)
    fun found => by cases found; exact Nat.le_refl _

theorem failed : Steady fun _ => (Reading.failed : Reading α) := of_no_claims nofun nofun

theorem bind (steady : Steady read) {next : α → List UInt8 → Reading β}
    (steadyNext : ∀ value, Steady (next value)) : Steady fun bytes => (read bytes).bind next where
  readsOn {bytes result left} more found := by
    cases given : (read bytes).outcome with
    | none =>
        rw [Reading.bind_of_none given] at found
        cases found
    | some first =>
        obtain ⟨value, rest⟩ := first
        rw [Reading.bind_of_some given] at found
        have onward := congrArg Reading.outcome (steady.readsOn more given)
        rw [Reading.bind_of_some onward, Reading.bind_of_some given, steady.readsOn more given,
          (steadyNext value).readsOn more found]
  claimsOn bytes more := by
    cases given : (read bytes).outcome with
    | none =>
        rw [Reading.bind_of_none given]
        exact (steady.claimsOn bytes more).trans (Reading.claims_prefix_bind _ next)
    | some first =>
        obtain ⟨value, rest⟩ := first
        have onward := congrArg Reading.outcome (steady.readsOn more given)
        rw [Reading.bind_of_some onward, Reading.bind_of_some given, steady.readsOn more given]
        exact (List.prefix_append_right_inj _).mpr ((steadyNext value).claimsOn rest more)
  backed {bytes result left} found := by
    cases given : (read bytes).outcome with
    | none =>
        rw [Reading.bind_of_none given] at found
        cases found
    | some first =>
        obtain ⟨value, rest⟩ := first
        rw [Reading.bind_of_some given] at found ⊢
        obtain ⟨shorter, within⟩ := steady.backed given
        obtain ⟨shorterNext, withinNext⟩ := (steadyNext value).backed found
        refine ⟨Nat.le_trans shorterNext shorter, fun claim member => ?_⟩
        rcases List.mem_append.mp member with before | behind
        · exact within claim before
        · exact Nat.le_trans (withinNext claim behind) shorter

theorem map (steady : Steady read) (change : α → β) :
    Steady fun bytes => (read bytes).bind fun value rest => .done (change value) rest :=
  steady.bind fun value => done (change value)

end Steady

namespace ReadsAs

variable {read : List UInt8 → Reading α} {form : List UInt8} {value : α}

theorem bind (spelled : ReadsAs read form value) (steady : Steady read)
    {next : α → List UInt8 → Reading β} {formNext : List UInt8} {result : β}
    (spelledNext : ReadsAs (next value) formNext result) :
    ReadsAs (fun bytes => (read bytes).bind next) (form ++ formNext) result := by
  have onward := congrArg Reading.outcome (steady.readsOn formNext spelled)
  rw [ReadsAs, Reading.bind_of_some onward]
  exact spelledNext

theorem map (spelled : ReadsAs read form value) (change : α → β) :
    ReadsAs (fun bytes => (read bytes).bind fun value rest => .done (change value) rest) form
      (change value) := by
  rw [ReadsAs, Reading.bind_of_some spelled]
  rfl

end ReadsAs

structure Lawful (codec : Codec α) : Prop where
  steady : Steady codec.read
  writesBytes (value : α) : codec.write value ≠ []
  /-- Lengths are numbers of eight bytes, so a form that holds one must not get longer. -/
  readsBack (value : α) (room : (codec.write value).length < 2 ^ 64) :
    ReadsAs codec.read (codec.write value) value

section Numbers

theorem length_fixedBytes : ∀ width value : Nat, (fixedBytes width value).length = width
  | 0, _ => rfl
  | width + 1, value => congrArg (· + 1) (length_fixedBytes width (value / 256))

theorem fixedValue_fixedBytes : ∀ {width value : Nat}, value < 256 ^ width →
    fixedValue (fixedBytes width value) = value
  | 0, value, room => by
      rw [Nat.pow_zero, Nat.lt_one_iff] at room
      rw [room]
      rfl
  | width + 1, value, room => by
      have high : value / 256 < 256 ^ width := by
        rw [Nat.div_lt_iff_lt_mul (by decide)]
        rwa [Nat.pow_succ] at room
      rw [fixedBytes, fixedValue, fixedValue_fixedBytes high, UInt8.toNat_ofNat']
      exact Nat.mod_add_div value 256

theorem number_readsAs_small (widest : Nat) {value : Nat} (small : value ≤ 250) :
    ReadsAs (number widest).read ((number widest).write value) value := by
  have byte : (UInt8.ofNat value).toNat = value :=
    UInt8.toNat_ofNat_of_lt' (by simp only [UInt8.size]; omega)
  simp [ReadsAs, number, numberFrom?, small, byte]

theorem numberFrom?_cons {widest width : Nat} {mark : UInt8} (above : ¬ mark.toNat ≤ 250)
    (announces : announced? mark = some width) (bytes : List UInt8) :
    numberFrom? widest (mark :: bytes) = if width ≤ widest ∧ width ≤ bytes.length then
      some (fixedValue (bytes.take width), bytes.drop width) else none := by
  by_cases allowed : width ≤ widest <;> by_cases enough : width ≤ bytes.length <;>
    simp [numberFrom?, above, announces, allowed, enough, Nat.not_lt.mpr, Nat.lt_of_not_le]

theorem number_readsAs_announced {widest width value : Nat} {mark : UInt8}
    (above : ¬ mark.toNat ≤ 250) (announces : announced? mark = some width)
    (allowed : width ≤ widest) (room : value < 256 ^ width) :
    ReadsAs (number widest).read (mark :: fixedBytes width value) value := by
  have bytes : (fixedBytes width value).length = width := length_fixedBytes width value
  have read : numberFrom? widest _ = _ := numberFrom?_cons above announces (fixedBytes width value)
  rw [if_pos ⟨allowed, Nat.le_of_eq bytes.symm⟩, List.take_of_length_le (Nat.le_of_eq bytes),
    List.drop_of_length_le (Nat.le_of_eq bytes), fixedValue_fixedBytes room] at read
  exact read

theorem length_readsAs {value : Nat} (room : value < 2 ^ 64) :
    ReadsAs length.read (length.write value) value := by
  by_cases small : value ≤ 250
  · exact number_readsAs_small 8 small
  by_cases two : value < 0x10000
  · have form : length.write value = 251 :: fixedBytes 2 value := by
      simp [length, number, small, two]
    rw [form]
    exact number_readsAs_announced (by decide) rfl (by decide) two
  by_cases four : value < 0x100000000
  · have form : length.write value = 252 :: fixedBytes 4 value := by
      simp [length, number, small, two, four]
    rw [form]
    exact number_readsAs_announced (by decide) rfl (by decide) four
  · have form : length.write value = 253 :: fixedBytes 8 value := by
      simp [length, number, small, two, four]
    rw [form]
    exact number_readsAs_announced (by decide) rfl (by decide) room

theorem number_write_ne_nil (widest value : Nat) : (number widest).write value ≠ [] := by
  simp only [number]
  split_ifs <;> exact List.cons_ne_nil _ _

theorem numberFrom?_eq_some {widest : Nat} {bytes : List UInt8} {value : Nat} {rest : List UInt8}
    (found : numberFrom? widest bytes = some (value, rest)) : rest.length ≤ bytes.length ∧
      ∀ more, numberFrom? widest (bytes ++ more) = some (value, rest ++ more) := by
  cases bytes with
  | nil => cases found
  | cons first others =>
      by_cases small : first.toNat ≤ 250
      · simp only [numberFrom?, small, if_true, Option.some.injEq, Prod.mk.injEq] at found
        obtain ⟨rfl, rfl⟩ := found
        exact ⟨Nat.le_succ _, fun more => by simp [numberFrom?, small]⟩
      · cases announces : announced? first with
        | none => simp [numberFrom?, small, announces] at found
        | some width =>
            rw [numberFrom?_cons small announces] at found
            obtain ⟨⟨allowed, enough⟩, same⟩ := Option.ite_none_right_eq_some.mp found
            obtain ⟨rfl, rfl⟩ := Prod.mk.inj (Option.some.inj same)
            refine ⟨by simp only [List.length_drop, List.length_cons]; omega, fun more => ?_⟩
            rw [List.cons_append, numberFrom?_cons small announces,
              if_pos ⟨allowed, by rw [List.length_append]; omega⟩,
              List.take_append_of_le_length enough, List.drop_append_of_le_length enough]

theorem number_steady (widest : Nat) : Steady (number widest).read :=
  .of_no_claims (fun more found => (numberFrom?_eq_some found).2 more)
    fun found => (numberFrom?_eq_some found).1

end Numbers

theorem byteFrom_steady : Steady byteFrom where
  readsOn {bytes value rest} more found := by
    cases bytes with
    | nil => cases found
    | cons first others =>
        cases found
        rfl
  claimsOn bytes more := by cases bytes <;> exact List.nil_prefix
  backed {bytes value rest} found := by
    cases bytes with
    | nil => cases found
    | cons first others =>
        cases found
        exact ⟨Nat.le_succ _, nofun⟩

section Via

variable {codec : Codec β} {form : α → β} {back : β → Option α}

theorem via_steady (steady : Steady codec.read) : Steady (codec.via form back).read := by
  refine steady.bind fun shown => .of_no_claims (fun more found => ?_) fun found => ?_
  · obtain ⟨value, known, same⟩ := Option.map_eq_some_iff.mp found
    cases same
    rw [known]
    rfl
  · obtain ⟨value, known, same⟩ := Option.map_eq_some_iff.mp found
    cases same
    exact Nat.le_refl _

theorem via_readsAs {written : List UInt8} {shown : β} {value : α}
    (spelled : ReadsAs codec.read written shown) (known : back shown = some value) :
    ReadsAs (codec.via form back).read written value := by
  show ((codec.read written).bind _).outcome = _
  rw [Reading.bind_of_some spelled, known]
  rfl

end Via

section Pair

variable {first : Codec α} {second : Codec β}

theorem pair_steady (steady : Steady first.read) (steadyToo : Steady second.read) :
    Steady (first.pair second).read :=
  steady.bind fun a => steadyToo.map (a, ·)

theorem pair_readsAs (steady : Steady first.read) {form formToo : List UInt8} {a : α} {b : β}
    (spelled : ReadsAs first.read form a) (spelledToo : ReadsAs second.read formToo b) :
    ReadsAs (first.pair second).read (form ++ formToo) (a, b) :=
  spelled.bind steady (spelledToo.map (a, ·))

end Pair

namespace Lawful

theorem via {codec : Codec β} (lawful : codec.Lawful) {form : α → β} {back : β → Option α}
    (inverse : ∀ value, back (form value) = some value) : (codec.via form back).Lawful where
  steady := via_steady lawful.steady
  writesBytes value := lawful.writesBytes (form value)
  readsBack value room := via_readsAs (lawful.readsBack (form value) room) (inverse value)

theorem pair {first : Codec α} {second : Codec β} (lawful : first.Lawful)
    (lawful' : second.Lawful) : (first.pair second).Lawful where
  steady := pair_steady lawful.steady lawful'.steady
  writesBytes value := List.append_ne_nil_of_left_ne_nil (lawful.writesBytes value.1) _
  readsBack value room := by
    simp only [Codec.pair, List.length_append] at room
    exact pair_readsAs lawful.steady (lawful.readsBack value.1 (by omega))
      (lawful'.readsBack value.2 (by omega))

theorem option {item : Codec α} (lawful : item.Lawful) : item.option.Lawful where
  steady := byteFrom_steady.bind fun mark => by
    split_ifs
    · exact .done none
    · exact lawful.steady.map some
    · exact .failed
  writesBytes value := by cases value <;> exact List.cons_ne_nil _ _
  readsBack value room := by
    cases value with
    | none => rfl
    | some value =>
        have shorter : (item.write value).length < 2 ^ 64 :=
          Nat.lt_of_succ_lt (by simpa [Codec.option] using room)
        have mark : ReadsAs byteFrom [1] 1 := rfl
        exact mark.bind byteFrom_steady ((lawful.readsBack value shorter).map some)

theorem readMany_steady {item : Codec α} (lawful : item.Lawful) :
    ∀ count : Nat, Steady (readMany item.read count)
  | 0 => .done []
  | count + 1 => lawful.steady.bind fun first => (lawful.readMany_steady count).map (first :: ·)

theorem readMany_readsAs {item : Codec α} (lawful : item.Lawful) :
    ∀ items : List α, (items.flatMap item.write).length < 2 ^ 64 →
      ReadsAs (readMany item.read items.length) (items.flatMap item.write) items
  | [], _ => rfl
  | first :: items, room => by
      rw [List.flatMap_cons, List.length_append] at room
      have later := lawful.readMany_readsAs items (by omega)
      exact (lawful.readsBack first (by omega)).bind lawful.steady (later.map (first :: ·))

theorem length_le_length_flatMap {item : Codec α} (lawful : item.Lawful) (items : List α) :
    items.length ≤ (items.flatMap item.write).length := by
  induction items with
  | nil => exact Nat.le_refl 0
  | cons first items ih =>
      have some := List.length_pos_iff.mpr (lawful.writesBytes first)
      rw [List.flatMap_cons, List.length_append, List.length_cons]
      omega

theorem list {item : Codec α} (lawful : item.Lawful) : item.list.Lawful where
  steady := (number_steady 8).bind lawful.readMany_steady
  writesBytes items := List.append_ne_nil_of_left_ne_nil (number_write_ne_nil 8 items.length) _
  readsBack items room := by
    -- Every item takes a byte at least, so that the count of items has room when all bytes have.
    simp only [Codec.list, List.length_append] at room
    have few := lawful.length_le_length_flatMap items
    have count := length_readsAs (by omega : items.length < 2 ^ 64)
    exact count.bind (number_steady 8) (lawful.readMany_readsAs items (by omega))

end Lawful

theorem textFrom_steady (count : Nat) : Steady (textFrom count) where
  readsOn {bytes value rest} more found := by
    obtain ⟨enough, found⟩ := Option.ite_none_left_eq_some.mp found
    obtain ⟨characters, spelled, same⟩ := Option.map_eq_some_iff.mp found
    cases same
    have fits : count ≤ bytes.length := Nat.le_of_not_lt enough
    simp [textFrom, Nat.le_add_right_of_le fits, List.take_append_of_le_length fits,
      List.drop_append_of_le_length fits, spelled]
  claimsOn _ _ := List.prefix_rfl
  backed {bytes value rest} found := by
    obtain ⟨enough, found⟩ := Option.ite_none_left_eq_some.mp found
    obtain ⟨characters, spelled, same⟩ := Option.map_eq_some_iff.mp found
    cases same
    exact ⟨by simp, by simpa [textFrom] using enough⟩

theorem lawful_text : text.Lawful where
  steady := (number_steady 8).bind textFrom_steady
  writesBytes value := List.append_ne_nil_of_left_ne_nil (number_write_ne_nil 8 _) _
  readsBack value room := by
    simp only [text, List.length_append] at room
    have few : (Text.encodeUtf8 value.toList).length < 2 ^ 64 := by omega
    have body : ReadsAs (textFrom (Text.encodeUtf8 value.toList).length)
        (Text.encodeUtf8 value.toList) value := by
      simp [ReadsAs, textFrom]
    exact (length_readsAs few).bind (number_steady 8) body

theorem lawful_choice [DecidableEq α] {values : List α} (all : ∀ value, value ∈ values)
    (few : values.length ≤ 250) : (choice values).Lawful where
  steady := via_steady (number_steady 4)
  writesBytes value := number_write_ne_nil 4 _
  readsBack value _ := by
    have place : values.idxOf value < values.length := List.idxOf_lt_length_of_mem (all value)
    have small : values.idxOf value ≤ 250 := by omega
    exact via_readsAs (number_readsAs_small 4 small) (List.getElem?_idxOf (all value))

end Codec

end StepFlow
