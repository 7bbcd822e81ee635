import Mathlib.Data.List.Nodup
import StepFlow.Json.Record
import StepFlow.Proofs.Json.Read

namespace StepFlow.Json

variable {α : Type}

@[simp] theorem textual_text (value : String) : Textual (.text value) := .text value

@[simp] theorem textual_array_iff {items : List Json} :
    Textual (.array items) ↔ ∀ item ∈ items, item.Textual :=
  ⟨fun | .array all => all, .array⟩

@[simp] theorem textual_object_iff {members : List (String × Json)} :
    Textual (.object members) ↔ ∀ member ∈ members, member.2.Textual :=
  ⟨fun | .object all => all, .object⟩

section Values

variable (read : Json → Option α) (write : α → Json)

theorem list?_map (back : ∀ value, read (write value) = some value) (values : List α) :
    list? read (.array (values.map write)) = some values :=
  mapM_map_of_back read write back values

theorem list?_ofTexts (texts : List String) : list? text? (ofTexts texts) = some texts :=
  list?_map text? .text (fun _ => rfl) texts

theorem entries?_ofEntries (back : ∀ value, read (write value) = some value)
    (entries : List (String × α)) : entries? read (ofEntries write entries) = some entries := by
  refine mapM_map_of_back _ _ (fun entry => ?_) entries
  rw [back, Option.map_some]

theorem optional?_ofOption (back : ∀ value, read (write value) = some value)
    (given : ∀ value, write value ≠ .null) (value : Option α) :
    optional? read (ofOption write value) = some value := by
  cases value with
  | none => rfl
  | some value =>
      have known : (read (write value)).map some = some (some value) := by rw [back, Option.map_some]
      rw [← known]
      show optional? read (write value) = _
      rw [optional?]
      exact given value

theorem entries?_ofEntries_text (entries : List (String × String)) :
    entries? text? (ofEntries .text entries) = some entries :=
  entries?_ofEntries text? .text (fun _ => rfl) entries

theorem optional?_ofOption_text (value : Option String) :
    optional? text? (ofOption .text value) = some value :=
  optional?_ofOption text? .text (fun _ => rfl) (fun _ => nofun) value

theorem textual_ofTexts (texts : List String) : Textual (ofTexts texts) := by
  simp [ofTexts]

variable {write}

theorem textual_ofOption (textual : ∀ value, (write value).Textual) (value : Option α) :
    Textual (ofOption write value) := by
  cases value with
  | none => exact .null
  | some value => exact textual value

theorem textual_ofEntries (textual : ∀ value, (write value).Textual)
    (entries : List (String × α)) : Textual (ofEntries write entries) := by
  rw [ofEntries, textual_object_iff]
  intro member inside
  obtain ⟨entry, -, rfl⟩ := List.mem_map.mp inside
  exact textual entry.2

end Values

section Fields

theorem member?_append {names : FieldNames} {before after : List (String × Json)}
    {member : String × Json} (own : member.1 ∈ names) (notBefore : ∀ other ∈ before, other.1 ∉ names)
    (notAfter : ∀ other ∈ after, other.1 ∉ names) :
    member? (before ++ member :: after) names = some (some member.2) := by
  have front : before.filter (·.1 ∈ names) = [] := by simpa using notBefore
  have back : after.filter (·.1 ∈ names) = [] := by simpa using notAfter
  have only : (before ++ member :: after).filter (·.1 ∈ names) = [member] := by
    rw [List.filter_append, List.filter_cons_of_pos (by simpa using own), front, back,
      List.nil_append]
  rw [member?, only]

theorem key_mem_flatten {fields : List FieldNames} {members : List (String × Json)}
    (keyed : fields.map List.head? = members.map (some ·.1)) :
    ∀ member ∈ members, member.1 ∈ fields.flatten := by
  intro member inside
  have listed : some member.1 ∈ fields.map List.head? :=
    keyed ▸ List.mem_map_of_mem inside
  obtain ⟨names, field, first⟩ := List.mem_map.mp listed
  exact List.mem_flatten.mpr ⟨names, field, List.mem_of_head? first⟩

theorem mapM_member? (before : List (String × Json)) {fields : List FieldNames}
    {after : List (String × Json)} (keyed : fields.map List.head? = after.map (some ·.1))
    (apart : fields.flatten.Nodup) (notBefore : ∀ other ∈ before, other.1 ∉ fields.flatten) :
    fields.mapM (member? (before ++ after)) = some (after.map (some ·.2)) := by
  induction fields generalizing before after with
  | nil =>
      have nothing : after = [] := by simpa using keyed.symm
      rw [nothing]
      rfl
  | cons names fields ih =>
      cases after with
      | nil => simp at keyed
      | cons member after =>
          rw [List.map_cons, List.map_cons] at keyed
          obtain ⟨first, keyedToo⟩ := List.cons.inj keyed
          rw [List.flatten_cons] at apart notBefore
          obtain ⟨-, apartToo, disjoint⟩ := List.nodup_append'.mp apart
          have own : member.1 ∈ names := List.mem_of_head? first
          have notAfter : ∀ other ∈ after, other.1 ∉ names := fun other inside shared =>
            disjoint shared (key_mem_flatten keyedToo other inside)
          have notBeforeNames : ∀ other ∈ before, other.1 ∉ names := fun other inside =>
            mt (List.mem_append_left _) (notBefore other inside)
          have notBeforeToo : ∀ other ∈ before ++ [member], other.1 ∉ fields.flatten := by
            intro other inside
            rcases List.mem_append.mp inside with old | last
            · exact mt (List.mem_append_right _) (notBefore other old)
            · rw [List.mem_singleton.mp last]
              exact fun later => disjoint own later
          have later := ih (before ++ [member]) keyedToo apartToo notBeforeToo
          rw [List.append_assoc, List.singleton_append] at later
          rw [List.mapM_cons, member?_append own notBeforeNames notAfter, later]
          rfl

theorem fieldValues?_object {fields : List FieldNames} {members : List (String × Json)}
    (keyed : fields.map List.head? = members.map (some ·.1)) (apart : fields.flatten.Nodup) :
    fieldValues? fields (.object members) = some (members.map (some ·.2)) :=
  mapM_member? [] keyed apart (by simp)

theorem record?_of_values {fields : List FieldNames} {json : Json} {values : List (Option Json)}
    (given : fieldValues? fields json = some values) (reader : FieldReader α) :
    record? fields reader json = (reader.run values).map Prod.fst := by
  rw [record?, given]
  exact bind_pure_comp Prod.fst (reader.run values)

theorem record?_object {fields : List FieldNames} {reader : FieldReader α}
    {members : List (String × Json)} (keyed : fields.map List.head? = members.map (some ·.1))
    (apart : fields.flatten.Nodup) : record? fields reader (.object members) =
      (reader.run (members.map (some ·.2))).map Prod.fst :=
  record?_of_values (fieldValues?_object keyed apart) reader

namespace FieldReader

variable (read : Json → Option α) (value : Json) (rest : List (Option Json))

@[simp] theorem run_required :
    (required read).run (some value :: rest) = (read value).map (·, rest) := by
  show (read value).bind (fun found => some (found, rest)) = _
  rw [Option.map_eq_bind]
  rfl

@[simp] theorem run_withDefault (default : α) :
    (withDefault default read).run (some value :: rest) = (read value).map (·, rest) := by
  show (read value).bind (fun found => some (found, rest)) = _
  rw [Option.map_eq_bind]
  rfl

@[simp] theorem run_withDefault_missing (default : α) :
    (withDefault default read).run (none :: rest) = some (default, rest) := rfl

end FieldReader

end Fields

end StepFlow.Json
