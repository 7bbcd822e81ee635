import Mathlib.Data.List.Basic
import Mathlib.Data.List.Induction
import Std.Data.String.ToInt
import StepFlow.Proofs.Csv.Format

namespace StepFlow.Csv

theorem fieldForm_encodeField (field : List Char) : FieldForm field (encodeField field) := by
  rw [encodeField]
  cases needed : needsQuotes field with
  | true => exact .quoted
  | false =>
      have plain : ∀ c ∈ field, Plain c := by
        simpa [needsQuotes, Plain, not_or, and_assoc] using needed
      exact .bare plain

theorem intercalate_concat {α : Type} (separator last : List α) (front : List (List α)) :
    separator.intercalate (front ++ [last]) = front.flatMap (· ++ separator) ++ last := by
  induction front with
  | nil => simp
  | cons first rest ih =>
      have more : rest ++ [last] ≠ [] := by simp
      rw [List.cons_append, List.intercalate_cons_of_ne_nil more, ih, List.flatMap_cons]
      simp only [List.append_assoc]

theorem frontForm_encodeField (fields : List (List Char)) :
    FrontForm fields ((fields.map encodeField).flatMap (· ++ [','])) := by
  induction fields using List.reverseRecOn with
  | nil => exact .nil
  | append_singleton front last ih =>
      rw [List.map_append, List.flatMap_append]
      simpa using ih.snoc (fieldForm_encodeField last)

/-- A record has at least one field; an empty line would be read as one empty field. -/
theorem recordForm_encodeRecord {fields : List String} (notEmpty : fields ≠ []) :
    RecordForm (fields.map String.toList) (encodeRecord fields) := by
  rcases (List.eq_nil_or_concat fields).resolve_left notEmpty with ⟨front, last, split⟩
  rw [List.concat_eq_append] at split
  subst split
  have written := RecordForm.closed (frontForm_encodeField (front.map String.toList))
    (fieldForm_encodeField last.toList)
  rw [List.map_map] at written
  rw [encodeRecord, List.map_append, List.map_append, List.map_singleton, List.map_singleton,
    intercalate_concat]
  exact written

theorem encode_eq_flatMap (rows : List Row) :
    encode rows = (header :: rows.map fields).flatMap encodeRecord := by
  rw [encode, List.flatMap_cons, List.flatMap_map]

theorem fileForm_flatMap (records : List (List String))
    (notEmpty : ∀ record ∈ records, record ≠ []) :
    FileForm (records.map (·.map String.toList)) (records.flatMap encodeRecord) := by
  induction records using List.reverseRecOn with
  | nil => exact .nil
  | append_singleton front last ih =>
      have before := ih fun record member => notEmpty record (List.mem_append_left _ member)
      rw [List.map_append, List.flatMap_append]
      simpa using before.snoc (recordForm_encodeRecord (notEmpty last (by simp)))

theorem isFile_render (rows : List Row) : IsFile (header :: rows.map fields) (render rows) := by
  rw [IsFile, render, String.toList_ofList, encode_eq_flatMap]
  apply fileForm_flatMap
  intro record member
  rcases List.mem_cons.mp member with rfl | ofRow
  · simp [header]
  · rcases List.mem_map.mp ofRow with ⟨row, -, rfl⟩
    simp [fields]

/-- No two rows have the same fields, since a priority can be told from its digits. -/
theorem fields_injective : Function.Injective fields := by
  intro left right same
  rcases left with ⟨source, destination, ruleList, priority, operation⟩
  rcases right with ⟨source', destination', ruleList', priority', operation'⟩
  simp only [fields, List.cons.injEq, and_true] at same
  rcases same with ⟨rfl, rfl, rfl, digits, rfl⟩
  have samePriority : priority = priority' := Int32.toInt_inj.mp (Int.repr_inj.mp digits)
  rw [samePriority]

/-- Read as a file of comma-separated values, a table comes back field by field under its header, in
one way only, and no other table is written alike. -/
theorem render_lossless (rows : List Row) :
    read? (render rows) = some (header :: rows.map fields) ∧
      (∀ records, IsFile records (render rows) ↔ records = header :: rows.map fields) ∧
      ∀ others, render others = render rows → others = rows := by
  have written := isFile_render rows
  refine ⟨(read?_eq_some_iff _ _).mpr written, ?_, ?_⟩
  · intro records
    constructor
    · intro isFile
      exact isFile.unique written
    · rintro rfl
      exact written
  · intro others alike
    have writtenToo := isFile_render others
    rw [alike] at writtenToo
    exact fields_injective.list_map (List.cons.inj (writtenToo.unique written)).2

end StepFlow.Csv
