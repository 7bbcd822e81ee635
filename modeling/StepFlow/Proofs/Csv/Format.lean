import StepFlow.Csv

/-!
Comma-separated values in the sense of RFC 4180: records of one or more fields, each record closed
by a carriage return and a line feed, each field written as it is or between quotes. A reader that
goes through a file once, character by character, accepts exactly the files of this format and finds
in them the records they are made of (`read?_eq_some_iff`).
-/
namespace StepFlow.Csv

def Plain (c : Char) : Prop := c ≠ ',' ∧ c ≠ '"' ∧ c ≠ '\r' ∧ c ≠ '\n'

instance (c : Char) : Decidable (Plain c) := inferInstanceAs (Decidable (_ ∧ _))

def doubled (field : List Char) : List Char :=
  field.flatMap fun c => if c = '"' then ['"', '"'] else [c]

inductive FieldForm (field : List Char) : List Char → Prop
  | bare (plain : ∀ c ∈ field, Plain c) : FieldForm field field
  | quoted : FieldForm field ('"' :: doubled field ++ ['"'])

inductive FrontForm : List (List Char) → List Char → Prop
  | nil : FrontForm [] []
  | snoc {fields : List (List Char)} {front field form : List Char}
      (before : FrontForm fields front) (last : FieldForm field form) :
      FrontForm (fields ++ [field]) (front ++ form ++ [','])

inductive RecordForm : List (List Char) → List Char → Prop
  | closed {fields : List (List Char)} {front field form : List Char}
      (before : FrontForm fields front) (last : FieldForm field form) :
      RecordForm (fields ++ [field]) (front ++ form ++ ['\r', '\n'])

inductive FileForm : List (List (List Char)) → List Char → Prop
  | nil : FileForm [] []
  | snoc {records : List (List (List Char))} {file : List Char} {record : List (List Char)}
      {form : List Char} (before : FileForm records file) (last : RecordForm record form) :
      FileForm (records ++ [record]) (file ++ form)

def IsFile (records : List (List String)) (text : String) : Prop :=
  FileForm (records.map (·.map String.toList)) text.toList

/-- Where a reader stands: in front of a field, inside one without or with quotes, behind a quote
that ends the field unless a second one follows, or behind the return that ends a record. -/
inductive Spot
  | start
  | bare
  | quoted
  | quote
  | returned
  deriving DecidableEq, Repr

/-- A file read up to some character: its finished records, the finished fields of the next one, and
what there is of the field after these. -/
structure Reading where
  records : List (List (List Char)) := []
  fields : List (List Char) := []
  field : List Char := []
  spot : Spot := .start
  deriving DecidableEq, Repr

namespace Reading

def keep (reading : Reading) (c : Char) (spot : Spot) : Reading :=
  { reading with field := reading.field ++ [c], spot }

def endField (reading : Reading) (spot : Spot) : Reading :=
  { reading with fields := reading.fields ++ [reading.field], field := [], spot }

def endRecord (reading : Reading) : Reading := { records := reading.records ++ [reading.fields] }

def delimit (reading : Reading) (c : Char) : Option Reading :=
  if c = ',' then some (reading.endField .start)
  else if c = '\r' then some (reading.endField .returned)
  else none

def stepBare (reading : Reading) (c : Char) : Option Reading :=
  if Plain c then some (reading.keep c .bare) else reading.delimit c

def step (reading : Reading) (c : Char) : Option Reading :=
  match reading.spot with
  | .start => if c = '"' then some { reading with spot := .quoted } else reading.stepBare c
  | .bare => reading.stepBare c
  | .quoted =>
      if c = '"' then some { reading with spot := .quote } else some (reading.keep c .quoted)
  | .quote => if c = '"' then some (reading.keep c .quoted) else reading.delimit c
  | .returned => if c = '\n' then some reading.endRecord else none

def run (reading : Reading) (text : List Char) : Option Reading := text.foldlM step reading

def finish (reading : Reading) : Option (List (List (List Char))) :=
  if reading.fields = [] ∧ reading.spot = .start then some reading.records else none

end Reading

def read? (text : String) : Option (List (List String)) :=
  ((Reading.run {} text.toList).bind Reading.finish).map (·.map (·.map String.ofList))

theorem doubled_append (field more : List Char) :
    doubled (field ++ more) = doubled field ++ doubled more :=
  List.flatMap_append

namespace Reading

theorem run_append (reading : Reading) (text more : List Char) :
    reading.run (text ++ more) = (reading.run text).bind (·.run more) :=
  List.foldlM_append

theorem run_singleton (reading : Reading) (c : Char) : reading.run [c] = reading.step c := by
  rw [run, List.foldlM_cons]
  cases reading.step c <;> rfl

inductive Started : Spot → List Char → List Char → Prop
  | start : Started .start [] []
  | bare {field : List Char} (plain : ∀ c ∈ field, Plain c) : Started .bare field field
  | quoted (field : List Char) : Started .quoted field ('"' :: doubled field)
  | quote (field : List Char) : Started .quote field ('"' :: doubled field ++ ['"'])

inductive Spells : Reading → List Char → Prop
  | inField {records : List (List (List Char))} {fields : List (List Char)} {spot : Spot}
      {file front field form : List Char} (done : FileForm records file)
      (before : FrontForm fields front) (started : Started spot field form) :
      Spells ⟨records, fields, field, spot⟩ (file ++ (front ++ form))
  | returned {records : List (List (List Char))} {fields : List (List Char)}
      {file front field form : List Char} (done : FileForm records file)
      (before : FrontForm fields front) (last : FieldForm field form) :
      Spells ⟨records, fields ++ [field], [], .returned⟩ (file ++ (front ++ form ++ ['\r']))

section Sound

variable {records : List (List (List Char))} {fields : List (List Char)} {spot : Spot}
  {file front field form : List Char} {after : Reading} {c : Char}

theorem spells_delimit (done : FileForm records file) (before : FrontForm fields front)
    (last : FieldForm field form)
    (stepped : delimit ⟨records, fields, field, spot⟩ c = some after) :
    after.Spells (file ++ (front ++ form) ++ [c]) := by
  rw [delimit] at stepped
  split at stepped
  · rename_i comma
    cases stepped
    subst comma
    have started := Spells.inField done (before.snoc last) .start
    simpa [endField] using started
  · split at stepped
    · rename_i returns
      cases stepped
      subst returns
      simpa [endField] using Spells.returned done before last
    · cases stepped

theorem spells_stepBare (done : FileForm records file) (before : FrontForm fields front)
    (plain : ∀ c ∈ field, Plain c)
    (stepped : stepBare ⟨records, fields, field, spot⟩ c = some after) :
    after.Spells (file ++ (front ++ field) ++ [c]) := by
  rw [stepBare] at stepped
  split at stepped
  · rename_i plainToo
    cases stepped
    have longer : ∀ other ∈ field ++ [c], Plain other := by
      intro other member
      rcases List.mem_append.mp member with inside | last
      · exact plain other inside
      · rw [List.mem_singleton.mp last]
        exact plainToo
    simpa [keep] using Spells.inField done before (.bare longer)
  · exact spells_delimit done before (.bare plain) stepped

theorem doubled_quote (field : List Char) :
    doubled (field ++ ['"']) = doubled field ++ ['"', '"'] :=
  doubled_append field ['"']

theorem doubled_of_ne (field : List Char) (notQuote : c ≠ '"') :
    doubled (field ++ [c]) = doubled field ++ [c] := by
  rw [doubled_append]
  simp [doubled, notQuote]

theorem Spells.step {reading : Reading} {text : List Char} (spells : reading.Spells text)
    (stepped : reading.step c = some after) : after.Spells (text ++ [c]) := by
  cases spells with
  | @inField _ _ _ _ _ content _ done before started =>
      cases started with
      | start =>
          simp only [Reading.step] at stepped
          split at stepped
          · rename_i opened
            cases stepped
            subst opened
            simpa [doubled] using Spells.inField done before (.quoted [])
          · exact spells_stepBare done before (by simp) stepped
      | bare plain => exact spells_stepBare done before plain stepped
      | quoted =>
          simp only [Reading.step] at stepped
          split at stepped
          · rename_i closed
            cases stepped
            subst closed
            simpa using Spells.inField done before (.quote content)
          · rename_i notQuote
            cases stepped
            have longer := Spells.inField done before (.quoted (content ++ [c]))
            simpa [keep, doubled_of_ne content notQuote] using longer
      | quote =>
          simp only [Reading.step] at stepped
          split at stepped
          · rename_i again
            cases stepped
            subst again
            have longer := Spells.inField done before (.quoted (content ++ ['"']))
            simpa [keep, doubled_quote] using longer
          · exact spells_delimit done before .quoted stepped
  | returned done before last =>
      simp only [Reading.step] at stepped
      split at stepped
      · rename_i feeds
        cases stepped
        subst feeds
        have started := Spells.inField (done.snoc (.closed before last)) .nil .start
        simpa [endRecord] using started
      · cases stepped

theorem Spells.run {reading : Reading} {text : List Char} (spells : reading.Spells text)
    {more : List Char} (ran : reading.run more = some after) : after.Spells (text ++ more) := by
  induction more generalizing reading text with
  | nil =>
      cases ran
      rwa [List.append_nil]
  | cons c rest ih =>
      rw [← List.singleton_append, run_append, run_singleton] at ran
      rcases Option.bind_eq_some_iff.mp ran with ⟨next, stepped, onward⟩
      have result := ih (spells.step stepped) onward
      rwa [List.append_assoc, List.singleton_append] at result

theorem FrontForm.eq_nil (before : FrontForm fields front) (noFields : fields = []) :
    front = [] := by
  cases before with
  | nil => rfl
  | snoc => simp at noFields

theorem Spells.fileForm {reading : Reading} {text : List Char} (spells : reading.Spells text)
    (finished : reading.finish = some records) : FileForm records text := by
  rw [finish] at finished
  rcases Option.ite_none_right_eq_some.mp finished with ⟨⟨noFields, atStart⟩, same⟩
  cases spells with
  | inField done before started =>
      cases atStart
      cases started
      cases same
      rw [FrontForm.eq_nil before noFields]
      simpa using done
  | returned => cases atStart

end Sound

section Complete

variable (records : List (List (List Char))) (fields : List (List Char))

theorem run_bare (front : List Char) {content : List Char} (plain : ∀ c ∈ content, Plain c) :
    run ⟨records, fields, front, .bare⟩ content =
      some ⟨records, fields, front ++ content, .bare⟩ := by
  induction content generalizing front with
  | nil => rw [List.append_nil]; rfl
  | cons c rest ih =>
      have stepped : step ⟨records, fields, front, .bare⟩ c =
          some ⟨records, fields, front ++ [c], .bare⟩ := by
        simp [step, stepBare, keep, plain c List.mem_cons_self]
      rw [← List.singleton_append, run_append, run_singleton, stepped, Option.bind_some,
        ih _ fun other member => plain other (List.mem_cons_of_mem c member), List.append_assoc]

theorem run_doubled (front content : List Char) :
    run ⟨records, fields, front, .quoted⟩ (doubled content) =
      some ⟨records, fields, front ++ content, .quoted⟩ := by
  induction content generalizing front with
  | nil => rw [List.append_nil]; rfl
  | cons c rest ih =>
      have ran : run ⟨records, fields, front, .quoted⟩ (doubled [c]) =
          some ⟨records, fields, front ++ [c], .quoted⟩ := by
        by_cases isQuote : c = '"' <;> simp [run, doubled, step, keep, isQuote]
      rw [← List.singleton_append, doubled_append, run_append, ran, Option.bind_some, ih,
        List.append_assoc]

theorem run_field {content form : List Char} (written : FieldForm content form) :
    ∃ spot, (spot = .start ∨ spot = .bare ∨ spot = .quote) ∧
      run ⟨records, fields, [], .start⟩ form = some ⟨records, fields, content, spot⟩ := by
  cases written with
  | quoted =>
      have opened : step ⟨records, fields, [], .start⟩ '"' =
          some ⟨records, fields, [], .quoted⟩ := rfl
      have closed : step ⟨records, fields, content, .quoted⟩ '"' =
          some ⟨records, fields, content, .quote⟩ := rfl
      refine ⟨.quote, .inr (.inr rfl), ?_⟩
      rw [← List.singleton_append, List.append_assoc, run_append, run_singleton, opened,
        Option.bind_some, run_append, run_doubled, Option.bind_some, run_singleton,
        List.nil_append, closed]
  | bare plain =>
      cases content with
      | nil => exact ⟨.start, .inl rfl, rfl⟩
      | cons c rest =>
          have isPlain := plain c List.mem_cons_self
          have stepped : step ⟨records, fields, [], .start⟩ c =
              some ⟨records, fields, [c], .bare⟩ := by
            simp [step, stepBare, keep, isPlain, isPlain.2.1]
          refine ⟨.bare, .inr (.inl rfl), ?_⟩
          rw [← List.singleton_append, run_append, run_singleton, stepped, Option.bind_some,
            run_bare _ _ _ fun other member => plain other (List.mem_cons_of_mem c member)]

variable {fields}

theorem step_comma {content : List Char} {spot : Spot}
    (waits : spot = .start ∨ spot = .bare ∨ spot = .quote) :
    step ⟨records, fields, content, spot⟩ ',' =
      some ⟨records, fields ++ [content], [], .start⟩ := by
  rcases waits with rfl | rfl | rfl <;> rfl

theorem run_lineEnd {content : List Char} {spot : Spot}
    (waits : spot = .start ∨ spot = .bare ∨ spot = .quote) :
    run ⟨records, fields, content, spot⟩ ['\r', '\n'] =
      some { records := records ++ [fields ++ [content]] } := by
  rcases waits with rfl | rfl | rfl <;> rfl

theorem run_front {front : List Char} (written : FrontForm fields front) :
    run { records } front = some ⟨records, fields, [], .start⟩ := by
  induction written with
  | nil => rfl
  | @snoc fields front content form _ last ih =>
      rcases run_field records fields last with ⟨spot, waits, ran⟩
      rw [run_append, run_append, ih, Option.bind_some, ran, Option.bind_some, run_singleton,
        step_comma records waits]

theorem run_record {record : List (List Char)} {form : List Char}
    (written : RecordForm record form) :
    run { records } form = some { records := records ++ [record] } := by
  cases written with
  | @closed fields _ content _ before last =>
      rcases run_field records fields last with ⟨spot, waits, ran⟩
      rw [run_append, run_append, run_front records before, Option.bind_some, ran,
        Option.bind_some, run_lineEnd records waits]

variable {records}

theorem run_file {file : List Char} (written : FileForm records file) :
    run {} file = some { records } := by
  induction written with
  | nil => rfl
  | snoc _ last ih => rw [run_append, ih, Option.bind_some, run_record _ last]

end Complete

theorem run_finish_eq_some_iff (records : List (List (List Char))) (text : List Char) :
    (run {} text).bind finish = some records ↔ FileForm records text := by
  constructor
  · intro read
    rcases Option.bind_eq_some_iff.mp read with ⟨reading, ran, finished⟩
    have spells := (Spells.inField .nil .nil .start).run ran
    exact spells.fileForm finished
  · intro written
    rw [run_file written]
    rfl

end Reading

theorem read?_eq_some_iff (text : String) (records : List (List String)) :
    read? text = some records ↔ IsFile records text := by
  rw [IsFile, ← Reading.run_finish_eq_some_iff, read?, Option.map_eq_some_iff]
  have there : (fun record : List (List Char) => record.map String.ofList) ∘
      (fun record : List String => record.map String.toList) = id := by
    funext record
    simp [Function.comp_def]
  have back : (fun record : List String => record.map String.toList) ∘
      (fun record : List (List Char) => record.map String.ofList) = id := by
    funext record
    simp [Function.comp_def]
  constructor
  · rintro ⟨found, read, rfl⟩
    rw [read, List.map_map, back, List.map_id]
  · intro read
    exact ⟨_, read, by rw [List.map_map, there, List.map_id]⟩

example : read? "a,\"b\"\"\r\nc\"\r\n,\r\n" = some [["a", "b\"\r\nc"], ["", ""]] := by
  decide +kernel

example : read? "a\"b\r\n" = none := by decide +kernel

theorem IsFile.unique {text : String} {records others : List (List String)}
    (left : IsFile records text) (right : IsFile others text) : records = others := by
  rw [← read?_eq_some_iff] at left right
  exact Option.some.inj (left.symm.trans right)

end StepFlow.Csv
