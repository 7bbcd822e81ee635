import StepFlow.Proofs.Csv.Render

namespace StepFlow.Csv

def Call.passed : Call → List Row
  | .header => []
  | .row given => [given]
  | .rows given => given

namespace Writer

def ofRows (rows : List Row) : Writer := { written := encode rows, headed := true }

/-- What the writer was given so far are these rows. Its header may be due yet if there are none. -/
def Holds (writer : Writer) (rows : List Row) : Prop := writer.putHeader = ofRows rows

theorem holds_new : Holds {} [] := rfl

theorem holds_ofRows (rows : List Row) : Holds (ofRows rows) rows := rfl

theorem ofRows_append (rows : List Row) (row : Row) : ofRows (rows ++ [row]) =
    { ofRows rows with written := (ofRows rows).written ++ encodeRecord (fields row) } := by
  simp [ofRows, encode]

theorem Holds.putRow_eq {writer : Writer} {rows : List Row} (holds : writer.Holds rows)
    (row : Row) : writer.putRow row = ofRows (rows ++ [row]) := by
  rw [putRow, holds, ofRows_append]

theorem foldl_putRow_ofRows (rows more : List Row) :
    more.foldl putRow (ofRows rows) = ofRows (rows ++ more) := by
  induction more generalizing rows with
  | nil => rw [List.foldl_nil, List.append_nil]
  | cons row rest ih =>
      rw [List.foldl_cons, (holds_ofRows rows).putRow_eq, ih, List.append_assoc,
        List.singleton_append]

theorem Holds.perform_eq {writer : Writer} {rows : List Row} (holds : writer.Holds rows)
    (call : Call) : writer.perform call = ofRows (rows ++ call.passed) := by
  cases call with
  | header => rw [perform, holds, Call.passed, List.append_nil]
  | row row => exact holds.putRow_eq row
  | rows more => rw [perform, putRows, holds, foldl_putRow_ofRows, Call.passed]

theorem foldl_perform_ofRows (rows : List Row) (calls : List Call) :
    calls.foldl perform (ofRows rows) = ofRows (rows ++ calls.flatMap Call.passed) := by
  induction calls generalizing rows with
  | nil => rw [List.foldl_nil, List.flatMap_nil, List.append_nil]
  | cons first rest ih =>
      rw [List.foldl_cons, (holds_ofRows rows).perform_eq, ih, List.flatMap_cons,
        List.append_assoc]

end Writer

theorem write_eq (calls : List Call) :
    write calls = if calls = [] then "" else render (calls.flatMap Call.passed) := by
  cases calls with
  | nil => rfl
  | cons first rest =>
      rw [write, List.foldl_cons, Writer.holds_new.perform_eq, Writer.foldl_perform_ofRows,
        if_neg (List.cons_ne_nil first rest)]
      rfl

theorem digit_or_minus_of_mem_repr {value : Int} {c : Char} (member : c ∈ value.repr.toList) :
    c = '-' ∨ c.isDigit = true := by
  have digit : ∀ size : Nat, c ∈ size.repr.toList → c.isDigit = true := by
    intro size inDigits
    rw [Nat.repr_eq_ofList_toDigits, String.toList_ofList] at inDigits
    exact Nat.isDigit_of_mem_toDigits (by decide) (by decide) inDigits
  rw [Int.repr_eq_if] at member
  split at member
  · exact .inr (digit _ member)
  · rw [String.toList_append, List.mem_append] at member
    rcases member with sign | inDigits
    · exact .inl (List.mem_singleton.mp sign)
    · exact .inr (digit _ inDigits)

/-- The priority of a row is a number, and the title of its column is not. -/
theorem header_not_mem_map_fields (rows : List Row) : header ∉ rows.map fields := by
  intro member
  rcases List.mem_map.mp member with ⟨row, -, same⟩
  have digits : row.priority.toInt.repr = "Priority" := by
    simp only [fields, header, List.cons.injEq] at same
    exact same.2.2.2.1
  have letter : 'P' ∈ row.priority.toInt.repr.toList := by
    rw [digits]
    decide
  exact absurd (digit_or_minus_of_mem_repr letter) (by decide)

/-- Whatever the calls, what a writer has written is nothing as long as there was none, and then the
table of all rows that came with them, in order. Its first record is the header, which no other one
is. -/
theorem write_batched (calls : List Call) :
    write calls = (if calls = [] then "" else render (calls.flatMap Call.passed)) ∧
      read? (write calls) =
        some (if calls = [] then [] else header :: (calls.flatMap Call.passed).map fields) ∧
      header ∉ (calls.flatMap Call.passed).map fields := by
  refine ⟨write_eq calls, ?_, header_not_mem_map_fields _⟩
  rw [write_eq, read?_eq_some_iff]
  cases calls with
  | nil => exact .nil
  | cons first rest => exact isFile_render _

end StepFlow.Csv
