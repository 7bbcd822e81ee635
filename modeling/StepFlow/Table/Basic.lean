import StepFlow.Table.Finding

namespace StepFlow

structure Table where
  rows : List Row := []
  findings : List Finding := []
  deriving DecidableEq, Repr

/-- A finding that comes up for several rows is reported once. -/
def Flow.compile (flow : Flow) (priority : Priority) : Table :=
  let generated := flow.rows priority
  { rows := generated.map (·.row)
    findings := (flow.branchings ++ generated.flatMap flow.rowFindings).eraseDups }

namespace Table

def size (table : Table) : Nat := table.rows.length

def isEmpty (table : Table) : Bool := table.rows.isEmpty

end Table

namespace Row

/-- Rows of one key stand for the same transition in tables compiled at different times. -/
def key (row : Row) : String × String × String := (row.source, row.destination, row.ruleList)

def takeEdits (row edited : Row) : Row :=
  { row with priority := edited.priority, operation := edited.operation }

/-- Each row takes the edits of the first earlier row with its key that no row before it took. The
count says how many rows found one. -/
def carryEdits : (earlier rows : List Row) → List Row × Nat
  | _, [] => ([], 0)
  | earlier, row :: rows =>
      match earlier.find? (·.key = row.key) with
      | some edited =>
          let (carried, count) := carryEdits (earlier.eraseP (·.key = row.key)) rows
          (row.takeEdits edited :: carried, count + 1)
      | none =>
          let (carried, count) := carryEdits earlier rows
          (row :: carried, count)

end Row

def Table.carryEdits (table earlier : Table) : Table × Nat :=
  let (rows, count) := Row.carryEdits earlier.rows table.rows
  ({ table with rows }, count)

end StepFlow
