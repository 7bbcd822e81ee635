import StepFlow.Table.Row

namespace StepFlow.Csv

def header : List String :=
  ["Source Node", "Destination Node", "Rule List", "Priority", "Operation / Edge Effect"]

def needsQuotes (field : List Char) : Bool :=
  field.any fun c => c = ',' || c = '"' || c = '\r' || c = '\n'

def encodeField (field : List Char) : List Char :=
  if needsQuotes field then
    '"' :: field.flatMap (fun c => if c = '"' then ['"', '"'] else [c]) ++ ['"']
  else field

def encodeRecord (fields : List String) : List Char :=
  [','].intercalate (fields.map fun field => encodeField field.toList) ++ ['\r', '\n']

def fields (row : Row) : List String :=
  [row.source, row.destination, row.ruleList, toString row.priority.toInt, row.operation]

def encode (rows : List Row) : List Char :=
  encodeRecord header ++ rows.flatMap fun row => encodeRecord (fields row)

def render (rows : List Row) : String := String.ofList (encode rows)

/-- A file in the making. The header comes first, before the first row at the latest, and only
once. -/
structure Writer where
  written : List Char := []
  headed : Bool := false
  deriving DecidableEq, Repr

inductive Call
  | header
  | row (row : Row)
  | rows (rows : List Row)
  deriving DecidableEq, Repr

namespace Writer

def putHeader (writer : Writer) : Writer :=
  if writer.headed then writer
  else { written := writer.written ++ encodeRecord header, headed := true }

def putRow (writer : Writer) (row : Row) : Writer :=
  let headed := writer.putHeader
  { headed with written := headed.written ++ encodeRecord (fields row) }

def putRows (writer : Writer) (rows : List Row) : Writer := rows.foldl putRow writer.putHeader

def perform (writer : Writer) : Call → Writer
  | .header => writer.putHeader
  | .row row => writer.putRow row
  | .rows rows => writer.putRows rows

end Writer

def write (calls : List Call) : String :=
  String.ofList (calls.foldl Writer.perform {}).written

end StepFlow.Csv
