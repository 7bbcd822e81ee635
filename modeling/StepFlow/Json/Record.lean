import StepFlow.Json.Value
import StepFlow.TextMap

/-!
Typed values in JSON. A record is written as an object with one member per field, and is read from
such an object or from an array of the fields' values in order. Null stands only for an optional
value that is not there.
-/
namespace StepFlow.Json

def text? : Json → Option String
  | text value => some value
  | _ => none

def list? {α : Type} (read : Json → Option α) : Json → Option (List α)
  | array items => items.mapM read
  | _ => none

def optional? {α : Type} (read : Json → Option α) : Json → Option (Option α)
  | null => some none
  | value => (read value).map some

def integer? : Json → Option Int
  | integer value => some value
  | _ => none

def entries? {α : Type} (read : Json → Option α) : Json → Option (List (String × α))
  | object members => members.mapM fun member => (read member.2).map fun value => (member.1, value)
  | _ => none

def map? {α : Type} (read : Json → Option α) (json : Json) : Option (TextMap α) :=
  (json.entries? read).map TextMap.ofList

def word? : Json → Option String
  | text value => some value
  | object [(key, null)] => some key
  | _ => none

def ofTexts (texts : List String) : Json := array (texts.map text)

def ofOption {α : Type} (write : α → Json) (value : Option α) : Json := (value.map write).getD null

def ofEntries {α : Type} (write : α → Json) (entries : List (String × α)) : Json :=
  object (entries.map fun (key, value) => (key, write value))

def ofMap {α : Type} (write : α → Json) (map : TextMap α) : Json := ofEntries write map.entries

abbrev FieldNames := List String

/-- The value of the one member with one of the names. Two such members are an error. -/
def member? (members : List (String × Json)) (names : FieldNames) : Option (Option Json) :=
  match members.filter (·.1 ∈ names) with
  | [] => some none
  | [(_, value)] => some (some value)
  | _ => none

/-- What is given for each field. Members with other keys are passed over, and fields that an array
is too short for are missing. -/
def fieldValues? (fields : List FieldNames) : Json → Option (List (Option Json))
  | object members => fields.mapM (member? members)
  | array items =>
      if items.length ≤ fields.length then
        some (items.map some ++ List.replicate (fields.length - items.length) none)
      else none
  | _ => none

abbrev FieldReader := StateT (List (Option Json)) Option

namespace FieldReader

def next : FieldReader (Option Json) := fun values =>
  match values with
  | value :: rest => some (value, rest)
  | [] => none

def required {α : Type} (read : Json → Option α) : FieldReader α := do
  match ← next with
  | some value => StateT.lift (read value)
  | none => StateT.lift none

def withDefault {α : Type} (default : α) (read : Json → Option α) : FieldReader α := do
  match ← next with
  | some value => StateT.lift (read value)
  | none => pure default

end FieldReader

def record? {α : Type} (fields : List FieldNames) (reader : FieldReader α) (json : Json) :
    Option α := do
  return (← reader.run (← fieldValues? fields json)).1

end StepFlow.Json
