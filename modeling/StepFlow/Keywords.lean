import StepFlow.Step
import StepFlow.Text.Blank
import StepFlow.Text.LowerCase

namespace StepFlow

structure Keywords where
  rule : List String
  behavior : List String
  deriving DecidableEq, Repr

inductive KeywordError
  | malformed
  | emptyEntry (role : Role)
  deriving DecidableEq, Repr

def KeywordError.message : KeywordError → String
  | malformed => "Failed to parse keyword configuration JSON"
  | emptyEntry role => s!"The {role.word} keyword list contains an empty entry"

namespace Keywords

def standard : Keywords where
  rule := ["is", "does", "valid", "invalid", "has", "can", "should", "verify", "check", "validate"]
  behavior := ["click", "enter", "submit", "select", "choose", "provide", "answer", "upload"]

instance : Inhabited Keywords := ⟨standard⟩

def normalWord (word : String) : String := String.ofList (Text.lower (Text.trim word.toList))

def normalList (role : Role) (words : List String) : Except KeywordError (List String) :=
  let normal := words.map normalWord
  if "" ∈ normal then .error (.emptyEntry role) else .ok normal.eraseDups

/-- Only the rule list is named if both hold an empty entry. -/
def ofLists (rule behavior : List String) : Except KeywordError Keywords := do
  return { rule := ← normalList .rule rule, behavior := ← normalList .behavior behavior }

end Keywords

end StepFlow
