import StepFlow.Command.Run

namespace StepFlow.Command

/-- The code of a fault comes with either sign. -/
def isCode (number code : UInt32) : Bool := code = number || code = 0 - number

def faultOf : IO.Error → FileFault
  | .noFileOrDirectory .. => .notFound
  | .permissionDenied .. => .permissionDenied
  | .inappropriateType _ code _ => if isCode 20 code then .notDirectory else .isDirectory
  | .invalidArgument name code details =>
      if isCode 36 code then .nameTooLong
      else if isCode 22 code then .nulInName
      else .other (IO.Error.invalidArgument name code details).toString
  | error => .other error.toString

def attempt {α : Type} (action : IO α) : IO (Except FileFault α) := do
  return (← action.toBaseIO).mapError faultOf

def machine : Host IO where
  read path := attempt do return (← IO.FS.readBinFile path).toList
  write path content := attempt (IO.FS.writeBinFile path ⟨content.toArray⟩)
  print := IO.print
  report := IO.eprint

end StepFlow.Command

def main (arguments : List String) : IO UInt32 :=
  StepFlow.Command.run StepFlow.Command.machine arguments
