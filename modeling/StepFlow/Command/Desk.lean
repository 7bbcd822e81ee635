import StepFlow.Command.Run
import StepFlow.Folder

namespace StepFlow.Command

structure Desk where
  folder : Folder
  printed : String := ""
  reported : String := ""
  deriving DecidableEq, Repr

def Desk.host : Host (StateM Desk) where
  read path := return (← get).folder.read path
  write path content := do
    match (← get).folder.write path content with
    | .ok folder => modify ({ · with folder }); return .ok ()
    | .error fault => return .error fault
  print text := modify fun desk => { desk with printed := desk.printed ++ text }
  report text := modify fun desk => { desk with reported := desk.reported ++ text }

def runOn (folder : Folder) (arguments : List String) : UInt32 × Desk :=
  (run Desk.host arguments).run { folder }

end StepFlow.Command
