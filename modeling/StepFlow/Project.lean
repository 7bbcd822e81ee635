import StepFlow.Graph.Load
import StepFlow.Table.Basic

/-!
Projects: a flow that is edited over time, with the keywords by which its steps are classified.
Roles and dictionaries belong to the user; they follow the graph only when asked to.
-/
namespace StepFlow

structure Project extends Flow where
  keywords : Keywords := .standard
  deriving DecidableEq, Repr

inductive ImportError
  | unknownRole (word : String)
  | unknownOutcome (word : String)
  | keywords (error : KeywordError)
  | graph (error : GraphError)
  deriving DecidableEq, Repr

def ImportError.message : ImportError → String
  | unknownRole word => s!"Invalid diagram data: Unknown step type '{word}'"
  | unknownOutcome word => s!"Invalid diagram data: Unknown connection type '{word}'"
  | keywords error => s!"Invalid diagram data: {error.message}"
  | graph error => s!"Diagram describes an inconsistent graph: {error.message}"

namespace Project

instance : Inhabited Project := ⟨{}⟩

def ofGraph (graph : Graph) (keywords : Keywords) : Project :=
  { Flow.complete graph keywords none none with keywords }

def ofParts (steps : List Step) (connections : List Connection) (keywords : Keywords) :
    Except GraphError Project :=
  (Graph.ofParts steps connections).map (ofGraph · keywords)

def reclassify (project : Project) : Project :=
  { project with roles := Roles.classify project.keywords project.graph }

def regenerate (project : Project) : Project :=
  { project with dictionaries := Dictionaries.defaults project.graph project.roles }

def mergeDefaults (project : Project) : Project × Nat :=
  let (dictionaries, added) := project.dictionaries.mergeDefaults project.graph project.roles
  ({ project with dictionaries }, added)

/-- Brings roles and dictionaries up to date with the graph and keeps what the user changed: roles
of removed steps go, new steps are classified, and names without a label get one. -/
def sync (project : Project) : Project :=
  let roles := (project.roles.restrict project.graph).fill project.keywords project.graph
  (mergeDefaults { project with roles }).1

def staleKeys (project : Project) : StaleKeys :=
  project.dictionaries.staleKeys project.graph project.roles

def completed (project : Project) : Flow :=
  .complete project.graph project.keywords (some project.roles) (some project.dictionaries)

def compileWith (project : Project) (priority : Priority) : Table :=
  project.completed.compile priority

def compile (project : Project) : Table := project.compileWith .standard

end Project

end StepFlow
