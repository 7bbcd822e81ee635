import StepFlow.Command.Options
import StepFlow.Csv
import StepFlow.Diagram
import StepFlow.Dictionary.Json
import StepFlow.Files
import StepFlow.Keywords.Json

/-!
The command line: reads a diagram, compiles it and writes the table. A run uses files and output
only through its host, so that it runs on a folder in memory as it does on real files.
-/
namespace StepFlow

structure Host (m : Type → Type) extends Files m where
  print : String → m Unit
  report : String → m Unit

namespace Command

inductive Failure
  | diagramFile (path : String) (fault : FileFault)
  | diagramText
  | diagramContent (error : ImportError)
  | keywordsFile (path : String) (fault : FileFault)
  | keywordsText (path : String) (error : KeywordError)
  | dictionaryFile (path : String) (fault : FileFault)
  | dictionaryText (path : String)
  | tableFile (path : String) (fault : FileFault)
  | emittedFile (path : String) (fault : FileFault)
  deriving DecidableEq, Repr

def Failure.message : Failure → String
  | diagramFile path fault => s!"Failed to read diagram file '{path}': {fault.message}"
  | diagramText => "Failed to parse diagram JSON"
  | diagramContent error => s!"Failed to import diagram: {error.message}"
  | keywordsFile path fault => s!"Failed to load keywords from '{path}': {fault.message}"
  | keywordsText path error => s!"Failed to load keywords from '{path}': {error.message}"
  | dictionaryFile path fault => s!"Failed to load dictionary '{path}': {fault.message}"
  | dictionaryText path =>
      s!"Failed to load dictionary '{path}': Failed to parse dictionary JSON"
  | tableFile path fault => s!"Failed to write CSV to '{path}': {fault.message}"
  | emittedFile path fault => s!"Failed to write '{path}': {fault.message}"

variable {m : Type → Type} [Monad m]

def textOf (bytes : Bytes) : Except FileFault String :=
  match Text.textOfUtf8? bytes with
  | some text => .ok (String.ofList text)
  | none => .error .notText

def readText (host : Host m) (path : String) (failure : String → FileFault → Failure) :
    ExceptT Failure m String :=
  ExceptT.mk do return ((← host.read path).bind textOf).mapError (failure path)

def writeText (host : Host m) (path text : String) (failure : String → FileFault → Failure) :
    ExceptT Failure m Unit :=
  ExceptT.mk do return (← host.write path (Text.encodeUtf8 text.toList)).mapError (failure path)

def importDiagram (host : Host m) (path : String) : ExceptT Failure m Project := do
  let text ← readText host path .diagramFile
  let some diagram := Diagram.parse? text | throw .diagramText
  MonadExcept.ofExcept (diagram.toProject.mapError .diagramContent)

def loadKeywords (host : Host m) (path : String) : ExceptT Failure m Keywords := do
  let text ← readText host path .keywordsFile
  MonadExcept.ofExcept ((Keywords.parse text).mapError (.keywordsText path))

def loadDictionary (host : Host m) (path : String) : ExceptT Failure m Dictionary := do
  let text ← readText host path .dictionaryFile
  let some dictionary := Dictionary.parse? text | throw (.dictionaryText path)
  return dictionary

def applyKeywords (host : Host m) (project : Project) : Option String → ExceptT Failure m Project
  | none => return project
  | some path => do
      let keywords ← loadKeywords host path
      return ({ project with keywords } : Project).reclassify.regenerate

def dictionaryOr (host : Host m) (current : Dictionary) : Option String → ExceptT Failure m Dictionary
  | none => return current
  | some path => loadDictionary host path

def prepare (host : Host m) (options : Options) : ExceptT Failure m Project := do
  let project ← importDiagram host options.diagram
  let project ← applyKeywords host project options.keywords
  let state ← dictionaryOr host project.dictionaries.state options.stateDictionary
  let rule ← dictionaryOr host project.dictionaries.rule options.ruleDictionary
  return { project with dictionaries := { state, rule } }

/-- A text, last character first, without its endings in `.csv`. -/
def stripEndings : List Char → List Char
  | 'v' :: 's' :: 'c' :: '.' :: rest => stripEndings rest
  | rest => rest

def stemOf (path : String) : String := String.ofList (stripEndings path.toList.reverse).reverse

def emitDictionary (host : Host m) (output word : String) (dictionary : Dictionary) :
    ExceptT Failure m Unit := do
  let path := s!"{stemOf output}.{word}-dictionary.json"
  writeText host path dictionary.render .emittedFile
  host.report s!"  -> Wrote {word} dictionary to '{path}'\n"

def writeTable (host : Host m) (options : Options) (project : Project) (table : Table) :
    ExceptT Failure m Unit := do
  let csv := Csv.render table.rows
  match options.output with
  | none => host.print csv
  | some path =>
      writeText host path csv .tableFile
      if options.emitDictionaries then
        emitDictionary host path "state" project.dictionaries.state
        emitDictionary host path "rule" project.dictionaries.rule

def summary (project : Project) (table : Table) : String :=
  "\n--- Diagram Summary ---\n" ++
  s!"Steps:        {project.graph.size}\n" ++
  s!"Connections:  {project.graph.connections.length}\n" ++
  s!"Rows:         {table.size}\n" ++
  s!"Diagnostics:  {table.findings.length}\n" ++
  String.join (table.findings.map fun finding => s!"  -> {finding.message}\n")

def compileDiagram (host : Host m) (options : Options) : ExceptT Failure m Unit := do
  let project ← prepare host options
  let table := project.compileWith options.priority
  writeTable host options project table
  host.report (summary project table)

def run (host : Host m) (arguments : List String) : m UInt32 := do
  match Options.parse? arguments with
  | none => return 2
  | some options =>
      match ← (compileDiagram host options).run with
      | .ok () => return 0
      | .error failure =>
          host.report s!"\nError: {failure.message}\n"
          return 1

end Command

end StepFlow
