import StepFlow.Command.Desk
import StepFlow.Proofs.Folder
import StepFlow.Proofs.Text.Utf8

/-!
Runs on a desk. All files are read before any is written: what is read comes to a project that hangs
on the content of the files named in the options alone, and it leaves the desk as it is
(`ReadsOnly`). Then the files of `outputFiles` are written one after the other, and the run succeeds
if there is a place for each of them (`runOn_eq_zero_iff`).
-/
namespace StepFlow.Command

variable {α β : Type} {desk after : Desk}

def Leads (desk : Desk) (action : ExceptT Failure (StateM Desk) α) (value : α) (after : Desk) :
    Prop :=
  action.run.run desk = (.ok value, after)

def Finds (desk : Desk) (action : ExceptT Failure (StateM Desk) α) (value : α) : Prop :=
  action.run.run desk = (.ok value, desk)

theorem leads_bind_iff {action : ExceptT Failure (StateM Desk) α}
    {next : α → ExceptT Failure (StateM Desk) β} {result : β} :
    Leads desk (action >>= next) result after ↔
      ∃ value middle, Leads desk action value middle ∧ Leads middle (next value) result after := by
  have unfolded : (action >>= next).run.run desk =
      (ExceptT.bindCont next (action.run.run desk).1).run (action.run.run desk).2 := rfl
  rw [Leads, unfolded]
  rcases given : action.run.run desk with ⟨outcome, middle⟩
  cases outcome with
  | error failure =>
      constructor
      · intro impossible
        cases impossible
      · rintro ⟨value, middle, led, -⟩
        cases given.symm.trans led
  | ok value =>
      constructor
      · exact fun led => ⟨value, middle, given, led⟩
      · rintro ⟨valueToo, middleToo, led, ledOn⟩
        cases given.symm.trans led
        exact ledOn

theorem Finds.bind {action : ExceptT Failure (StateM Desk) α} {value : α}
    {next : α → ExceptT Failure (StateM Desk) β} {result : β} (found : Finds desk action value)
    (foundNext : Finds desk (next value) result) : Finds desk (action >>= next) result :=
  leads_bind_iff.mpr ⟨value, desk, found, foundNext⟩

section Reading

theorem finds_readText_iff {path text : String} {failure : String → FileFault → Failure} :
    Finds desk (readText Desk.host path failure) text ↔
      ∃ content, desk.folder.read path = .ok content ∧ textOf content = .ok text := by
  have pair : Finds desk (readText Desk.host path failure) text ↔
      (((desk.folder.read path).bind textOf).mapError (failure path), desk) = (.ok text, desk) :=
    Iff.rfl
  rw [pair, Prod.mk.injEq, and_iff_left rfl, mapError_eq_ok_iff]
  exact bind_eq_ok_iff

theorem textOf_encodeUtf8 (text : String) : textOf (Text.encodeUtf8 text.toList) = .ok text := by
  simp [textOf]

theorem finds_readText {path text : String} (failure : String → FileFault → Failure)
    (holds : desk.folder.read path = .ok (Text.encodeUtf8 text.toList)) :
    Finds desk (readText Desk.host path failure) text :=
  finds_readText_iff.mpr ⟨_, holds, textOf_encodeUtf8 text⟩

/-- Whatever the desk, the action leaves it as it is, and what it finds it also finds on a desk
where the listed files can be read and have the same content. -/
structure ReadsOnly (paths : List String) (action : ExceptT Failure (StateM Desk) α) : Prop where
  keeps : ∀ {desk value after}, Leads desk action value after → after = desk
  finds : ∀ {desk other value}, Finds desk action value →
    (∀ path ∈ paths, ∀ content, desk.folder.read path = .ok content →
      other.folder.read path = .ok content) → Finds other action value

namespace ReadsOnly

variable {paths more : List String}

theorem ofExcept (outcome : Except Failure α) :
    ReadsOnly [] (MonadExcept.ofExcept outcome : ExceptT Failure (StateM Desk) α) where
  keeps := by
    intro desk value after led
    cases outcome with
    | error failure => cases led
    | ok value => cases led; rfl
  finds := by
    intro desk other value found _
    cases outcome with
    | error failure => cases found
    | ok value => cases found; rfl

theorem pure (value : α) : ReadsOnly [] (pure value) := ofExcept (.ok value)

theorem throw (failure : Failure) :
    ReadsOnly [] (throw failure : ExceptT Failure (StateM Desk) α) :=
  ofExcept (.error failure)

theorem readText (path : String) (failure : String → FileFault → Failure) :
    ReadsOnly [path] (readText Desk.host path failure) where
  keeps := by
    intro desk value after led
    exact (congrArg Prod.snd led).symm
  finds := by
    intro desk other value found same
    rcases finds_readText_iff.mp found with ⟨content, holds, spells⟩
    exact finds_readText_iff.mpr ⟨content, same path List.mem_cons_self content holds, spells⟩

theorem finds_bind_iff {action : ExceptT Failure (StateM Desk) α}
    {next : α → ExceptT Failure (StateM Desk) β} {result : β} (first : ReadsOnly paths action) :
    Finds desk (action >>= next) result ↔
      ∃ value, Finds desk action value ∧ Finds desk (next value) result := by
  constructor
  · intro found
    rcases leads_bind_iff.mp found with ⟨value, middle, led, ledOn⟩
    obtain rfl := first.keeps led
    exact ⟨value, led, ledOn⟩
  · rintro ⟨value, found, foundNext⟩
    exact found.bind foundNext

theorem bind {action : ExceptT Failure (StateM Desk) α}
    {next : α → ExceptT Failure (StateM Desk) β} (first : ReadsOnly paths action)
    (second : ∀ value, ReadsOnly more (next value)) :
    ReadsOnly (paths ++ more) (action >>= next) where
  keeps := by
    intro desk result after led
    rcases leads_bind_iff.mp led with ⟨value, middle, ledFirst, ledSecond⟩
    obtain rfl := first.keeps ledFirst
    exact (second value).keeps ledSecond
  finds := by
    intro desk other result found same
    rcases first.finds_bind_iff.mp found with ⟨value, foundFirst, foundSecond⟩
    refine (first.finds foundFirst fun path member => ?_).bind
      ((second value).finds foundSecond fun path member => ?_)
    · exact same path (List.mem_append_left _ member)
    · exact same path (List.mem_append_right _ member)

theorem importDiagram (path : String) : ReadsOnly [path] (importDiagram Desk.host path) := by
  refine (readText path .diagramFile).bind fun text => ?_
  cases Diagram.parse? text with
  | none => exact throw .diagramText
  | some diagram => exact ofExcept _

theorem loadKeywords (path : String) : ReadsOnly [path] (loadKeywords Desk.host path) :=
  (readText path .keywordsFile).bind fun _ => ofExcept _

theorem loadDictionary (path : String) : ReadsOnly [path] (loadDictionary Desk.host path) := by
  refine (readText path .dictionaryFile).bind fun text => ?_
  cases Dictionary.parse? text with
  | none => exact throw (.dictionaryText path)
  | some dictionary => exact pure dictionary

theorem applyKeywords (project : Project) (path : Option String) :
    ReadsOnly path.toList (applyKeywords Desk.host project path) := by
  cases path with
  | none => exact pure project
  | some path => exact (loadKeywords path).bind fun keywords => pure _

theorem dictionaryOr (current : Dictionary) (path : Option String) :
    ReadsOnly path.toList (dictionaryOr Desk.host current path) := by
  cases path with
  | none => exact pure current
  | some path => exact loadDictionary path

theorem prepare (options : Options) : ReadsOnly (options.diagram :: (options.keywords.toList ++
    (options.stateDictionary.toList ++ (options.ruleDictionary.toList ++ []))))
    (prepare Desk.host options) :=
  (importDiagram options.diagram).bind fun imported =>
    (applyKeywords imported options.keywords).bind fun derived =>
      (dictionaryOr derived.dictionaries.state options.stateDictionary).bind fun _ =>
        (dictionaryOr derived.dictionaries.rule options.ruleDictionary).bind fun _ => pure _

end ReadsOnly

theorem finds_prepare_iff {options : Options} {project : Project} :
    Finds desk (prepare Desk.host options) project ↔ ∃ imported derived,
      Finds desk (importDiagram Desk.host options.diagram) imported ∧
      Finds desk (applyKeywords Desk.host imported options.keywords) derived ∧
      Finds desk (dictionaryOr Desk.host derived.dictionaries.state options.stateDictionary)
        project.dictionaries.state ∧
      Finds desk (dictionaryOr Desk.host derived.dictionaries.rule options.ruleDictionary)
        project.dictionaries.rule ∧
      project = { derived with dictionaries := project.dictionaries } := by
  constructor
  · intro prepared
    rcases (ReadsOnly.importDiagram _).finds_bind_iff.mp prepared with ⟨imported, found, prepared⟩
    rcases (ReadsOnly.applyKeywords _ _).finds_bind_iff.mp prepared with
      ⟨derived, foundDerived, prepared⟩
    rcases (ReadsOnly.dictionaryOr _ _).finds_bind_iff.mp prepared with
      ⟨state, foundState, prepared⟩
    rcases (ReadsOnly.dictionaryOr _ _).finds_bind_iff.mp prepared with ⟨rule, foundRule, prepared⟩
    cases prepared
    exact ⟨imported, derived, found, foundDerived, foundState, foundRule, rfl⟩
  · rintro ⟨imported, derived, found, foundDerived, foundState, foundRule, whole⟩
    refine found.bind (foundDerived.bind (foundState.bind (foundRule.bind ?_)))
    rw [whole]
    rfl

end Reading

section Writing

def emittedPath (output word : String) : String := s!"{stemOf output}.{word}-dictionary.json"

theorem run_write (path : String) (content : Bytes) : (Desk.host.write path content).run desk =
    match desk.folder.write path content with
    | .ok folder => (.ok (), { desk with folder })
    | .error fault => (.error fault, desk) := by
  show (match desk.folder.write path content with
    | .ok folder => (do modify ({ · with folder }); return .ok ())
    | .error fault => return .error fault : StateM Desk (Except FileFault Unit)).run desk = _
  cases desk.folder.write path content <;> rfl

theorem leads_writeText_iff {path text : String} {failure : String → FileFault → Failure}
    {done : Unit} : Leads desk (writeText Desk.host path text failure) done after ↔
      ∃ folder, desk.folder.write path (Text.encodeUtf8 text.toList) = .ok folder ∧
        { desk with folder } = after := by
  have pair : (writeText Desk.host path text failure).run.run desk =
      (((Desk.host.write path (Text.encodeUtf8 text.toList)).run desk).1.mapError (failure path),
        ((Desk.host.write path (Text.encodeUtf8 text.toList)).run desk).2) := rfl
  rw [Leads, pair, run_write]
  cases desk.folder.write path (Text.encodeUtf8 text.toList) with
  | error fault => exact ⟨nofun, nofun⟩
  | ok folder =>
      constructor
      · intro led
        cases led
        exact ⟨folder, rfl, rfl⟩
      · rintro ⟨_, ⟨⟩, rfl⟩
        rfl

def emittedNote (output word : String) : String :=
  s!"  -> Wrote {word} dictionary to '{emittedPath output word}'\n"

theorem leads_emitDictionary_iff {output word : String} {dictionary : Dictionary} {done : Unit} :
    Leads desk (emitDictionary Desk.host output word dictionary) done after ↔
      ∃ folder, desk.folder.write (emittedPath output word)
        (Text.encodeUtf8 dictionary.render.toList) = .ok folder ∧
        { desk with folder, reported := desk.reported ++ emittedNote output word } = after := by
  constructor
  · intro led
    rcases leads_bind_iff.mp led with ⟨_, middle, ledWrite, ledReport⟩
    rcases leads_writeText_iff.mp ledWrite with ⟨folder, written, rfl⟩
    exact ⟨folder, written, congrArg Prod.snd ledReport⟩
  · rintro ⟨folder, written, rfl⟩
    exact leads_bind_iff.mpr ⟨(), _, leads_writeText_iff.mpr ⟨folder, written, rfl⟩, rfl⟩

def outputPaths (options : Options) : List String :=
  match options.output with
  | none => []
  | some output => output ::
      if options.emitDictionaries then [emittedPath output "state", emittedPath output "rule"]
      else []

def tableText (options : Options) (project : Project) : String :=
  Csv.render (project.compileWith options.priority).rows

def outputFiles (options : Options) (project : Project) : List (String × Bytes) :=
  (outputPaths options).zip
    ([tableText options project, project.dictionaries.state.render,
      project.dictionaries.rule.render].map fun text => Text.encodeUtf8 text.toList)

def printedText (options : Options) (project : Project) : String :=
  match options.output with
  | none => tableText options project
  | some _ => ""

def notes (options : Options) : String :=
  match options.output with
  | none => ""
  | some output =>
      if options.emitDictionaries then emittedNote output "state" ++ emittedNote output "rule"
      else ""

theorem leads_writeTable_iff {options : Options} {project : Project} :
    Leads desk (writeTable Desk.host options project (project.compileWith options.priority)) ()
        after ↔
      ∃ folder, desk.folder.writeAll (outputFiles options project) = .ok folder ∧
        { folder
          printed := desk.printed ++ printedText options project
          reported := desk.reported ++ notes options } = after := by
  rw [writeTable, outputFiles, outputPaths, printedText, notes]
  cases options.output with
  | none =>
      constructor
      · intro led
        cases led
        exact ⟨desk.folder, rfl, by rw [String.append_empty]; rfl⟩
      · rintro ⟨_, ⟨⟩, rfl⟩
        rw [String.append_empty]
        rfl
  | some output =>
      dsimp only
      rw [leads_bind_iff, String.append_empty]
      cases options.emitDictionaries with
      | false =>
          simp only [Bool.false_eq_true, if_false, leads_writeText_iff, List.map_cons,
            List.zip_cons_cons, List.zip_nil_left, Folder.writeAll_cons_iff, String.append_empty]
          constructor
          · rintro ⟨-, _, ⟨first, written, rfl⟩, ⟨⟩⟩
            exact ⟨first, ⟨first, written, rfl⟩, rfl⟩
          · rintro ⟨folder, ⟨_, written, ⟨⟩⟩, rfl⟩
            exact ⟨(), _, ⟨folder, written, rfl⟩, rfl⟩
      | true =>
          simp only [if_true, leads_bind_iff, leads_writeText_iff, leads_emitDictionary_iff,
            List.map_cons, List.zip_cons_cons, List.zip_nil_left, Folder.writeAll_cons_iff]
          constructor
          · rintro ⟨-, _, ⟨first, written, rfl⟩, -, _, ⟨second, writtenState, rfl⟩, third,
              writtenRule, rfl⟩
            refine ⟨third, ⟨first, written, second, writtenState, third, writtenRule, rfl⟩, ?_⟩
            rw [String.append_assoc]
          · rintro ⟨folder, ⟨first, written, second, writtenState, _, writtenRule, ⟨⟩⟩, rfl⟩
            refine ⟨(), _, ⟨first, written, rfl⟩, (), _, ⟨second, writtenState, rfl⟩, folder,
              writtenRule, ?_⟩
            rw [String.append_assoc]

end Writing

theorem leads_compileDiagram_iff {options : Options} :
    Leads desk (compileDiagram Desk.host options) () after ↔ ∃ project folder,
      Finds desk (prepare Desk.host options) project ∧
      desk.folder.writeAll (outputFiles options project) = .ok folder ∧
      { folder
        printed := desk.printed ++ printedText options project
        reported := desk.reported ++ notes options ++
          summary project (project.compileWith options.priority) } = after := by
  constructor
  · intro led
    rcases leads_bind_iff.mp led with ⟨project, kept, prepared, ledOn⟩
    obtain rfl := (ReadsOnly.prepare options).keeps prepared
    rcases leads_bind_iff.mp ledOn with ⟨_, _, ledTable, ledReport⟩
    rcases leads_writeTable_iff.mp ledTable with ⟨folder, written, rfl⟩
    exact ⟨project, folder, prepared, written, congrArg Prod.snd ledReport⟩
  · rintro ⟨project, folder, prepared, written, rfl⟩
    have ledTable := leads_writeTable_iff.mpr ⟨folder, written, rfl⟩
    exact leads_bind_iff.mpr ⟨project, desk, prepared, leads_bind_iff.mpr ⟨(), _, ledTable, rfl⟩⟩

theorem runOn_eq_zero_iff_leads {folder : Folder} {arguments : List String} {options : Options}
    (parsed : Options.parse? arguments = some options) : runOn folder arguments = (0, after) ↔
      Leads { folder } (compileDiagram Desk.host options) () after := by
  rw [runOn, run, parsed]
  dsimp only
  rw [StateT.run_bind, Leads]
  rcases (compileDiagram Desk.host options).run.run { folder } with ⟨outcome, middle⟩
  cases outcome with
  | error failure =>
      constructor
      · intro impossible
        cases impossible
      · intro impossible
        cases impossible
  | ok done =>
      constructor
      · intro ran
        cases ran
        rfl
      · intro led
        cases led
        rfl

theorem runOn_eq_zero_iff {folder : Folder} {arguments : List String} {options : Options}
    (parsed : Options.parse? arguments = some options) : runOn folder arguments = (0, after) ↔
      ∃ project written, Finds { folder } (prepare Desk.host options) project ∧
        folder.writeAll (outputFiles options project) = .ok written ∧
        { folder := written
          printed := printedText options project
          reported := notes options ++
            summary project (project.compileWith options.priority) } = after := by
  rw [runOn_eq_zero_iff_leads parsed, leads_compileDiagram_iff]
  simp only [String.empty_append]

end StepFlow.Command
