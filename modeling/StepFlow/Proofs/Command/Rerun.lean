import StepFlow.Proofs.Command.Export
import StepFlow.Proofs.Folder.Endings

/-!
Another run with the dictionaries that a run has emitted. The files of a run have one stem and
different endings, so none of them is written over another one, and where they are not written over
the diagram and the keywords either, the second run prepares the very project of the first one. Its
table is the same to the byte (`runOn_emitted`).
-/
namespace StepFlow.Command

section Outputs

theorem exists_stripEndings (reversed : List Char) :
    ∃ ending, reversed = ending ++ stripEndings reversed ∧ ∀ c ∈ ending, c ∈ ".csv".toList := by
  induction reversed using stripEndings.induct with
  | case1 rest ih =>
      rcases ih with ⟨ending, split, letters⟩
      refine ⟨'v' :: 's' :: 'c' :: '.' :: ending, ?_, by simpa using letters⟩
      rw [stripEndings]
      simpa using split
  | case2 rest other => exact ⟨[], by rw [stripEndings.eq_2 _ other, List.nil_append], nofun⟩

theorem exists_stemOf (path : String) : ∃ ending,
    path = String.ofList ((stemOf path).toList ++ ending) ∧ ∀ c ∈ ending, c ∈ ".csv".toList := by
  rcases exists_stripEndings path.toList.reverse with ⟨ending, split, letters⟩
  refine ⟨ending.reverse, ?_, by simpa using letters⟩
  rw [stemOf, String.toList_ofList, ← List.reverse_append, ← split, List.reverse_reverse,
    String.ofList_toList]

def emittedEnding (word : String) : List Char :=
  '.' :: (word.toList ++ "-dictionary.json".toList)

theorem emittedPath_eq (output word : String) :
    emittedPath output word = String.ofList ((stemOf output).toList ++ emittedEnding word) := by
  have joined : emittedPath output word =
      stemOf output ++ "." ++ word ++ "-dictionary.json" := rfl
  apply String.toList_injective
  simp [joined, emittedEnding]

theorem unslashed_emittedEnding {word : String} (unslashed : '/' ∉ word.toList) :
    '/' ∉ emittedEnding word := by
  simp [emittedEnding, unslashed]

variable (folder : Folder) (output : String) {word other : String}

theorem apart_emitted_output (unslashed : '/' ∉ word.toList) :
    folder.Apart (emittedPath output word) output := by
  rcases exists_stemOf output with ⟨ending, split, letters⟩
  have unslashedToo : '/' ∉ ending := fun member => absurd (letters _ member) (by decide)
  have different : emittedEnding word ≠ ending := by
    intro same
    have member : 'j' ∈ ending := by
      rw [← same]
      simp [emittedEnding]
    exact absurd (letters _ member) (by decide)
  have apart := folder.apart_of_endings (stemOf output).toList (unslashed_emittedEnding unslashed)
    unslashedToo different
  rwa [← emittedPath_eq, ← split] at apart

theorem apart_emitted (unslashed : '/' ∉ word.toList) (unslashedOther : '/' ∉ other.toList)
    (different : word ≠ other) :
    folder.Apart (emittedPath output word) (emittedPath output other) := by
  rw [emittedPath_eq, emittedPath_eq]
  refine folder.apart_of_endings _ (unslashed_emittedEnding unslashed)
    (unslashed_emittedEnding unslashedOther) fun same => different (String.toList_injective ?_)
  simpa [emittedEnding] using same

theorem outputPaths_apart (options : Options) :
    (outputPaths options).Pairwise fun path other => folder.Apart other path := by
  rw [outputPaths]
  cases options.output with
  | none => exact .nil
  | some output =>
      have state : folder.Apart (emittedPath output "state") output :=
        apart_emitted_output folder output (by decide)
      have rule : folder.Apart (emittedPath output "rule") output :=
        apart_emitted_output folder output (by decide)
      have between : folder.Apart (emittedPath output "rule") (emittedPath output "state") :=
        apart_emitted folder output (by decide) (by decide) (by decide)
      cases options.emitDictionaries with
      | false => exact List.pairwise_singleton _ _
      | true => simp [state, rule, between]

theorem map_fst_outputFiles (options : Options) (project : Project) :
    (outputFiles options project).map Prod.fst = outputPaths options := by
  refine List.map_fst_zip ?_
  rw [outputPaths]
  split
  · exact Nat.zero_le _
  · split <;> simp

theorem read_of_outputFiles {options : Options} {project : Project} {folder written : Folder}
    (wrote : folder.writeAll (outputFiles options project) = .ok written) :
    ∀ file ∈ outputFiles options project, written.read file.1 = .ok file.2 := by
  have apart := outputPaths_apart folder options
  rw [← map_fst_outputFiles options project] at apart
  exact Folder.read_of_writeAll wrote (List.pairwise_map.mp apart)

end Outputs

def Delivers (desk : Desk) (output : Option String) (csv : String) : Prop :=
  match output with
  | none => desk.printed = csv
  | some path => desk.folder.read path = .ok (Text.encodeUtf8 csv.toList)

/-- The options for the same diagram, with the dictionaries that are next to the output. -/
structure Options.Repeats (again options : Options) (output : String) : Prop where
  diagram : again.diagram = options.diagram
  keywords : again.keywords = options.keywords
  priority : again.priority = options.priority
  stateDictionary : again.stateDictionary = some (emittedPath output "state")
  ruleDictionary : again.ruleDictionary = some (emittedPath output "rule")

section Again

variable {options again : Options} {output : String} {project : Project} {folder written : Folder}
  (wrote : folder.writeAll (outputFiles options project) = .ok written)

include wrote

theorem read_output (toFile : options.output = some output) :
    written.read output = .ok (Text.encodeUtf8 (tableText options project).toList) := by
  have reads := read_of_outputFiles wrote
  simp only [outputFiles, outputPaths, toFile, List.map_cons, List.zip_cons_cons,
    List.forall_mem_cons] at reads
  exact reads.1

theorem delivers_of_wrote (reported : String) :
    Delivers { folder := written, printed := printedText options project, reported }
      options.output (tableText options project) := by
  rw [printedText]
  cases toFile : options.output with
  | none => rfl
  | some output => exact read_output wrote toFile

theorem read_emitted (toFile : options.output = some output)
    (emits : options.emitDictionaries = true) :
    written.read (emittedPath output "state") =
        .ok (Text.encodeUtf8 project.dictionaries.state.render.toList) ∧
      written.read (emittedPath output "rule") =
        .ok (Text.encodeUtf8 project.dictionaries.rule.render.toList) := by
  have reads := read_of_outputFiles wrote
  simp only [outputFiles, outputPaths, toFile, emits, if_true, List.map_cons, List.map_nil,
    List.zip_cons_cons, List.zip_nil_left, List.forall_mem_cons] at reads
  exact ⟨reads.2.1, reads.2.2.1⟩

theorem read_input {input : String} (apart : ∀ path ∈ outputPaths options, folder.Apart path input)
    {content : Bytes} (reads : folder.read input = .ok content) :
    written.read input = .ok content := by
  refine Folder.read_of_writeAll_elsewhere wrote (fun file member => apart file.1 ?_) reads
  rw [← map_fst_outputFiles options project]
  exact List.mem_map_of_mem member

theorem exists_wroteAgain (fit : ∀ path ∈ outputPaths again,
      path ∈ outputPaths options ∨ ∃ place, folder.locate path = .ok place) :
    ∃ after, written.writeAll (outputFiles again project) = .ok after := by
  rw [Folder.exists_writeAll_iff, map_fst_outputFiles]
  intro path member
  have located : ∃ place, folder.locate path = .ok place := by
    rcases fit path member with again | located
    · refine Folder.exists_writeAll_iff.mp ⟨written, wrote⟩ path ?_
      rwa [map_fst_outputFiles]
    · exact located
  exact located.imp fun _ => Folder.locate_congr (Folder.writeAll_directories wrote)

end Again

/-- The second run finds the dictionaries of the project that the first one has prepared, and with
the same diagram and keywords there is nothing else that the projects could differ in. -/
theorem Options.Repeats.finds_prepare {options again : Options} {output : String}
    {desk other : Desk} {project : Project} (repeats : again.Repeats options output)
    (prepared : Finds desk (prepare Desk.host options) project)
    (kept : ∀ input ∈ options.diagram :: options.keywords.toList, ∀ content,
      desk.folder.read input = .ok content → other.folder.read input = .ok content)
    (state : other.folder.read (emittedPath output "state") =
      .ok (Text.encodeUtf8 project.dictionaries.state.render.toList))
    (rule : other.folder.read (emittedPath output "rule") =
      .ok (Text.encodeUtf8 project.dictionaries.rule.render.toList)) :
    Finds other (prepare Desk.host again) project := by
  rcases finds_prepare_iff.mp prepared with
    ⟨imported, derived, foundDiagram, foundKeywords, -, -, whole⟩
  rw [List.forall_mem_cons] at kept
  rw [finds_prepare_iff, repeats.diagram, repeats.keywords, repeats.stateDictionary,
    repeats.ruleDictionary]
  refine ⟨imported, derived, ?_, ?_, ?_, ?_, whole⟩
  · refine (ReadsOnly.importDiagram options.diagram).finds foundDiagram ?_
    rw [List.forall_mem_singleton]
    exact kept.1
  · exact (ReadsOnly.applyKeywords imported options.keywords).finds foundKeywords kept.2
  · exact finds_loadDictionary state
  · exact finds_loadDictionary rule

/-- If a run emits its dictionaries, and not over the diagram and the keywords, then a run with the
emitted ones instead of any others succeeds and delivers the same table, to a file or printed. -/
theorem runOn_emitted {folder : Folder} {arguments argumentsAgain : List String}
    {options again : Options} {output : String} {desk : Desk}
    (parsed : Options.parse? arguments = some options) (toFile : options.output = some output)
    (emits : options.emitDictionaries = true) (ran : runOn folder arguments = (0, desk))
    (apart : ∀ path ∈ outputPaths options, ∀ input ∈ options.diagram :: options.keywords.toList,
      folder.Apart path input)
    (parsedAgain : Options.parse? argumentsAgain = some again)
    (repeats : again.Repeats options output)
    (fit : ∀ path ∈ outputPaths again,
      path ∈ outputPaths options ∨ ∃ place, folder.locate path = .ok place) :
    ∃ csv deskAgain, Delivers desk options.output csv ∧
      runOn desk.folder argumentsAgain = (0, deskAgain) ∧
      Delivers deskAgain again.output csv := by
  rcases (runOn_eq_zero_iff parsed).mp ran with ⟨project, written, prepared, wrote, rfl⟩
  rcases read_emitted wrote toFile emits with ⟨state, rule⟩
  -- The dictionaries of the first run may be written over: it has read them before it writes, and
  -- the second run does not use them.
  have kept : ∀ input ∈ options.diagram :: options.keywords.toList, ∀ content,
      folder.read input = .ok content → written.read input = .ok content :=
    fun input member _ => read_input wrote fun path emitted => apart path emitted input member
  have preparedAgain : Finds { folder := written } (prepare Desk.host again) project :=
    repeats.finds_prepare prepared kept state rule
  rcases exists_wroteAgain wrote fit with ⟨after, wroteAgain⟩
  have ranAgain := (runOn_eq_zero_iff parsedAgain).mpr
    ⟨project, after, preparedAgain, wroteAgain, rfl⟩
  have sameTable : tableText again project = tableText options project := by
    rw [tableText, tableText, repeats.priority]
  have delivered := delivers_of_wrote wroteAgain
  rw [sameTable] at delivered
  exact ⟨tableText options project, _, delivers_of_wrote wrote _, ranAgain, delivered _⟩

def ExportPaths.emitOptions (paths : ExportPaths) (output : String) : Options where
  diagram := paths.diagram
  stateDictionary := some paths.stateDictionary
  keywords := some paths.keywords
  output := some output
  emitDictionaries := true

def relabelledOn (project : Project) (plain : Graph) : Project :=
  let derived := Project.ofGraph plain project.keywords
  { derived with dictionaries := { derived.dictionaries with state := project.dictionaries.state } }

theorem finds_relabelledOn {desk : Desk} {project : Project} (built : project.keywords.Built)
    {manifest : Manifest} {paths : ExportPaths}
    (holds : HoldsExport desk.folder project manifest paths) {plain : Graph}
    (loads : Graph.ofParts (manifest.steps.map Step.plain) manifest.connections = .ok plain)
    (output : String) : Finds desk (prepare Desk.host (paths.emitOptions output))
      (relabelledOn project plain) :=
  finds_prepare_iff.mpr ⟨_, _, finds_importDiagram holds.diagram loads,
    finds_applyKeywords built holds.keywords _, finds_loadDictionary holds.stateDictionary, rfl,
    rfl⟩

def gateEmitOptions : Options := gatePaths.emitOptions "table.csv.csv"

def gateEmitArguments : List String :=
  ["-otable.csv.csv", "--emit-dictionaries", "--state-dict", "saved/../words", "-k",
    "saved/./words", "--", "-gate.json"]

def gateAgainOptions : Options where
  diagram := gatePaths.diagram
  stateDictionary := some "table.state-dictionary.json"
  ruleDictionary := some "table.rule-dictionary.json"
  keywords := some gatePaths.keywords
  output := some "saved/table"

def gateAgainArguments : List String :=
  ["--state-dict", "table.state-dictionary.json", "--rule-dict", "table.rule-dictionary.json",
    "-k", "saved/./words", "--output", "saved/table", "--", "-gate.json"]

def gatePlain : Graph :=
  (Graph.ofParts (gateManifest.steps.map Step.plain) gateManifest.connections).toOption.getD {}

def gateRelabelled : Project := relabelledOn gate gatePlain

theorem finds_gateRelabelled :
    Finds { folder := gateExported } (prepare Desk.host gateEmitOptions) gateRelabelled := by
  have holds := holdsExport_of_writeAll gate_written gate_apart
  have loads : Graph.ofParts (gateManifest.steps.map Step.plain) gateManifest.connections =
      .ok gatePlain := by
    rfl
  exact finds_relabelledOn gate_built holds loads _

def gateEmitted : Folder :=
  (gateExported.writeAll (outputFiles gateEmitOptions gateRelabelled)).toOption.getD {}

def gateEmittedDesk : Desk where
  folder := gateEmitted
  reported := notes gateEmitOptions ++ summary gateRelabelled gateRelabelled.compile

theorem runOn_emitted_gate : Options.parse? gateEmitArguments = some gateEmitOptions ∧
    gateEmitOptions.output = some "table.csv.csv" ∧ gateEmitOptions.emitDictionaries = true ∧
    runOn gateExported gateEmitArguments = (0, gateEmittedDesk) ∧
    (∀ path ∈ outputPaths gateEmitOptions,
      ∀ input ∈ gateEmitOptions.diagram :: gateEmitOptions.keywords.toList,
        gateExported.Apart path input) ∧
    Options.parse? gateAgainArguments = some gateAgainOptions ∧
    gateAgainOptions.Repeats gateEmitOptions "table.csv.csv" ∧
    (∀ path ∈ outputPaths gateAgainOptions, path ∈ outputPaths gateEmitOptions ∨
      ∃ place, gateExported.locate path = .ok place) ∧
    (∃ csv deskAgain, Delivers gateEmittedDesk (some "table.csv.csv") csv ∧
      runOn gateEmitted gateAgainArguments = (0, deskAgain) ∧
      Delivers deskAgain (some "saved/table") csv) ∧
    gateRelabelled.compile.rows.map Row.key = [("GATE", "GATE", "Open")] := by
  have parsed : Options.parse? gateEmitArguments = some gateEmitOptions := by decide +kernel
  have wrote : gateExported.writeAll (outputFiles gateEmitOptions gateRelabelled) =
      .ok gateEmitted := by
    rfl
  have ran : runOn gateExported gateEmitArguments = (0, gateEmittedDesk) :=
    (runOn_eq_zero_iff parsed).mpr ⟨_, _, finds_gateRelabelled, wrote, rfl⟩
  have apart : ∀ path ∈ outputPaths gateEmitOptions,
      ∀ input ∈ gateEmitOptions.diagram :: gateEmitOptions.keywords.toList,
        gateExported.Apart path input := by
    have different : ∀ path ∈ outputPaths gateEmitOptions,
        ∀ input ∈ gateEmitOptions.diagram :: gateEmitOptions.keywords.toList,
          gateExported.locate path ≠ gateExported.locate input := by
      decide +kernel
    exact fun path emitted input read => Folder.apart_of_ne (different path emitted input read)
  have parsedAgain : Options.parse? gateAgainArguments = some gateAgainOptions := by
    decide +kernel
  have repeats : gateAgainOptions.Repeats gateEmitOptions "table.csv.csv" :=
    ⟨rfl, rfl, rfl, by decide +kernel, by decide +kernel⟩
  have fit : ∀ path ∈ outputPaths gateAgainOptions, path ∈ outputPaths gateEmitOptions ∨
      ∃ place, gateExported.locate path = .ok place := by
    intro path emitted
    obtain rfl : path = "saved/table" := by simpa [outputPaths, gateAgainOptions] using emitted
    exact .inr ⟨"saved/table", by decide +kernel⟩
  exact ⟨parsed, rfl, rfl, ran, apart, parsedAgain, repeats, fit,
    runOn_emitted parsed rfl rfl ran apart parsedAgain repeats fit, by decide +kernel⟩

end StepFlow.Command
