import StepFlow.Archive
import StepFlow.Proofs.Command.Desk
import StepFlow.Proofs.Command.Options
import StepFlow.Proofs.Diagram
import StepFlow.Proofs.Keywords.Forms
import StepFlow.Proofs.Project.Restore
import StepFlow.Proofs.Table.Renaming

namespace StepFlow

theorem Dictionary.parse?_render (dictionary : Dictionary) :
    parse? dictionary.render = some dictionary := by
  have textual : (toJson dictionary).Textual := Json.textual_ofEntries Json.textual_text _
  have entries : Json.entries? Json.text? (toJson dictionary) = some dictionary.entries :=
    Json.entries?_ofEntries_text dictionary.entries
  rw [parse?, render, Json.ofText?_render textual, Option.bind_some, ofJson?, Json.map?, entries,
    Option.map_some, TextMap.ofList_of_perm (.refl _)]

section Plain

theorem Step.renamed_plain (step : Step) : step.Renamed (.refl StepId) step.plain where
  id := rfl
  name := rfl
  declaredRole := rfl
  parent := Option.map_id'.symm

theorem Table.rename_refl (table : Table) : table.rename (.refl StepId) = table := by
  have findings : Finding.rename (.refl StepId) = id := by
    funext finding
    cases finding <;> rfl
  rw [Table.rename, findings, List.map_id]

theorem Graph.WellFormed.ofParts_plain {graph : Graph} (wellFormed : graph.WellFormed) :
    ∃ plain, Graph.ofParts (graph.steps.map Step.plain) graph.connections = .ok plain ∧
      graph.Renamed (.refl StepId) plain := by
  have sameSteps : List.Forall₂ (Step.Renamed (.refl StepId)) graph.steps
      (graph.steps.map Step.plain) :=
    List.forall₂_map_right_iff.mpr (List.forall₂_same.mpr fun step _ => step.renamed_plain)
  have sameConnections : graph.connections.map (.rename (.refl StepId)) = graph.connections :=
    List.map_id graph.connections
  have alike := Graph.ofParts_renamed sameSteps graph.connections
  rw [wellFormed.ofParts_self, sameConnections] at alike
  generalize Graph.ofParts (graph.steps.map Step.plain) graph.connections = result at alike ⊢
  cases alike with
  | loaded same => exact ⟨_, rfl, same.steps, same.place?_eq, same.connections⟩

end Plain

namespace Project

def rebuiltOn (project : Project) (graph : Graph) : Project :=
  { project with graph, roles := Roles.classify project.keywords graph }

theorem compileWith_rebuiltOn {project : Project} {plain : Graph}
    (same : project.graph.Renamed (.refl StepId) plain)
    (own : project.reclassify.roles = project.roles) (priority : Priority) :
    (project.rebuiltOn plain).compileWith priority = project.compileWith priority := by
  have roles : project.roles.Renamed (.refl StepId) (project.rebuiltOn plain).roles := by
    rw [← own]
    exact Roles.classify_renamed project.keywords same
  have completed : project.completed.Renamed (.refl StepId) (project.rebuiltOn plain).completed :=
    ⟨same, roles.fill project.keywords same, rfl⟩
  exact (completed.compile_eq priority).trans (Table.rename_refl _)

end Project

namespace Command

structure ExportPaths where
  diagram : String
  keywords : String
  stateDictionary : String
  ruleDictionary : String
  deriving DecidableEq, Repr

namespace ExportPaths

def all (paths : ExportPaths) : List String :=
  [paths.diagram, paths.keywords, paths.stateDictionary, paths.ruleDictionary]

def options (paths : ExportPaths) : Options where
  diagram := paths.diagram
  stateDictionary := some paths.stateDictionary
  ruleDictionary := some paths.ruleDictionary
  keywords := some paths.keywords

def arguments (paths : ExportPaths) : List String :=
  [ArgumentText.given .keywords paths.keywords,
    ArgumentText.given .stateDictionary paths.stateDictionary,
    ArgumentText.given .ruleDictionary paths.ruleDictionary, "--", paths.diagram]

theorem parse?_arguments (paths : ExportPaths) :
    Options.parse? paths.arguments = some paths.options := by
  have known : arguments? paths.arguments = some [.setting .keywords paths.keywords,
      .setting .stateDictionary paths.stateDictionary,
      .setting .ruleDictionary paths.ruleDictionary, .positional paths.diagram] :=
    arguments?_given [(.keywords, paths.keywords), (.stateDictionary, paths.stateDictionary),
      (.ruleDictionary, paths.ruleDictionary)] [paths.diagram]
  rw [Options.parse?, known]
  rfl

end ExportPaths

def exportFiles (project : Project) (manifest : Manifest) (paths : ExportPaths) :
    List (String × Bytes) :=
  [(paths.diagram, ArchiveFormat.json.encodeManifest manifest),
    (paths.keywords, Text.encodeUtf8 project.keywords.render.toList),
    (paths.stateDictionary, Text.encodeUtf8 project.dictionaries.state.render.toList),
    (paths.ruleDictionary, Text.encodeUtf8 project.dictionaries.rule.render.toList)]

structure HoldsExport (folder : Folder) (project : Project) (manifest : Manifest)
    (paths : ExportPaths) : Prop where
  diagram : folder.read paths.diagram = .ok (ArchiveFormat.json.encodeManifest manifest)
  keywords : folder.read paths.keywords = .ok (Text.encodeUtf8 project.keywords.render.toList)
  stateDictionary : folder.read paths.stateDictionary =
    .ok (Text.encodeUtf8 project.dictionaries.state.render.toList)
  ruleDictionary : folder.read paths.ruleDictionary =
    .ok (Text.encodeUtf8 project.dictionaries.rule.render.toList)

theorem holdsExport_of_writeAll {folder exported : Folder} {project : Project}
    {manifest : Manifest} {paths : ExportPaths}
    (written : folder.writeAll (exportFiles project manifest paths) = .ok exported)
    (apart : paths.all.Pairwise fun path other => folder.Apart other path) :
    HoldsExport exported project manifest paths := by
  have apartFiles : (exportFiles project manifest paths).Pairwise fun file other =>
      folder.Apart other.1 file.1 := by
    have mapped : ((exportFiles project manifest paths).map Prod.fst).Pairwise
        fun path other => folder.Apart other path := apart
    exact List.pairwise_map.mp mapped
  have reads := Folder.read_of_writeAll written apartFiles
  simp only [exportFiles, List.forall_mem_cons] at reads
  rcases reads with ⟨diagram, keywords, state, rule, -⟩
  exact ⟨diagram, keywords, state, rule⟩

section Reading

variable {desk : Desk}

theorem finds_importDiagram {path : String} {manifest : Manifest} {plain : Graph}
    (holds : desk.folder.read path = .ok (ArchiveFormat.json.encodeManifest manifest))
    (loads : Graph.ofParts (manifest.steps.map Step.plain) manifest.connections = .ok plain) :
    Finds desk (importDiagram Desk.host path) (Project.ofGraph plain .standard) := by
  have text : desk.folder.read path = .ok (Text.encodeUtf8 manifest.toJson.render.toList) := by
    rw [holds, Json.render, String.toList_ofList]
    rfl
  refine (finds_readText .diagramFile text).bind ?_
  rw [Diagram.parse?_render]
  dsimp only
  rw [Diagram.toProject_ofManifest, Project.ofParts, loads]
  rfl

theorem finds_loadKeywords {path : String} {keywords : Keywords} (built : keywords.Built)
    (holds : desk.folder.read path = .ok (Text.encodeUtf8 keywords.render.toList)) :
    Finds desk (loadKeywords Desk.host path) keywords := by
  refine (finds_readText .keywordsFile holds).bind ?_
  rw [Keywords.parse_render built]
  rfl

theorem finds_loadDictionary {path : String} {dictionary : Dictionary}
    (holds : desk.folder.read path = .ok (Text.encodeUtf8 dictionary.render.toList)) :
    Finds desk (loadDictionary Desk.host path) dictionary := by
  refine (finds_readText .dictionaryFile holds).bind ?_
  rw [Dictionary.parse?_render]
  rfl

theorem finds_applyKeywords {path : String} {keywords : Keywords} (built : keywords.Built)
    (holds : desk.folder.read path = .ok (Text.encodeUtf8 keywords.render.toList))
    (project : Project) : Finds desk (applyKeywords Desk.host project (some path))
      (Project.ofGraph project.graph keywords) :=
  (finds_loadKeywords built holds).bind rfl

theorem finds_prepare {project : Project} (built : project.keywords.Built) {manifest : Manifest}
    {paths : ExportPaths} (holds : HoldsExport desk.folder project manifest paths) {plain : Graph}
    (loads : Graph.ofParts (manifest.steps.map Step.plain) manifest.connections = .ok plain) :
    Finds desk (prepare Desk.host paths.options) (project.rebuiltOn plain) := by
  have diagram := finds_importDiagram holds.diagram loads
  have keywords := finds_applyKeywords built holds.keywords (.ofGraph plain .standard)
  have state (current : Dictionary) : Finds desk
      (dictionaryOr Desk.host current (some paths.stateDictionary)) project.dictionaries.state :=
    finds_loadDictionary holds.stateDictionary
  have rule (current : Dictionary) : Finds desk
      (dictionaryOr Desk.host current (some paths.ruleDictionary)) project.dictionaries.rule :=
    finds_loadDictionary holds.ruleDictionary
  refine diagram.bind (keywords.bind ((state _).bind ((rule _).bind ?_)))
  rfl

end Reading

theorem runOn_of_finds {folder : Folder} {arguments : List String} {options : Options}
    {project : Project} (parsed : Options.parse? arguments = some options)
    (toPrint : options.output = none)
    (prepared : Finds { folder } (prepare Desk.host options) project) :
    runOn folder arguments = (0, {
      folder
      printed := Csv.render (project.compileWith options.priority).rows
      reported := summary project (project.compileWith options.priority) }) := by
  refine (runOn_eq_zero_iff parsed).mpr ⟨project, folder, prepared, ?_, ?_⟩
  · rw [outputFiles, outputPaths, toPrint]
    rfl
  · rw [printedText, notes, toPrint, String.empty_append]
    rfl

/-- Whatever a project went through, if its steps have the roles that they have by themselves: a run
on the files that it was written to succeeds and prints the project's own table. The files have to
be four different ones, the folder may hold others, and the snapshot may list its maps in any
order. -/
theorem runOn_exported {project : Project} (reachable : project.Reachable)
    (built : project.keywords.Built) (own : project.reclassify.roles = project.roles)
    {manifest : Manifest} (lists : manifest.Lists project.snapshot) {paths : ExportPaths}
    {folder exported : Folder}
    (written : folder.writeAll (exportFiles project manifest paths) = .ok exported)
    (apart : paths.all.Pairwise fun path other => folder.Apart other path)
    {arguments : List String} (parsed : Options.parse? arguments = some paths.options) :
    ∃ reported, runOn exported arguments =
      (0, { folder := exported, printed := Csv.render project.compile.rows, reported }) := by
  rcases reachable.wellFormed.ofParts_plain with ⟨plain, loads, same⟩
  have loadsListed : Graph.ofParts (manifest.steps.map Step.plain) manifest.connections =
      .ok plain := by
    rw [lists.steps, lists.connections]
    exact loads
  have holds := holdsExport_of_writeAll written apart
  have prepared : Finds { folder := exported } (prepare Desk.host paths.options)
      (project.rebuiltOn plain) := finds_prepare built holds loadsListed
  have printed := runOn_of_finds parsed rfl prepared
  rw [Project.compileWith_rebuiltOn same own] at printed
  exact ⟨_, printed⟩

def gateOperations : List Project.Operation :=
  [.setKeywords ⟨["may"], ["push"]⟩,
    .edit (.add { name := "Gate", nickname := some "G", questions := ["Is it \"old\"?"] }),
    .edit (.add { name := "Push", parent := some ⟨"step-1"⟩ }),
    .edit (.add { name := "Open", declaredRole := some .rule, assumptions := ["It is day."] }),
    .edit (.connect ⟨⟨"step-1"⟩, ⟨"step-2"⟩, .failure⟩ 0),
    .edit (.connect ⟨⟨"step-2"⟩, ⟨"step-3"⟩, .success⟩ 0),
    .edit (.connect ⟨⟨"step-3"⟩, ⟨"step-1"⟩, .success⟩ 0),
    .setDictionaries { state := .ofList [("Gate", "GATE")], rule := .ofList [("Ajar", "AJAR")] },
    .reclassify]

def gate : Project := Project.run {} gateOperations

def gateManifest : Manifest :=
  { gate.snapshot.manifest with roles := gate.roles.entries.reverse }

def gatePaths : ExportPaths where
  diagram := "-gate.json"
  keywords := "saved/./words"
  stateDictionary := "saved/../words"
  ruleDictionary := "../words"

def gateFolder : Folder where
  files := .ofList [("saved/words", [1, 2, 3])]
  directories := ["saved"]

def gateExported : Folder :=
  (gateFolder.writeAll (exportFiles gate gateManifest gatePaths)).toOption.getD {}

theorem gate_built : gate.keywords.Built := ⟨["May", " may "], ["PUSH"], by decide +kernel⟩

theorem gate_written :
    gateFolder.writeAll (exportFiles gate gateManifest gatePaths) = .ok gateExported := by
  rfl

theorem gate_apart : gatePaths.all.Pairwise fun path other => gateFolder.Apart other path := by
  have different : gatePaths.all.Pairwise fun path other =>
      gateFolder.locate other ≠ gateFolder.locate path := by
    decide +kernel
  exact different.imp Folder.apart_of_ne

theorem runOn_exported_gate : gate.Reachable ∧ gate.keywords.Built ∧
    gate.reclassify.roles = gate.roles ∧ gateManifest.Lists gate.snapshot ∧
    gateFolder.writeAll (exportFiles gate gateManifest gatePaths) = .ok gateExported ∧
    (gatePaths.all.Pairwise fun path other => gateFolder.Apart other path) ∧
    Options.parse? gatePaths.arguments = some gatePaths.options ∧
    (∃ reported, runOn gateExported gatePaths.arguments =
      (0, { folder := gateExported, printed := Csv.render gate.compile.rows, reported })) ∧
    gate.compile.rows.map Row.key = [("GATE", "GATE", "[UNKNOWN_RULE: Open]")] := by
  have reachable : gate.Reachable := ⟨{}, gateOperations, .new, rfl⟩
  have own : gate.reclassify.roles = gate.roles := by rfl
  have lists : gateManifest.Lists gate.snapshot :=
    ⟨rfl, rfl, rfl, rfl, List.reverse_perm _, .refl _, .refl _⟩
  have parsed := gatePaths.parse?_arguments
  exact ⟨reachable, gate_built, own, lists, gate_written, gate_apart, parsed,
    runOn_exported reachable gate_built own lists gate_written gate_apart parsed, by decide +kernel⟩

end Command

end StepFlow
