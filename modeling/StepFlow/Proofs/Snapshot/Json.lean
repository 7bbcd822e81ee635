import StepFlow.Archive
import StepFlow.Proofs.Json.Record
import StepFlow.Proofs.Snapshot.Manifest

namespace StepFlow

theorem Role.ofJson?_toJson (role : Role) : ofJson? role.toJson = some role := by
  cases role <;> decide

theorem Outcome.ofJson?_toJson (outcome : Outcome) : ofJson? outcome.toJson = some outcome := by
  cases outcome <;> decide

namespace StepId

theorem ofJson?_toJson (id : StepId) : ofJson? id.toJson = some id := rfl

theorem optional?_ofOption (id : Option StepId) :
    Json.optional? ofJson? (.ofOption toJson id) = some id :=
  Json.optional?_ofOption ofJson? toJson ofJson?_toJson (fun _ => nofun) id

end StepId

namespace Step

theorem ofJson?_toJson (step : Step) : ofJson? step.toJson = some step := by
  have declaredRole : Json.optional? Role.ofJson? (.ofOption Role.toJson step.declaredRole) =
      some step.declaredRole :=
    Json.optional?_ofOption _ _ Role.ofJson?_toJson (fun _ => nofun) _
  rw [toJson, ofJson?, Json.record?_object rfl (by decide)]
  simp [reader, StepId.ofJson?_toJson, Json.text?, Json.optional?_ofOption_text, declaredRole,
    StepId.optional?_ofOption, Json.list?_ofTexts]

theorem textual_toJson (step : Step) : step.toJson.Textual := by
  have nickname : (Json.ofOption .text step.nickname).Textual :=
    Json.textual_ofOption Json.textual_text _
  have declaredRole : (Json.ofOption Role.toJson step.declaredRole).Textual :=
    Json.textual_ofOption (fun _ => .text _) _
  have parent : (Json.ofOption StepId.toJson step.parent).Textual :=
    Json.textual_ofOption (fun _ => .text _) _
  simp [toJson, nickname, declaredRole, parent, Json.textual_ofTexts, StepId.toJson]

end Step

namespace Connection

theorem ofJson?_toJson (connection : Connection) : ofJson? connection.toJson = some connection := by
  rw [toJson, ofJson?, Json.record?_object rfl (by decide)]
  simp [reader, StepId.ofJson?_toJson, Outcome.ofJson?_toJson]

theorem textual_toJson (connection : Connection) : connection.toJson.Textual := by
  simp [toJson, StepId.toJson, Outcome.toJson]

end Connection

namespace Keywords

theorem listsOfJson?_listsJson (rule behavior : List String) :
    listsOfJson? (listsJson rule behavior) = some (rule, behavior) := by
  rw [listsJson, listsOfJson?, Json.record?_object rfl (by decide)]
  simp [listsReader, Json.list?_ofTexts]

theorem textual_listsJson (rule behavior : List String) : (listsJson rule behavior).Textual := by
  simp [listsJson, Json.textual_ofTexts]

end Keywords

theorem Dictionaries.entriesOfJson?_entriesJson (state rule : List (String × String)) :
    entriesOfJson? (entriesJson state rule) = some (state, rule) := by
  rw [entriesJson, entriesOfJson?, Json.record?_object rfl (by decide)]
  simp [entriesReader, Json.entries?_ofEntries_text]

namespace Manifest

theorem ofJson?_toJson (manifest : Manifest) : ofJson? manifest.toJson = some manifest := by
  have steps : Json.list? Step.ofJson? (.array (manifest.steps.map Step.toJson)) =
      some manifest.steps :=
    Json.list?_map Step.ofJson? Step.toJson Step.ofJson?_toJson _
  have connections : Json.list? Connection.ofJson?
      (.array (manifest.connections.map Connection.toJson)) = some manifest.connections :=
    Json.list?_map Connection.ofJson? Connection.toJson Connection.ofJson?_toJson _
  have roles : Json.entries? Role.ofJson? (.ofEntries Role.toJson manifest.roles) =
      some manifest.roles :=
    Json.entries?_ofEntries Role.ofJson? Role.toJson Role.ofJson?_toJson _
  rw [toJson, ofJson?, Json.record?_object rfl (by decide)]
  simp [reader, steps, connections, roles, Keywords.listsOfJson?_listsJson,
    Dictionaries.entriesOfJson?_entriesJson]

theorem textual_toJson (manifest : Manifest) : manifest.toJson.Textual := by
  have roles : (Json.ofEntries Role.toJson manifest.roles).Textual :=
    Json.textual_ofEntries (fun _ => .text _) _
  have labels (entries : List (String × String)) : (Json.ofEntries .text entries).Textual :=
    Json.textual_ofEntries Json.textual_text _
  simp [toJson, roles, labels, Keywords.textual_listsJson, Dictionaries.entriesJson,
    Step.textual_toJson, Connection.textual_toJson]

end Manifest

theorem ArchiveFormat.decodeManifest_json (memory : Memory) (manifest : Manifest) :
    json.decodeManifest memory (json.encodeManifest manifest) = .ok manifest := by
  rw [decodeManifest, encodeManifest, Json.ofBytes?_pretty manifest.textual_toJson,
    Option.bind_some, manifest.ofJson?_toJson]
  rfl

namespace Snapshot

/-- A file with the JSON form of a snapshot holds that snapshot, whatever the texts in it and
whatever the order in which the maps were written. -/
theorem ofContent_json {snapshot : Snapshot} {manifest : Manifest}
    (lists : manifest.Lists snapshot) (built : snapshot.keywords.Built) (memory : Memory)
    (path : String) : ofContent memory .json path
      (.ok (ArchiveFormat.json.encodeManifest manifest)) = .ok (some snapshot) := by
  have decoded := ArchiveFormat.decode_eq_ok_iff.mpr
    ⟨manifest, ArchiveFormat.decodeManifest_json memory manifest, lists.snapshot?_eq built⟩
  rw [ofContent, decoded]
  rfl

def scrawl : Snapshot where
  steps :=
    [{ id := ⟨"a\"b"⟩, name := "say \"go\\on\"\n\t\u0001 Ü 😀", nickname := some "",
       description := "\u007f/\u0008", declaredRole := some .rule, questions := ["\r\n", ""] },
     { id := ⟨""⟩, name := " ", parent := some ⟨"a\"b"⟩, images := ["[null]"] }]
  connections := [⟨⟨"a\"b"⟩, ⟨""⟩, .failure⟩]
  keywords := { rule := ["\"", "\\"], behavior := [] }
  roles := .ofList [("", .state), ("\u001f", .behavior)]
  dictionaries := { rule := .ofList [("say \"go\\on\"", "\u0000")] }

def scrawlManifest : Manifest :=
  { scrawl.manifest with roles := [("\u001f", .behavior), ("", .state)] }

theorem ofContent_json_scrawl : scrawlManifest.Lists scrawl ∧ scrawl.keywords.Built ∧
    ofContent .full .json "board" (.ok (ArchiveFormat.json.encodeManifest scrawlManifest)) =
      .ok (some scrawl) := by
  have roles : scrawlManifest.roles.Perm scrawl.roles.entries := by
    have sorted : scrawl.roles.entries = [("", .state), ("\u001f", .behavior)] := by decide +kernel
    rw [sorted]
    exact .swap _ _ _
  have lists : scrawlManifest.Lists scrawl := ⟨rfl, rfl, rfl, rfl, roles, .refl _, .refl _⟩
  have built : scrawl.keywords.Built := ⟨["\"", " \\ ", "\""], [], by decide +kernel⟩
  exact ⟨lists, built, ofContent_json lists built .full "board"⟩

end Snapshot

end StepFlow
