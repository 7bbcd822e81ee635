import StepFlow.Proofs.Project.Restore
import StepFlow.Proofs.Snapshot.Binary
import StepFlow.Proofs.Snapshot.Json

/-!
Loading whatever a file holds. If there is room for all its texts, either nothing happens to the
project, or all of it is replaced by one that needs no repair any more, which then comes back from
every file it is saved in (`loadContent_settles`).
-/
namespace StepFlow

namespace ArchiveFormat

variable {format : ArchiveFormat} {memory : Memory} {bytes : Bytes} {manifest : Manifest}

/-- The lengths that the texts of a file claim, as far as it is read. -/
def claims : ArchiveFormat → Bytes → List Nat
  | json, _ => []
  | binary, bytes => (Codec.manifest.read bytes).claims

theorem decode_eq_overrun_iff {claimed : Nat} :
    format.decode memory bytes = .error (.overrun claimed) ↔
      format.decodeManifest memory bytes = .error (.overrun claimed) := by
  rw [decode]
  cases format.decodeManifest memory bytes with
  | error fault =>
      exact ⟨fun same => congrArg Except.error (Except.error.inj same),
        fun same => congrArg Except.error (Except.error.inj same)⟩
  | ok manifest =>
      refine ⟨fun overrun => absurd overrun (orMalformed_ne_overrun _ _), fun same => ?_⟩
      cases same

theorem exists_overrun_iff : (∃ claimed, format.decode memory bytes = .error (.overrun claimed)) ↔
    ∃ claim ∈ format.claims bytes, memory.block < claim := by
  simp only [decode_eq_overrun_iff]
  cases format with
  | json => simp [claims, decodeManifest, orMalformed_ne_overrun]
  | binary => exact Reading.exists_overrun_iff

theorem decodeManifest_encodeManifest {keywords : Keywords}
    (made : Keywords.ofLists manifest.ruleKeywords manifest.behaviorKeywords = .ok keywords)
    (room : format = .binary → (format.encodeManifest manifest).length ≤ memory.block) :
    format.decodeManifest memory (format.encodeManifest manifest) = .ok manifest := by
  cases format with
  | json => exact decodeManifest_json memory manifest
  | binary =>
      have spelled := Manifest.readsAs_toBytes made (room rfl)
      have read := Codec.manifest_steady.under_append spelled (room rfl) []
      rwa [List.append_nil] at read

end ArchiveFormat

namespace Project

def accept (project : Project) : Except LoadError (Option Project) → Except LoadError Bool × Project
  | .ok (some loaded) => (.ok true, loaded)
  | .ok none => (.ok false, project)
  | .error error => (.error error, project)

def loadContent (project : Project) (memory : Memory) (format : ArchiveFormat) (path : String)
    (content : Except FileFault Bytes) : Except LoadError Bool × Project :=
  project.accept (ofFound (Snapshot.ofContent memory format path content))

theorem ofSnapshot_ok_of_distinct {snapshot : Snapshot}
    (distinct : (snapshot.steps.map (·.id)).Nodup) : ∃ loaded, ofSnapshot snapshot = .ok loaded := by
  obtain ⟨graph, loaded, -⟩ := Graph.ofParts_ok snapshot.connections distinct
  rw [ofSnapshot, loaded]
  exact ⟨_, rfl⟩

theorem MadeFrom.distinct {project : Project} {snapshot : Snapshot}
    (made : project.MadeFrom snapshot) : (snapshot.steps.map (·.id)).Nodup :=
  (Graph.loadedFrom_of_ofParts made.graph).distinct

theorem MadeFrom.wellFormed {project : Project} {snapshot : Snapshot}
    (made : project.MadeFrom snapshot) : project.graph.WellFormed :=
  (Graph.loadedFrom_of_ofParts made.graph).wellFormed

section Content

variable (project : Project) {memory : Memory} {format : ArchiveFormat} (path : String)
  {bytes : Bytes}

theorem loadContent_unread {fault : ReadFault} (unread : format.decode memory bytes = .error fault) :
    project.loadContent memory format path (.ok bytes) =
      (.error (.ofRead format fault), project) := by
  rw [loadContent, Snapshot.ofContent, unread]
  rfl

theorem loadContent_refused {snapshot : Snapshot} {error : GraphError}
    (read : format.decode memory bytes = .ok snapshot) (refused : ofSnapshot snapshot = .error error) :
    project.loadContent memory format path (.ok bytes) = (.error (.graph error), project) := by
  rw [loadContent, Snapshot.ofContent, read]
  show project.accept (((ofSnapshot snapshot).mapError .graph).map some) = _
  rw [refused]
  rfl

theorem loadContent_made {snapshot : Snapshot} {loaded : Project}
    (read : format.decode memory bytes = .ok snapshot) (made : ofSnapshot snapshot = .ok loaded) :
    project.loadContent memory format path (.ok bytes) = (.ok true, loaded) := by
  rw [loadContent, Snapshot.ofContent, read]
  show project.accept (((ofSnapshot snapshot).mapError .graph).map some) = _
  rw [made]
  rfl

end Content

theorem loadContent_saved {project : Project} (wellFormed : project.graph.WellFormed)
    (built : project.keywords.Built) {manifest : Manifest} (lists : manifest.Lists project.snapshot)
    {memory : Memory} {format : ArchiveFormat}
    (room : format = .binary → (format.encodeManifest manifest).length ≤ memory.block)
    (other : Project) (path : String) :
    other.loadContent memory format path (.ok (format.encodeManifest manifest)) =
      (.ok true, project.reloaded) := by
  have read := ArchiveFormat.decodeManifest_encodeManifest (lists.ofLists_eq built) room
  have decoded := ArchiveFormat.decode_eq_ok_iff.mpr ⟨manifest, read, lists.snapshot?_eq built⟩
  exact other.loadContent_made path decoded (ofSnapshot_snapshot wellFormed)

/-- The project and its keywords need no repair, and both come back from whatever they are saved in.
The file has to fit into memory once. -/
structure Settled (project : Project) : Prop where
  wellFormed : project.graph.WellFormed
  tidyRule : Keywords.Tidy project.keywords.rule
  tidyBehavior : Keywords.Tidy project.keywords.behavior
  comesBack (other : Project) (memory : Memory) (format : ArchiveFormat) (path : String)
    (manifest : Manifest) (lists : manifest.Lists project.snapshot)
    (room : format = .binary → (format.encodeManifest manifest).length ≤ memory.block) :
    ∃ again, other.loadContent memory format path (.ok (format.encodeManifest manifest)) =
      (.ok true, again) ∧ again.snapshot = project.snapshot

theorem MadeFrom.settled {project : Project} {snapshot : Snapshot}
    (made : project.MadeFrom snapshot) (built : snapshot.keywords.Built) : project.Settled := by
  rw [← made.keywords] at built
  refine ⟨made.wellFormed, built.normal.1.tidy, built.normal.2.tidy, ?_⟩
  intro other memory format path manifest lists room
  exact ⟨project.reloaded, loadContent_saved made.wellFormed built lists room other path, rfl⟩

section Outcome

variable (project : Project) (memory : Memory) (format : ArchiveFormat) (path : String)
  (bytes : Bytes)

theorem loadContent_cases :
    (∃ fault, format.decode memory bytes = .error fault ∧
      project.loadContent memory format path (.ok bytes) =
        (.error (.ofRead format fault), project)) ∨
    (∃ snapshot error, format.decode memory bytes = .ok snapshot ∧
      ¬ (snapshot.steps.map (·.id)).Nodup ∧
      project.loadContent memory format path (.ok bytes) = (.error (.graph error), project)) ∨
    ∃ snapshot loaded, format.decode memory bytes = .ok snapshot ∧
      project.loadContent memory format path (.ok bytes) = (.ok true, loaded) ∧
      loaded.MadeFrom snapshot := by
  cases read : format.decode memory bytes with
  | error fault => exact .inl ⟨fault, rfl, loadContent_unread project path read⟩
  | ok snapshot =>
      cases made : ofSnapshot snapshot with
      | error error =>
          have repeated : ¬ (snapshot.steps.map (·.id)).Nodup := by
            intro distinct
            obtain ⟨loaded, succeeded⟩ := ofSnapshot_ok_of_distinct distinct
            cases made.symm.trans succeeded
          exact .inr (.inl
            ⟨snapshot, error, rfl, repeated, loadContent_refused project path read made⟩)
      | ok loaded =>
          exact .inr (.inr ⟨snapshot, loaded, rfl, loadContent_made project path read made,
            madeFrom_of_ofSnapshot made⟩)

theorem loadContent_stopped_iff :
    (∃ claimed, project.loadContent memory format path (.ok bytes) =
      (.error (.stopped claimed), project)) ↔ ∃ claim ∈ format.claims bytes, memory.block < claim := by
  rw [← ArchiveFormat.exists_overrun_iff]
  obtain ⟨fault, read, failed⟩ | ⟨snapshot, error, read, -, failed⟩ |
      ⟨snapshot, loaded, read, done, -⟩ := project.loadContent_cases memory format path bytes
  · rw [read, failed]
    cases fault <;> simp [LoadError.ofRead]
  · simp [read, failed]
  · simp [read, done]

theorem loadContent_ok_iff : (project.loadContent memory format path (.ok bytes)).1 = .ok true ↔
    ∃ snapshot, format.decode memory bytes = .ok snapshot ∧ (snapshot.steps.map (·.id)).Nodup := by
  obtain ⟨fault, read, failed⟩ | ⟨snapshot, error, read, repeated, failed⟩ |
      ⟨snapshot, loaded, read, done, made⟩ := project.loadContent_cases memory format path bytes
  · simp [read, failed]
  · simp [read, failed, repeated]
  · simp [read, done, made.distinct]

end Outcome

/-- Loading stops the program if a text claims more bytes than can be had. Otherwise it fails and
leaves the project alone, unless the file spells a snapshot whose steps have distinct ids; then the
project is the one in the file, repaired once and for all. -/
theorem loadContent_settles (project : Project) (memory : Memory) (format : ArchiveFormat)
    (path : String) (bytes : Bytes) :
    ((∃ claimed, project.loadContent memory format path (.ok bytes) =
        (.error (.stopped claimed), project)) ↔
      ∃ claim ∈ format.claims bytes, memory.block < claim) ∧
    ((project.loadContent memory format path (.ok bytes)).1 = .ok true ↔
      ∃ snapshot, format.decode memory bytes = .ok snapshot ∧
        (snapshot.steps.map (·.id)).Nodup) ∧
    ((∀ claim ∈ format.claims bytes, claim ≤ memory.block) →
      (∃ error, error.isAnswer ∧
        project.loadContent memory format path (.ok bytes) = (.error error, project)) ∨
      ∃ snapshot loaded, format.decode memory bytes = .ok snapshot ∧
        project.loadContent memory format path (.ok bytes) = (.ok true, loaded) ∧
        loaded.MadeFrom snapshot ∧ loaded.Settled) := by
  refine ⟨project.loadContent_stopped_iff memory format path bytes,
    project.loadContent_ok_iff memory format path bytes, fun within => ?_⟩
  obtain ⟨fault, read, failed⟩ | ⟨snapshot, error, -, -, failed⟩ |
      ⟨snapshot, loaded, read, done, made⟩ := project.loadContent_cases memory format path bytes
  · refine .inl ⟨.ofRead format fault, ?_, failed⟩
    cases fault with
    | malformed => rfl
    | overrun claimed =>
        obtain ⟨claim, member, large⟩ := ArchiveFormat.exists_overrun_iff.mp ⟨claimed, read⟩
        exact absurd (within claim member) (Nat.not_le_of_lt large)
  · exact .inl ⟨.graph error, rfl, failed⟩
  · have settled := made.settled (ArchiveFormat.built_of_decode read)
    exact .inr ⟨snapshot, loaded, read, done, made, settled⟩

def tangledManifest : Manifest where
  steps := Graph.tangle
  connections := Graph.tangleConnections
  ruleKeywords := [" Is ", "IS"]
  behaviorKeywords := ["Click"]
  roles := [("a", .rule), ("ghost", .state), ("a", .behavior)]
  stateLabels := [("Nowhere", "N")]
  ruleLabels := []

def tangledSnapshot : Snapshot where
  steps := Graph.tangle
  connections := Graph.tangleConnections
  keywords := { rule := ["is"], behavior := ["click"] }
  roles := .ofList [("a", .behavior), ("ghost", .state)]
  dictionaries := { state := .ofList [("Nowhere", "N")] }

/-- The repaired tangle is saved in the other format and loaded again. -/
theorem loadContent_settles_tangle :
    (∀ claim ∈ ArchiveFormat.binary.claims (ArchiveFormat.binary.encodeManifest tangledManifest),
      claim ≤ Memory.full.block) ∧
    ∃ loaded again, loadContent {} .full .binary "old"
        (.ok (ArchiveFormat.binary.encodeManifest tangledManifest)) = (.ok true, loaded) ∧
      loaded.graph.WellFormed ∧ Keywords.Tidy loaded.keywords.rule ∧
      loaded.roles = tangledSnapshot.roles ∧
      importedTangle.loadContent .full .json "new"
        (.ok (ArchiveFormat.json.encodeManifest loaded.snapshot.manifest)) = (.ok true, again) ∧
      again.snapshot = loaded.snapshot := by
  have within : ∀ claim ∈ ArchiveFormat.binary.claims
      (ArchiveFormat.binary.encodeManifest tangledManifest), claim ≤ Memory.full.block := by
    decide +kernel
  have made : Keywords.ofLists tangledManifest.ruleKeywords tangledManifest.behaviorKeywords =
      .ok tangledSnapshot.keywords := by decide +kernel
  have read : ArchiveFormat.binary.decodeManifest .full
      (ArchiveFormat.binary.encodeManifest tangledManifest) = .ok tangledManifest :=
    ArchiveFormat.decodeManifest_encodeManifest made fun _ => by decide +kernel
  have known : ArchiveFormat.binary.decode .full
      (ArchiveFormat.binary.encodeManifest tangledManifest) = .ok tangledSnapshot :=
    ArchiveFormat.decode_eq_ok_iff.mpr ⟨tangledManifest, read, by decide +kernel⟩
  obtain ⟨-, succeeds, result⟩ := loadContent_settles {} .full .binary "old"
    (ArchiveFormat.binary.encodeManifest tangledManifest)
  refine ⟨within, ?_⟩
  rcases result within with ⟨error, -, failed⟩ | ⟨snapshot, loaded, decoded, done, made, settled⟩
  · have succeeded := succeeds.mpr ⟨tangledSnapshot, known, by decide⟩
    rw [failed] at succeeded
    cases succeeded
  · obtain rfl : tangledSnapshot = snapshot := Except.ok.inj (known.symm.trans decoded)
    obtain ⟨again, back, same⟩ := settled.comesBack importedTangle .full .json "new"
      loaded.snapshot.manifest (Manifest.lists_manifest _) nofun
    exact ⟨loaded, again, done, settled.wellFormed, settled.tidyRule, made.roles, back, same⟩

def endlessName : Bytes := [1, 253, 255, 255, 255, 255, 255, 255, 255, 255]

theorem loadContent_endlessName :
    loadContent {} .full .binary "f" (.ok endlessName) =
      (.error (.stopped 0xFFFFFFFFFFFFFFFF), {}) ∧
    ¬ (∃ error, error.isAnswer ∧
        (loadContent {} .full .binary "f" (.ok endlessName)).1 = .error error) ∧
    (loadContent {} .full .binary "f" (.ok endlessName)).1 ≠ .ok true := by
  have stopped : loadContent {} .full .binary "f" (.ok endlessName) =
      (.error (.stopped 0xFFFFFFFFFFFFFFFF), {}) := by
    have read : ArchiveFormat.binary.decode .full endlessName =
        .error (.overrun 0xFFFFFFFFFFFFFFFF) := by rfl
    exact loadContent_unread {} "f" read
  refine ⟨stopped, ?_, ?_⟩
  · rintro ⟨error, answered, failed⟩
    rw [stopped] at failed
    cases failed
    cases answered
  · rw [stopped]
    exact nofun

end Project

end StepFlow
