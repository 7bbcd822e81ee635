import StepFlow.Archive
import StepFlow.Proofs.Keywords
import StepFlow.Proofs.Outcome
import StepFlow.Proofs.TextMap

namespace StepFlow

namespace Manifest

structure Lists (manifest : Manifest) (snapshot : Snapshot) : Prop where
  steps : manifest.steps = snapshot.steps
  connections : manifest.connections = snapshot.connections
  ruleKeywords : manifest.ruleKeywords = snapshot.keywords.rule
  behaviorKeywords : manifest.behaviorKeywords = snapshot.keywords.behavior
  roles : manifest.roles.Perm snapshot.roles.entries
  stateLabels : manifest.stateLabels.Perm snapshot.dictionaries.state.entries
  ruleLabels : manifest.ruleLabels.Perm snapshot.dictionaries.rule.entries

theorem lists_manifest (snapshot : Snapshot) : snapshot.manifest.Lists snapshot :=
  ⟨rfl, rfl, rfl, rfl, .refl _, .refl _, .refl _⟩

theorem Lists.ofLists_eq {manifest : Manifest} {snapshot : Snapshot}
    (lists : manifest.Lists snapshot) (built : snapshot.keywords.Built) :
    Keywords.ofLists manifest.ruleKeywords manifest.behaviorKeywords = .ok snapshot.keywords := by
  rw [lists.ruleKeywords, lists.behaviorKeywords]
  exact Keywords.ofLists_of_built built

theorem Lists.snapshot?_eq {manifest : Manifest} {snapshot : Snapshot}
    (lists : manifest.Lists snapshot) (built : snapshot.keywords.Built) :
    manifest.snapshot? = some snapshot := by
  rw [snapshot?, lists.ofLists_eq built, lists.steps, lists.connections,
    TextMap.ofList_of_perm lists.roles, TextMap.ofList_of_perm lists.stateLabels,
    TextMap.ofList_of_perm lists.ruleLabels]
  rfl

theorem built_of_snapshot? {manifest : Manifest} {snapshot : Snapshot}
    (read : manifest.snapshot? = some snapshot) : snapshot.keywords.Built := by
  obtain ⟨keywords, made, shown⟩ := Option.bind_eq_some_iff.mp read
  obtain rfl := Option.some.inj shown
  exact Keywords.built_of_toOption made

end Manifest

namespace ArchiveFormat

variable {format : ArchiveFormat} {memory : Memory} {bytes : Bytes} {snapshot : Snapshot}

theorem decode_eq_ok_iff : format.decode memory bytes = .ok snapshot ↔
    ∃ manifest, format.decodeManifest memory bytes = .ok manifest ∧
      manifest.snapshot? = some snapshot := by
  rw [decode, bind_eq_ok_iff]
  simp only [orMalformed_eq_ok_iff]

theorem built_of_decode (decoded : format.decode memory bytes = .ok snapshot) :
    snapshot.keywords.Built := by
  obtain ⟨manifest, -, shown⟩ := decode_eq_ok_iff.mp decoded
  exact manifest.built_of_snapshot? shown

end ArchiveFormat

end StepFlow
