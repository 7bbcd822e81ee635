import StepFlow.Archive
import StepFlow.Proofs.Codec
import StepFlow.Proofs.Snapshot.Manifest

namespace StepFlow

namespace Codec

theorem lawful_role : role.Lawful := lawful_choice (by rintro (_ | _ | _) <;> decide) (by decide)

theorem lawful_outcome : outcome.Lawful := lawful_choice (by rintro (_ | _) <;> decide) (by decide)

theorem lawful_stepId : stepId.Lawful := lawful_text.via fun _ => rfl

theorem lawful_texts : texts.Lawful := lawful_text.list

theorem lawful_step : step.Lawful :=
  (lawful_stepId.pair <| lawful_text.pair <| lawful_text.option.pair <| lawful_text.pair <|
    lawful_role.option.pair <| lawful_stepId.option.pair <| lawful_texts.pair <|
      lawful_texts.pair lawful_texts).via fun _ => rfl

theorem lawful_connection : connection.Lawful :=
  (lawful_stepId.pair <| lawful_stepId.pair lawful_outcome).via fun _ => rfl

theorem lawful_labels : labels.Lawful := (lawful_text.pair lawful_text).list

theorem keywordLists_steady : Steady keywordLists.read :=
  via_steady (lawful_texts.pair lawful_texts).steady

theorem keywordLists_readsAs {lists : List String × List String} {keywords : Keywords}
    (made : Keywords.ofLists lists.1 lists.2 = .ok keywords)
    (room : (keywordLists.write lists).length < 2 ^ 64) :
    ReadsAs keywordLists.read (keywordLists.write lists) lists :=
  via_readsAs ((lawful_texts.pair lawful_texts).readsBack lists room) (by rw [made]; rfl)

theorem lawful_maps : ((text.pair role).list.pair <| labels.pair labels).Lawful :=
  (lawful_text.pair lawful_role).list.pair <| lawful_labels.pair lawful_labels

theorem manifest_steady : Steady manifest.read :=
  via_steady <| pair_steady lawful_step.list.steady <| pair_steady lawful_connection.list.steady <|
    pair_steady keywordLists_steady lawful_maps.steady

theorem manifest_readsAs {value : Manifest} {keywords : Keywords}
    (made : Keywords.ofLists value.ruleKeywords value.behaviorKeywords = .ok keywords)
    (room : (manifest.write value).length < 2 ^ 64) :
    ReadsAs manifest.read (manifest.write value) value := by
  have form : manifest.write value = step.list.write value.steps ++
      (connection.list.write value.connections ++
        (keywordLists.write (value.ruleKeywords, value.behaviorKeywords) ++
          ((text.pair role).list.pair <| labels.pair labels).write
            (value.roles, value.stateLabels, value.ruleLabels))) := rfl
  rw [form] at room ⊢
  simp only [List.length_append] at room
  have steps := lawful_step.list.readsBack value.steps (by omega)
  have connections := lawful_connection.list.readsBack value.connections (by omega)
  have lists : ReadsAs keywordLists.read _ (value.ruleKeywords, value.behaviorKeywords) :=
    keywordLists_readsAs made (by omega)
  have maps := lawful_maps.readsBack (value.roles, value.stateLabels, value.ruleLabels) (by omega)
  exact via_readsAs (pair_readsAs lawful_step.list.steady steps <|
    pair_readsAs lawful_connection.list.steady connections <|
      pair_readsAs keywordLists_steady lists maps) rfl

end Codec

theorem Manifest.readsAs_toBytes {manifest : Manifest} {keywords : Keywords} {memory : Memory}
    (made : Keywords.ofLists manifest.ruleKeywords manifest.behaviorKeywords = .ok keywords)
    (room : manifest.toBytes.length ≤ memory.block) :
    Codec.ReadsAs Codec.manifest.read manifest.toBytes manifest := by
  have addressable := memory.addressable
  exact Codec.manifest_readsAs made (by rw [toBytes] at room; omega)

namespace Snapshot

/-- A file with the binary form of a snapshot holds that snapshot, whatever the order in which the
maps were written and whatever is behind, and a file that was cut short holds none. The form has to
fit into memory once to be written at all. -/
theorem ofContent_binary {snapshot : Snapshot} {manifest : Manifest}
    (lists : manifest.Lists snapshot) (built : snapshot.keywords.Built) {memory : Memory}
    (room : (ArchiveFormat.binary.encodeManifest manifest).length ≤ memory.block) (path : String) :
    (∀ further, ofContent memory .binary path
        (.ok (ArchiveFormat.binary.encodeManifest manifest ++ further)) = .ok (some snapshot)) ∧
      ∀ part, part <+: ArchiveFormat.binary.encodeManifest manifest →
        part ≠ ArchiveFormat.binary.encodeManifest manifest →
          ofContent memory .binary path (.ok part) = .error (.malformed .binary) := by
  have spelled := Manifest.readsAs_toBytes (lists.ofLists_eq built) room
  constructor
  · intro further
    have read : ArchiveFormat.binary.decodeManifest memory (manifest.toBytes ++ further) =
        .ok manifest := Codec.manifest_steady.under_append spelled room further
    rw [ofContent, ArchiveFormat.encodeManifest,
      ArchiveFormat.decode_eq_ok_iff.mpr ⟨manifest, read, lists.snapshot?_eq built⟩]
    rfl
  · intro part cut shorter
    have unread : ArchiveFormat.binary.decodeManifest memory part = .error .malformed :=
      Codec.manifest_steady.under_cut spelled room cut shorter
    rw [ofContent, ArchiveFormat.decode, unread]
    rfl

def doorbell : Snapshot where
  steps :=
    [{ id := ⟨"door"⟩, name := "Tür", nickname := some "door" },
     { id := ⟨"bell"⟩, name := "May ring", declaredRole := some .rule, parent := some ⟨"door"⟩ }]
  connections := [⟨⟨"door"⟩, ⟨"bell"⟩, .failure⟩]
  keywords := { rule := ["may"], behavior := ["ring", "ως"] }
  roles := .ofList [("bell", .rule), ("door", .state)]
  dictionaries := { state := .ofList [("Tür", "DOOR")] }

/-- The roles stand in the order of the steps, not in that of their keys. -/
def doorbellManifest : Manifest :=
  { doorbell.manifest with roles := [("door", .state), ("bell", .rule)] }

theorem ofContent_binary_doorbell : doorbellManifest.Lists doorbell ∧ doorbell.keywords.Built ∧
    (ArchiveFormat.binary.encodeManifest doorbellManifest).length ≤ Memory.full.block ∧
    ofContent .full .binary "doors"
      (.ok (ArchiveFormat.binary.encodeManifest doorbellManifest ++ [0])) = .ok (some doorbell) ∧
    ofContent .full .binary "doors"
      (.ok (ArchiveFormat.binary.encodeManifest doorbellManifest).dropLast) =
        .error (.malformed .binary) := by
  have roles : doorbellManifest.roles.Perm doorbell.roles.entries := by
    have sorted : doorbell.roles.entries = [("bell", .rule), ("door", .state)] := by decide +kernel
    rw [sorted]
    exact .swap _ _ _
  have lists : doorbellManifest.Lists doorbell := ⟨rfl, rfl, rfl, rfl, roles, .refl _, .refl _⟩
  have built : doorbell.keywords.Built := ⟨["May", " may "], ["ring", "ΩΣ"], by decide +kernel⟩
  have room : (ArchiveFormat.binary.encodeManifest doorbellManifest).length ≤
      Memory.full.block := by decide +kernel
  have shorter : (ArchiveFormat.binary.encodeManifest doorbellManifest).dropLast ≠
      ArchiveFormat.binary.encodeManifest doorbellManifest := by decide +kernel
  obtain ⟨whole, cut⟩ := ofContent_binary lists built room "doors"
  exact ⟨lists, built, room, whole [0], cut _ (List.dropLast_prefix _) shorter⟩

end Snapshot

end StepFlow
