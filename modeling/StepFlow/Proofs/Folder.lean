import Mathlib.Tactic.SplitIfs
import StepFlow.Folder
import StepFlow.Proofs.Outcome
import StepFlow.Proofs.TextMap

namespace StepFlow

namespace Folder

/-- The place that a path leads to, whether or not there is a file yet. -/
def locate (folder : Folder) (text : String) : Except FileFault String := do
  let path ← Path.parse text
  let names ← folder.enter path
  if path.slashed then throw .isDirectory
  folder.fileIn names path.last

def Apart (folder : Folder) (left right : String) : Prop :=
  ∀ file, folder.locate left = .ok file → folder.locate right ≠ .ok file

theorem apart_of_ne {folder : Folder} {left right : String}
    (different : folder.locate left ≠ folder.locate right) : folder.Apart left right := by
  intro file locatedLeft locatedRight
  exact different (locatedLeft.trans locatedRight.symm)

def writeAll (folder : Folder) (files : List (String × Bytes)) : Except FileFault Folder :=
  files.foldlM (fun folder file => folder.write file.1 file.2) folder

theorem locate_eq_ok_iff {folder : Folder} {text file : String} : folder.locate text = .ok file ↔
    ∃ path names, Path.parse text = .ok path ∧ folder.enter path = .ok names ∧
      path.slashed = false ∧ folder.fileIn names path.last = .ok file := by
  constructor
  · intro located
    rcases bind_eq_ok_iff.mp located with ⟨path, parsed, located⟩
    rcases bind_eq_ok_iff.mp located with ⟨names, entered, located⟩
    cases slashed : path.slashed with
    | true =>
        rw [slashed] at located
        cases located
    | false =>
        rw [slashed] at located
        exact ⟨path, names, parsed, entered, slashed, located⟩
  · rintro ⟨path, names, parsed, entered, unslashed, found⟩
    refine bind_eq_ok_iff.mpr ⟨path, parsed, bind_eq_ok_iff.mpr ⟨names, entered, ?_⟩⟩
    rw [unslashed]
    exact found

theorem read_eq_ok_iff {folder : Folder} {text : String} {content : Bytes} :
    folder.read text = .ok content ↔
      ∃ file, folder.locate text = .ok file ∧ folder.files.get? file = some content := by
  constructor
  · intro reads
    rcases bind_eq_ok_iff.mp reads with ⟨path, parsed, reads⟩
    rcases bind_eq_ok_iff.mp reads with ⟨names, entered, reads⟩
    rcases bind_eq_ok_iff.mp reads with ⟨file, found, reads⟩
    cases held : folder.files.get? file with
    | none => simp [held] at reads
    | some kept =>
        cases slashed : path.slashed with
        | true => simp [held, slashed] at reads
        | false =>
            rw [held, slashed] at reads
            cases reads
            exact ⟨file, locate_eq_ok_iff.mpr ⟨path, names, parsed, entered, slashed, found⟩, held⟩
  · rintro ⟨file, located, held⟩
    rcases locate_eq_ok_iff.mp located with ⟨path, names, parsed, entered, unslashed, found⟩
    refine bind_eq_ok_iff.mpr ⟨path, parsed, bind_eq_ok_iff.mpr ⟨names, entered, ?_⟩⟩
    refine bind_eq_ok_iff.mpr ⟨file, found, ?_⟩
    rw [held, unslashed]
    rfl

theorem write_eq_map (folder : Folder) (text : String) (content : Bytes) :
    folder.write text content = (folder.locate text).map fun file =>
      { folder with files := folder.files.insert file content } := by
  rw [write, locate]
  cases Path.parse text with
  | error fault => rfl
  | ok path =>
      dsimp only [bind, Except.bind]
      cases folder.enter path with
      | error fault => rfl
      | ok names =>
          cases path.slashed with
          | true => rfl
          | false => cases folder.fileIn names path.last <;> rfl

theorem write_eq_ok_iff {folder after : Folder} {text : String} {content : Bytes} :
    folder.write text content = .ok after ↔ ∃ file, folder.locate text = .ok file ∧
      { folder with files := folder.files.insert file content } = after := by
  rw [write_eq_map]
  cases folder.locate text <;> simp [Except.map]

section Directories

variable {folder other : Folder} (same : other.directories = folder.directories)

include same

theorem isDirectory_congr : other.isDirectory = folder.isDirectory := by
  funext names
  rw [isDirectory, isDirectory, same]

/-- Files only decide what the fault is. -/
theorem follow_congr {names next : List String} {name : String}
    (followed : folder.follow names name = .ok next) : other.follow names name = .ok next := by
  rw [follow] at followed ⊢
  rw [isDirectory_congr same]
  split_ifs at followed ⊢ <;> exact followed

theorem enter_congr {path : Path} {names : List String} (entered : folder.enter path = .ok names) :
    other.enter path = .ok names :=
  foldlM_ok_mono (fun _ _ _ => follow_congr same) entered

theorem fileIn_congr (names : List String) (name : String) :
    other.fileIn names name = folder.fileIn names name := by
  rw [fileIn, fileIn, isDirectory_congr same]

theorem locate_congr {text file : String} (located : folder.locate text = .ok file) :
    other.locate text = .ok file := by
  rcases locate_eq_ok_iff.mp located with ⟨path, names, parsed, entered, unslashed, found⟩
  refine locate_eq_ok_iff.mpr ⟨path, names, parsed, enter_congr same entered, unslashed, ?_⟩
  rw [fileIn_congr same, found]

end Directories

section Write

variable {folder after : Folder} {text : String} {content : Bytes}
  (written : folder.write text content = .ok after)

include written

theorem write_directories : after.directories = folder.directories := by
  rcases write_eq_ok_iff.mp written with ⟨file, -, rfl⟩
  rfl

theorem read_of_write : after.read text = .ok content := by
  have same := write_directories written
  rcases write_eq_ok_iff.mp written with ⟨file, located, rfl⟩
  refine read_eq_ok_iff.mpr ⟨file, locate_congr same located, ?_⟩
  exact (TextMap.get?_insert _ _ _ _).trans (if_pos rfl)

theorem Apart.after_write {left right : String} (apart : folder.Apart left right) :
    after.Apart left right := by
  have same := write_directories written
  intro file locatedLeft locatedRight
  exact apart file (locate_congr same.symm locatedLeft) (locate_congr same.symm locatedRight)

theorem read_of_write_elsewhere {other : String} {kept : Bytes}
    (apart : folder.Apart text other) (reads : folder.read other = .ok kept) :
    after.read other = .ok kept := by
  have same := write_directories written
  rcases write_eq_ok_iff.mp written with ⟨file, located, rfl⟩
  rcases read_eq_ok_iff.mp reads with ⟨otherFile, locatedOther, held⟩
  have different : otherFile ≠ file := by
    intro one
    rw [one] at locatedOther
    exact apart file located locatedOther
  refine read_eq_ok_iff.mpr ⟨otherFile, locate_congr same locatedOther, ?_⟩
  rw [TextMap.get?_insert, if_neg different, held]

end Write

theorem writeAll_cons_iff {folder after : Folder} {path : String} {content : Bytes}
    {rest : List (String × Bytes)} : folder.writeAll ((path, content) :: rest) = .ok after ↔
      ∃ middle, folder.write path content = .ok middle ∧ middle.writeAll rest = .ok after :=
  bind_eq_ok_iff

theorem exists_writeAll_iff {folder : Folder} {files : List (String × Bytes)} :
    (∃ after, folder.writeAll files = .ok after) ↔
      ∀ path ∈ files.map Prod.fst, ∃ place, folder.locate path = .ok place := by
  induction files generalizing folder with
  | nil => exact ⟨fun _ => nofun, fun _ => ⟨folder, rfl⟩⟩
  | cons file rest ih =>
      rw [List.map_cons, List.forall_mem_cons]
      constructor
      · rintro ⟨after, written⟩
        rcases writeAll_cons_iff.mp written with ⟨middle, first, later⟩
        rcases write_eq_ok_iff.mp first with ⟨place, located, -⟩
        refine ⟨⟨place, located⟩, fun path member => ?_⟩
        rcases ih.mp ⟨after, later⟩ path member with ⟨placeToo, locatedToo⟩
        exact ⟨placeToo, locate_congr (write_directories first).symm locatedToo⟩
      · rintro ⟨⟨place, located⟩, locatedRest⟩
        obtain ⟨middle, first⟩ : ∃ middle, folder.write file.1 file.2 = .ok middle :=
          ⟨_, write_eq_ok_iff.mpr ⟨place, located, rfl⟩⟩
        have later := ih.mpr fun path member =>
          (locatedRest path member).imp fun _ => locate_congr (write_directories first)
        rcases later with ⟨after, written⟩
        exact ⟨after, writeAll_cons_iff.mpr ⟨middle, first, written⟩⟩

theorem writeAll_directories {folder after : Folder} {files : List (String × Bytes)}
    (written : folder.writeAll files = .ok after) : after.directories = folder.directories := by
  induction files generalizing folder with
  | nil =>
      cases written
      rfl
  | cons file rest ih =>
      rcases writeAll_cons_iff.mp written with ⟨middle, first, later⟩
      exact (ih later).trans (write_directories first)

theorem read_of_writeAll_elsewhere {folder after : Folder} {files : List (String × Bytes)}
    (written : folder.writeAll files = .ok after) {text : String} {content : Bytes}
    (apart : ∀ file ∈ files, folder.Apart file.1 text) (reads : folder.read text = .ok content) :
    after.read text = .ok content := by
  induction files generalizing folder with
  | nil =>
      cases written
      exact reads
  | cons file rest ih =>
      rcases bind_eq_ok_iff.mp written with ⟨middle, first, later⟩
      have apartFirst := apart file List.mem_cons_self
      have apartLater : ∀ other ∈ rest, middle.Apart other.1 text := fun other member =>
        (apart other (List.mem_cons_of_mem file member)).after_write first
      exact ih later apartLater (read_of_write_elsewhere first apartFirst reads)

theorem read_of_writeAll {folder after : Folder} {files : List (String × Bytes)}
    (written : folder.writeAll files = .ok after)
    (apart : files.Pairwise fun file other => folder.Apart other.1 file.1) :
    ∀ file ∈ files, after.read file.1 = .ok file.2 := by
  induction files generalizing folder with
  | nil => exact nofun
  | cons file rest ih =>
      rcases bind_eq_ok_iff.mp written with ⟨middle, first, later⟩
      rcases List.pairwise_cons.mp apart with ⟨apartFirst, apartRest⟩
      intro given member
      rcases List.mem_cons.mp member with same | inRest
      · rw [same]
        have apartLater : ∀ other ∈ rest, middle.Apart other.1 file.1 := fun other member =>
          (apartFirst other member).after_write first
        exact read_of_writeAll_elsewhere later apartLater (read_of_write first)
      · exact ih later (apartRest.imp fun apart => apart.after_write first) given inRest

end Folder

end StepFlow
