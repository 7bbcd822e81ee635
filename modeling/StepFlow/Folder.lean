import StepFlow.Path
import StepFlow.TextMap

/-!
A folder held in memory. A file is kept under the names that lead to it, whichever way its path
is spelled. Outside the folder there are only the directories above it and the root, which hold
nothing until a file is written there.
-/
namespace StepFlow

structure Folder where
  files : TextMap Bytes := ∅
  directories : List String := []
  deriving DecidableEq, Repr

namespace Folder

/-- The root has the blank name, and the directories above the folder are spelled with `..`. -/
def pathOf (names : List String) : String := "/".intercalate names

def isAbove (names : List String) : Bool := names.all (· = "..")

def isRoot (names : List String) : Bool := names = [""]

def isDirectory (folder : Folder) (names : List String) : Bool :=
  isAbove names || isRoot names || pathOf names ∈ folder.directories

def hasFile (folder : Folder) (names : List String) : Bool := folder.files.contains (pathOf names)

def parent (names : List String) : List String :=
  if isRoot names then names
  else if isAbove names then names ++ [".."]
  else names.dropLast

def follow (folder : Folder) (names : List String) (name : String) : Except FileFault (List String) :=
  if name = "." then .ok names
  else if name = ".." then .ok (parent names)
  else if name.utf8ByteSize > Path.nameLimit then .error .nameTooLong
  else if folder.isDirectory (names ++ [name]) then .ok (names ++ [name])
  else if folder.hasFile (names ++ [name]) then .error .notDirectory
  else .error .notFound

def enter (folder : Folder) (path : Path) : Except FileFault (List String) :=
  path.way.foldlM folder.follow (if path.absolute then [""] else [])

def fileIn (folder : Folder) (names : List String) (name : String) : Except FileFault String :=
  if name = "." || name = ".." then .error .isDirectory
  else if name.utf8ByteSize > Path.nameLimit then .error .nameTooLong
  else if folder.isDirectory (names ++ [name]) then .error .isDirectory
  else .ok (pathOf (names ++ [name]))

def read (folder : Folder) (text : String) : Except FileFault Bytes := do
  let path ← Path.parse text
  let file ← folder.fileIn (← folder.enter path) path.last
  match folder.files.get? file with
  | none => throw .notFound
  | some content => if path.slashed then throw .notDirectory else return content

/-- Makes a new file where there is none. With slashes behind it no name is fit for a file. -/
def write (folder : Folder) (text : String) (content : Bytes) : Except FileFault Folder := do
  let path ← Path.parse text
  let names ← folder.enter path
  if path.slashed then throw .isDirectory
  let file ← folder.fileIn names path.last
  return { folder with files := folder.files.insert file content }

def access : Files (StateM Folder) where
  read path := return (← get).read path
  write path content := do
    match (← get).write path content with
    | .ok changed => set changed; return .ok ()
    | .error fault => return .error fault

end Folder

end StepFlow
