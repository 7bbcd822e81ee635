import StepFlow.Files
import StepFlow.Snapshot.Binary
import StepFlow.Snapshot.Json

namespace StepFlow

inductive ArchiveFormat
  | json
  | binary
  deriving DecidableEq, Repr

inductive LoadError
  | file (path : String) (fault : FileFault)
  | malformed (format : ArchiveFormat)
  | graph (error : GraphError)
  /-- No answer at all: the program ends for want of room for a text of this length. -/
  | stopped (claimed : Nat)
  deriving DecidableEq, Repr

def FileFault.messageAt (fault : FileFault) (path : String) : String :=
  s!"I/O error on '{path}': {fault.message}"

def LoadError.message : LoadError → String
  | file path fault => fault.messageAt path
  | malformed .json => "Snapshot JSON is invalid"
  | malformed .binary => "Snapshot encoding failed"
  | graph error => s!"Snapshot describes an inconsistent graph: {error.message}"
  | stopped claimed =>
      if claimed ≤ Memory.full.block then s!"memory allocation of {claimed} bytes failed"
      else "capacity overflow"

def LoadError.isAnswer : LoadError → Bool
  | stopped _ => false
  | _ => true

def LoadError.ofRead (format : ArchiveFormat) : ReadFault → LoadError
  | .malformed => malformed format
  | .overrun claimed => stopped claimed

namespace ArchiveFormat

def encodeManifest (format : ArchiveFormat) (manifest : Manifest) : Bytes :=
  match format with
  | json => Text.encodeUtf8 (manifest.toJson.pretty 0)
  | binary => manifest.toBytes

def decodeManifest (format : ArchiveFormat) (memory : Memory) (bytes : Bytes) :
    Except ReadFault Manifest :=
  match format with
  | json => orMalformed ((Json.ofBytes? bytes).bind Manifest.ofJson?)
  | binary => Manifest.ofBytes memory bytes

def encode (format : ArchiveFormat) (snapshot : Snapshot) : Bytes :=
  format.encodeManifest snapshot.manifest

def decode (format : ArchiveFormat) (memory : Memory) (bytes : Bytes) :
    Except ReadFault Snapshot := do
  orMalformed (← format.decodeManifest memory bytes).snapshot?

end ArchiveFormat

namespace Snapshot

/-- What the content of a file comes to. That there is no file yet is no error. -/
def ofContent (memory : Memory) (format : ArchiveFormat) (path : String) :
    Except FileFault Bytes → Except LoadError (Option Snapshot)
  | .error .notFound => .ok none
  | .error fault => .error (.file path fault)
  | .ok bytes => ((format.decode memory bytes).mapError (.ofRead format)).map some

variable {m : Type → Type} [Monad m]

def read (files : Files m) (memory : Memory) (format : ArchiveFormat) (path : String) :
    m (Except LoadError (Option Snapshot)) := do
  return ofContent memory format path (← files.read path)

end Snapshot

namespace Project

def ofFound : Except LoadError (Option Snapshot) → Except LoadError (Option Project)
  | .error error => .error error
  | .ok none => .ok none
  | .ok (some snapshot) => ((ofSnapshot snapshot).mapError .graph).map some

variable {m : Type → Type} [Monad m]

def load (files : Files m) (memory : Memory) (format : ArchiveFormat) (path : String) :
    m (Except LoadError (Option Project)) := do
  return ofFound (← Snapshot.read files memory format path)

def save (files : Files m) (format : ArchiveFormat) (path : String) (project : Project) :
    m (Except FileFault Unit) :=
  files.write path (format.encode project.snapshot)

end Project

end StepFlow
