import ToolSchema.Descriptor.Document
import ToolSchema.Descriptor.Selection
import ToolSchema.Log
import ToolSchema.Storage.Search

/-! Loading descriptors from files. A file holds one document; a directory stands for all documents
below it, merged in the order of their paths. An error of loading is told to the user with the path
it is about; everything else interrupts. -/

namespace ToolSchema

inductive LoadError where
  | document (error : DocumentError)
  | unreadable (path : FilePath) (refusal : OsError)
  | invalidJson (path : FilePath) (complaint : Json.Complaint)
  | missingDirectory (path : FilePath)
  deriving DecidableEq, Repr

def LoadError.message : LoadError → String
  | .document error => error.message
  | .unreadable path refusal => s!"Failed to read file {path}: {refusal.message}"
  | .invalidJson path complaint => s!"Invalid JSON in {path}: {complaint.message}"
  | .missingDirectory path => s!"Input directory not found: {path}"

inductive LoadFailure where
  | error (error : LoadError)
  | interrupted (cause : Interruption)
  deriving DecidableEq, Repr

def LoadFailure.ofFile (path : FilePath) : JsonFileError → LoadFailure
  | .refused refusal => .error (.unreadable path refusal)
  | .invalid complaint => .error (.invalidJson path complaint)
  | .undecodable => .interrupted .undecodable
  | .unnameable => .interrupted .unnameable
  | .oversizedInteger digits => .interrupted (.oversizedInteger digits)
  | .overdeep kind => .interrupted (.overdeep kind)

namespace DescriptorSet

variable (machine : Machine) (tree : FileTree) (path : FilePath)

/-- The descriptors of the document in a file. -/
def readFile : Except LoadFailure DescriptorSet := do
  let document ← (tree.readJson machine path).mapError (LoadFailure.ofFile path)
  (ofJson document path.toString).mapError fun error => .error (.document error)

def loadFile : Logged LoadFailure DescriptorSet := do
  let set ← Logged.ofExcept (readFile machine tree path)
  Logged.note .loader .info
    s!"Loaded {set.records.length} record(s) and {set.enums.length} enum(s) from {path}"
  return set

/-- Descriptors with those of some files merged into them, file by file. -/
def loadEach (machine : Machine) (tree : FileTree) :
    DescriptorSet → List FilePath → Logged LoadFailure DescriptorSet
  | set, [] => Logged.ok set
  | set, path :: rest => do
    let loaded ← loadFile machine tree path
    let merged ← Logged.ofExcept ((set.merge loaded path.toString).mapError fun error =>
      LoadFailure.error (.document error))
    loadEach machine tree merged rest

/-- The end of the names of files that hold documents. -/
def documentSuffix : String := ".json"

def loadDirectory : Logged LoadFailure DescriptorSet := do
  match tree.isDirectory? path with
  | .error refusal => Logged.fail (.interrupted (.system refusal))
  | .ok false => Logged.fail (.error (.missingDirectory path))
  | .ok true =>
    let files ← Logged.ofExcept
      ((tree.search machine path documentSuffix).mapError .interrupted)
    if files.isEmpty then
      Logged.note .loader .warning s!"No descriptor documents found in {path}"
    loadEach machine tree {} files

end DescriptorSet

/-- The warning about requested names that are missing. -/
def Selection.warnings (selection : Selection) : List Log.Entry :=
  if selection.missing.isEmpty then []
  else [⟨.loader, .warning,
    "Could not find target(s): " ++ ", ".intercalate selection.missing⟩]

end ToolSchema
