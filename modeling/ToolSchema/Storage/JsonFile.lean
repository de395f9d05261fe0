import ToolSchema.Json.Complaint
import ToolSchema.Machine
import ToolSchema.Storage.Tree

/-! Files that hold JSON text. A file is read whole, its bytes have to be UTF-8, and its text has to
be JSON whose containers do not nest too deep. What a reader of the file may answer for is told apart
from what interrupts it. -/

namespace ToolSchema

/-- Why a file gives no value. -/
inductive JsonFileError where
  | refused (refusal : OsError)
  | unnameable
  | undecodable
  | invalid (complaint : Json.Complaint)
  | oversizedInteger (digits : Nat)
  | overdeep (kind : Json.Kind)
  deriving DecidableEq, Repr

/-- Failures that no part of the program reports as its own; they interrupt whatever is going on. -/
inductive Interruption where
  | undecodable
  /-- A path with a name that the system does not take. -/
  | unnameable
  | oversizedInteger (digits : Nat)
  /-- A container of JSON text that is opened inside too many others. -/
  | overdeep (kind : Json.Kind)
  /-- A value of too many layers that has to be shown. -/
  | overdeepValue
  /-- A directory that a search would enter from inside too many others. -/
  | overdeepSearch
  /-- A path that cannot even be looked at. -/
  | system (refusal : OsError)
  deriving DecidableEq, Repr

/-- How an opened container is called where it is one too many. -/
def Json.Kind.containerName : Json.Kind → String
  | .obj => "object"
  | _ => "array"

/-- What an interruption says, if it says anything. -/
def Interruption.message? : Interruption → Option String
  | .undecodable => none
  | .unnameable => some "embedded null byte"
  | .oversizedInteger digits => some (Decimal.overlongMessage digits)
  | .overdeep kind =>
    some (s!"maximum recursion depth exceeded while decoding a JSON {kind.containerName} " ++
      "from a unicode string")
  | .overdeepValue =>
    some "maximum recursion depth exceeded while getting the repr of an object"
  | .overdeepSearch => some "maximum recursion depth exceeded"
  | .system refusal => some refusal.message

/-- The value that bytes hold. -/
def Json.ofBytes (machine : Machine) (content : ByteArray) : Except JsonFileError Json :=
  match String.fromUTF8? content with
  | none => .error .undecodable
  | some text =>
    match Json.readWithin machine.nesting text with
    | .ok value => .ok value
    | .error .invalid => .error (.invalid (Json.complaint text))
    | .error (.oversized digits) => .error (.oversizedInteger digits)
    | .error (.overdeep kind) => .error (.overdeep kind)

def FileTree.readJson (machine : Machine) (tree : FileTree) (path : FilePath) :
    Except JsonFileError Json := do
  if !path.isNameable then throw .unnameable
  Json.ofBytes machine (← (tree.readFile path).mapError .refused)

end ToolSchema
