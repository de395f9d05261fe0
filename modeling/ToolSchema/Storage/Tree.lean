import ToolSchema.Distinct
import ToolSchema.Storage.Path
import ToolSchema.Table
import ToolSchema.Text.Quoted

/-! File trees. A tree is a list of places with what stands there, a directory or a file; a place is
the list of names that leads to it from the root, which is always a directory. Relative paths start
at a base directory. A path is followed name by name, as the system does it, and what the system
refuses is refused for the same cause: something missing on the way, a file in place of a directory,
a name that is too long. A name with the null character leads nowhere and cannot be written. -/

namespace ToolSchema

inductive OsErrorKind where
  | noEntry
  | fileExists
  | notDirectory
  | isDirectory
  | nameTooLong
  deriving DecidableEq, Repr

def OsErrorKind.number : OsErrorKind → Nat
  | .noEntry => 2
  | .fileExists => 17
  | .notDirectory => 20
  | .isDirectory => 21
  | .nameTooLong => 36

def OsErrorKind.text : OsErrorKind → String
  | .noEntry => "No such file or directory"
  | .fileExists => "File exists"
  | .notDirectory => "Not a directory"
  | .isDirectory => "Is a directory"
  | .nameTooLong => "File name too long"

/-- A refusal of the system, and the path that it is about. -/
structure OsError where
  kind : OsErrorKind
  path : String
  deriving DecidableEq, Repr

def OsError.message (e : OsError) : String :=
  s!"[Errno {e.kind.number}] {e.kind.text}: {Text.quoted e.path}"

/-- A refusal that ended the writing of a file, told with the path that was asked for. -/
def OsError.writeMessage (path : FilePath) (e : OsError) : String :=
  s!"Failed to write file {path}: {e.message}"

/-- Why a file is not written. -/
inductive WriteFailure where
  | refused (refusal : OsError)
  /-- The path holds a name that the system does not take. -/
  | unnameable
  deriving DecidableEq, Repr

inductive Node where
  | directory
  | file (content : ByteArray)

instance : DecidableEq Node
  | .directory, .directory => isTrue rfl
  | .directory, .file _ => isFalse nofun
  | .file _, .directory => isFalse nofun
  | .file ⟨a⟩, .file ⟨b⟩ =>
    if h : a = b then isTrue (by rw [h]) else isFalse fun he => h (by simpa using he)

abbrev Place := List String

/-- The order of places: the first names that differ decide, and a place comes before those below
it. -/
def Place.le : Place → Place → Bool
  | [], _ => true
  | _ :: _, [] => false
  | a :: as, b :: bs => if a = b then Place.le as bs else decide (a < b)

structure FileTree where
  base : Place := []
  entries : Table Node Place := []

/-- Where a path leads: to something that exists, or to a place in an existing directory where
nothing stands. -/
inductive Target where
  | existing (place : Place) (node : Node)
  | vacant (place : Place)

namespace FileTree

def node? (tree : FileTree) (place : Place) : Option Node :=
  if place = [] then some .directory else tree.entries.find? place

/-- The tree with something at a place, instead of what stood there. -/
def put (tree : FileTree) (place : Place) (node : Node) : FileTree :=
  { tree with entries := tree.entries.put place node }

/-- The most bytes of a name. -/
def maxName : Nat := 255

/-- A path of this many bytes is too long. -/
def pathLimit : Nat := 4096

/-- Follows names from a directory. -/
def walk (tree : FileTree) : Place → List String → Except OsErrorKind Target
  | at_, [] => .ok (.existing at_ .directory)
  | at_, name :: rest =>
    if name = ".." then walk tree at_.dropLast rest
    else if maxName < name.utf8ByteSize then .error .nameTooLong
    else
      match tree.node? (at_ ++ [name]), rest with
      | none, [] => .ok (.vacant (at_ ++ [name]))
      | none, _ :: _ => .error .noEntry
      | some (.file content), [] => .ok (.existing (at_ ++ [name]) (.file content))
      | some (.file _), _ :: _ => .error .notDirectory
      | some .directory, _ => walk tree (at_ ++ [name]) rest

def start (tree : FileTree) (path : FilePath) : Place := if path.isAbsolute then [] else tree.base

def locate (tree : FileTree) (path : FilePath) : Except OsErrorKind Target :=
  if !path.isNameable then .error .noEntry
  else if pathLimit ≤ path.toString.utf8ByteSize then .error .nameTooLong
  else tree.walk (tree.start path) path.parts

/-! ### Questions -/

/-- What stands at a path. -/
def status (tree : FileTree) (path : FilePath) : Except OsErrorKind Node :=
  match tree.locate path with
  | .ok (.existing _ node) => .ok node
  | .ok (.vacant _) => .error .noEntry
  | .error kind => .error kind

/-- What stands at a path as it is written: an empty path leads nowhere, and a slash or a dot at its
end demands a directory. -/
def statusOfText (tree : FileTree) (text : String) : Except OsErrorKind Node :=
  if text = "" then .error .noEntry
  else if pathLimit ≤ text.utf8ByteSize then .error .nameTooLong
  else
    let path := FilePath.ofString text
    let wantsDirectory := (Text.splitOn '/' text.toList).getLast?.any fun last =>
      last = [] ∨ last = ['.']
    match tree.walk (tree.start path) path.parts with
    | .ok (.existing _ (.file content)) =>
      if wantsDirectory then .error .notDirectory else .ok (.file content)
    | .ok (.existing _ .directory) => .ok .directory
    | .ok (.vacant _) => .error .noEntry
    | .error kind => .error kind

/-- Whether an answer about a path is that nothing stands there. -/
def isAbsence : OsErrorKind → Bool
  | .noEntry | .notDirectory => true
  | _ => false

/-- Whether something stands at a path; only a refusal that is not an absence remains one. -/
def holds (tree : FileTree) (path : FilePath) (asked : Node → Bool) : Except OsError Bool :=
  match tree.status path with
  | .ok node => .ok (asked node)
  | .error kind => if isAbsence kind then .ok false else .error ⟨kind, path.toString⟩

def exists? (tree : FileTree) (path : FilePath) : Except OsError Bool :=
  tree.holds path fun _ => true

def isDirectory? (tree : FileTree) (path : FilePath) : Except OsError Bool :=
  tree.holds path fun node => match node with
    | .directory => true
    | .file _ => false

def readFile (tree : FileTree) (path : FilePath) : Except OsError ByteArray :=
  match tree.status path with
  | .ok (.file content) => .ok content
  | .ok .directory => .error ⟨.isDirectory, path.toString⟩
  | .error kind => .error ⟨kind, path.toString⟩

/-- Whether names lead from a directory to a file. -/
def reachesFile (tree : FileTree) (place : Place) (names : List String) : Bool :=
  match tree.walk place names with
  | .ok (.existing _ (.file _)) => true
  | _ => false

/-- The files below a directory whose names end in `suffix`, in the order of their places. -/
def filesBelow (tree : FileTree) (path : FilePath) (suffix : String) : List FilePath :=
  match tree.locate path with
  | .ok (.existing place .directory) =>
    let below := tree.entries.keys.filterMap fun found =>
      if place.isPrefixOf found then some (found.drop place.length) else none
    let files := (firsts id below).filter fun names =>
      (names.getLast?.any fun name => name.endsWith suffix) && tree.reachesFile place names
    (files.mergeSort Place.le).map path.below
  | _ => []

/-! ### Changes -/

/-- A file created or replaced. -/
def writeFile (tree : FileTree) (path : FilePath) (content : ByteArray) : Except OsError FileTree :=
  match tree.locate path with
  | .ok (.existing _ .directory) => .error ⟨.isDirectory, path.toString⟩
  | .ok (.existing place (.file _)) => .ok (tree.put place (.file content))
  | .ok (.vacant place) => .ok (tree.put place (.file content))
  | .error kind => .error ⟨kind, path.toString⟩

def makeDirectory (tree : FileTree) (path : FilePath) : Except OsError FileTree :=
  match tree.locate path with
  | .ok (.existing _ _) => .error ⟨.fileExists, path.toString⟩
  | .ok (.vacant place) => .ok (tree.put place .directory)
  | .error kind => .error ⟨kind, path.toString⟩

/-- After a refusal to make a directory: nothing is wrong if there is one. -/
def orDirectory (tree : FileTree) (path : FilePath) (refusal : OsError) : Except OsError Unit :=
  match tree.isDirectory? path with
  | .error e => .error e
  | .ok true => .ok ()
  | .ok false => .error refusal

/-- A directory with all directories on the way to it. If something is missing on the way the parent
is made first. The tree keeps what was made before a refusal. -/
def makeDirectories (tree : FileTree) (path : FilePath) : FileTree × Except OsError Unit :=
  match tree.makeDirectory path with
  | .ok made => (made, .ok ())
  | .error refusal =>
    if refusal.kind = .noEntry then
      if h : path.parts = [] then (tree, .error refusal)
      else
        have : path.parent.parts.length < path.parts.length := by
          simp only [FilePath.parent, List.length_dropLast]
          have := List.length_pos_iff.2 h
          omega
        match tree.makeDirectories path.parent with
        | (grown, .error e) => (grown, .error e)
        | (grown, .ok ()) =>
          match grown.makeDirectory path with
          | .ok made => (made, .ok ())
          | .error again =>
            if again.kind = .noEntry then (grown, .error again)
            else (grown, grown.orDirectory path again)
    else (tree, tree.orDirectory path refusal)
termination_by path.parts.length

/-- A file written, with the directories on the way to it. -/
def write (tree : FileTree) (path : FilePath) (content : ByteArray) :
    FileTree × Except WriteFailure Unit :=
  if !path.parent.isNameable then (tree, .error .unnameable)
  else
    match tree.makeDirectories path.parent with
    | (grown, .error e) => (grown, .error (.refused e))
    | (grown, .ok ()) =>
      if !path.isNameable then (grown, .error .unnameable)
      else match grown.writeFile path content with
        | .ok written => (written, .ok ())
        | .error e => (grown, .error (.refused e))

def writeText (tree : FileTree) (path : FilePath) (text : String) :
    FileTree × Except WriteFailure Unit :=
  tree.write path text.toUTF8

/-! ### Appending at a settled place

A path can be settled by its text alone, where double dots take away the name before them. -/

def settle (tree : FileTree) (path : FilePath) : Place :=
  path.parts.foldl (fun place name => if name = ".." then place.dropLast else place ++ [name])
    (tree.start path)

/-- Text added at the end of the file at a settled place, which is created if need be. -/
def append (tree : FileTree) (place : Place) (text : String) : Except OsErrorKind FileTree :=
  match tree.walk [] place with
  | .ok (.existing _ .directory) => .error .isDirectory
  | .ok (.existing found (.file content)) => .ok (tree.put found (.file (content ++ text.toUTF8)))
  | .ok (.vacant found) => .ok (tree.put found (.file text.toUTF8))
  | .error kind => .error kind

end FileTree

end ToolSchema
