import ToolSchema.Text.Split

/-! Paths. A path is the list of its parts after an optional root: empty parts and single dots are
dropped, double dots stay. The path without root and parts is the working directory itself and is
written as a dot. -/

namespace ToolSchema

structure FilePath where
  root : String := ""
  parts : List String
  deriving DecidableEq, Repr

namespace FilePath

def partsOf (text : String) : List String :=
  ((Text.splitOn '/' text.toList).filter fun part => part ≠ [] ∧ part ≠ ['.']).map String.ofList

/-- Two slashes at the start are a root of their own, any other number is the same as one. -/
def rootOf (text : String) : String :=
  match (text.toList.takeWhile (· = '/')).length with
  | 0 => ""
  | 2 => "//"
  | _ => "/"

def ofString (text : String) : FilePath := ⟨rootOf text, partsOf text⟩

def toString (path : FilePath) : String :=
  if path.root = "" ∧ path.parts = [] then "." else path.root ++ "/".intercalate path.parts

instance : ToString FilePath := ⟨toString⟩

/-- Whether the system takes a name; none holds the null character. -/
def isNameable (path : FilePath) : Bool := path.parts.all fun name => !name.toList.contains '\x00'

def isAbsolute (path : FilePath) : Bool := path.root ≠ ""

/-- The path without its last part; a path without parts is its own parent. -/
def parent (path : FilePath) : FilePath := { path with parts := path.parts.dropLast }

def below (path : FilePath) (parts : List String) : FilePath :=
  { path with parts := path.parts ++ parts }

end FilePath

end ToolSchema
