import ToolSchema.Storage.JsonFile

/-! Searching directories. A search enters a directory, looks at what stands in it, and goes on into
the directories among that, one after the other. It is refused where it would enter a directory from
inside too many others, and where a path is too long: the path of a directory that it enters, or of
something in it that has the name of a file it searches for. A search that is not refused finds all
those files. -/

namespace ToolSchema.FileTree

/-- The names of what stands in a directory. -/
def namesAt (tree : FileTree) (place : Place) : List String :=
  firsts id (tree.entries.keys.filterMap fun found =>
    if found.dropLast = place then found.getLast? else none)

def isDirectoryAt (tree : FileTree) (place : Place) : Bool :=
  match tree.node? place with
  | some .directory => true
  | _ => false

/-- Why a path is refused, if it is too long. -/
def overlong? (path : FilePath) : Option Interruption :=
  if pathLimit ≤ path.toString.utf8ByteSize then
    some (.system ⟨.nameTooLong, path.toString⟩)
  else none

/-- What stops a search at a directory or below, with room for so many directories inside of each
other. -/
def obstacle? (tree : FileTree) (suffix : String) :
    (room : Nat) → FilePath → Place → Option Interruption
  | 0, _, _ => some .overdeepSearch
  | room + 1, path, place =>
    let names := tree.namesAt place
    (overlong? path).or <|
      (names.findSome? fun name =>
        if name.endsWith suffix then overlong? (path.below [name]) else none).or <|
      names.findSome? fun name =>
        if tree.isDirectoryAt (place ++ [name]) then
          obstacle? tree suffix room (path.below [name]) (place ++ [name])
        else none

/-- The files below a directory whose names end in `suffix`, if the search for them is not
refused. -/
def search (machine : Machine) (tree : FileTree) (path : FilePath) (suffix : String) :
    Except Interruption (List FilePath) :=
  let found := tree.filesBelow path suffix
  match tree.locate path with
  | .ok (.existing place .directory) =>
    match tree.obstacle? suffix machine.directories path place with
    | some cause => .error cause
    | none => .ok found
  | _ => .ok found

end ToolSchema.FileTree
