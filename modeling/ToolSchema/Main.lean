import Std.Time
import ToolSchema.Command.Run

/-! The program. It takes a picture of the places that a run may look at, runs the command on the
picture, and puts what has changed back in place. -/

namespace ToolSchema.Program

/-- The places on the way of a path. -/
def placesOn (tree : FileTree) (path : FilePath) : List Place :=
  let start := tree.start path
  let walked := path.parts.foldl (fun (found : Place × List Place) name =>
    let next := if name = ".." then found.1.dropLast else found.1 ++ [name]
    (next, next :: found.2)) (start, [start])
  walked.2.reverse

/-- The paths that a run may look at, with those of directories that it may search. -/
def pathsOf (arguments : List String) (settingsFile : Option String) :
    List FilePath × List FilePath :=
  let line := match Command.Line.read none arguments with
    | .ok line => line
    | .error _ => {}
  let named (parameter : Command.Parameter) : List FilePath :=
    (line.last? parameter).toList.map FilePath.ofString
  (Settings.path settingsFile ::
    (named .inputFile ++ named .inputDirectory ++ named .outputFile ++ named .logFile),
    named .inputDirectory)

def pathText (place : Place) : String := "/" ++ "/".intercalate place

/-- What stands at a place, if it can be looked at. -/
def look (place : Place) : IO (Option Node) := do
  let path := (← IO.currentDir) / pathText place
  try
    let data ← path.metadata
    match data.type with
    | IO.FS.FileType.dir => return some .directory
    | _ => return some (.file (← IO.FS.readBinFile path))
  catch _ => return none

/-- The tree with what stands at some places. -/
def picture (tree : FileTree) (places : List Place) : IO FileTree :=
  places.foldlM (fun tree place => do
    if place.isEmpty || (tree.node? place).isSome then return tree
    match ← look place with
    | none => return tree
    | some node => return tree.put place node) tree

partial def pictureBelow (tree : FileTree) (place : Place) : IO FileTree := do
  let path := (← IO.currentDir) / pathText place
  try
    let entries ← path.readDir
    entries.foldlM (fun tree entry => do
      let inner := place ++ [entry.fileName]
      let grown ← picture tree [inner]
      if grown.node? inner = some .directory then pictureBelow grown inner else return grown) tree
  catch _ => return tree

def putBack (before after : FileTree) : IO Unit := do
  for (place, node) in after.entries do
    if before.node? place != some node then
      match node with
      | .directory => IO.FS.createDir (pathText place)
      | .file content => IO.FS.writeBinFile (pathText place) content

def timeText : IO String := do
  let now ← Std.Time.PlainDateTime.now
  return now.format "uuuu-MM-dd HH:mm:ss,SSS"

/-- Every model has an encoder for which characters are tokens. -/
def tokenizer : Tokenizer where
  ofModel model := .ok (some (.characters model))
  ofName name := .ok (.characters name)

def run (arguments : List String) : IO UInt32 := do
  let settingsFile ← IO.getEnv "SCHEMA_FORGE_CONFIG"
  let base := FilePath.ofString (← IO.currentDir).toString
  let empty : FileTree := ⟨base.parts, []⟩
  let (paths, directories) := pathsOf arguments settingsFile
  let along ← picture empty ((base :: paths).flatMap (placesOn empty))
  let tree ← directories.foldlM (fun tree path => pictureBelow tree (tree.settle path)) along
  let outcome := Command.run ⟨.usual, tree, settingsFile, tokenizer, ← timeText⟩ arguments
  putBack tree outcome.tree
  IO.print outcome.shown
  match outcome.ending with
  | .refused error => IO.eprintln ("Error: " ++ error.message)
  | .crashed cause => IO.eprintln (cause.message?.getD "Some text cannot be read or written")
  | .done | .failed => pure ()
  return outcome.ending.exitCode.toUInt32

end ToolSchema.Program

def main (arguments : List String) : IO UInt32 := ToolSchema.Program.run arguments
