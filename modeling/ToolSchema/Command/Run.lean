import ToolSchema.Command.Options
import ToolSchema.Console.Display
import ToolSchema.Descriptor.Loading
import ToolSchema.Document
import ToolSchema.Settings
import ToolSchema.TokenEstimate

/-! One run of the command. A run reads and changes a file tree, shows text on the console, and ends
in one of four ways: done, refused for its command line, failed with a report, or crashed. What was
shown and what was written before the end remains. Log entries are written to the log file at once,
those below a warning only if the run is verbose. Text with half a character in it is neither shown
nor written: such a log entry is lost, and an output file is left empty. -/

namespace ToolSchema.Command

/-- What ends a run without a report. -/
inductive Crash where
  | interrupted (cause : Interruption)
  | markup (error : Console.MarkupError)
  | encoding (error : Json.EncodingError)
  | format (error : Json.AccessError)
  /-- The text of the output holds half a character. -/
  | unencodable
  deriving DecidableEq, Repr

def Crash.message? : Crash → Option String
  | .interrupted cause => cause.message?
  | .markup error => error.message?
  | .encoding error => some error.message
  | .format error => some error.message
  | .unencodable => none

inductive Ending where
  | done
  | refused (error : UsageError)
  | failed
  | crashed (cause : Crash)
  deriving DecidableEq, Repr

def Ending.exitCode : Ending → Nat
  | .done => 0
  | .failed | .crashed _ => 1
  | .refused _ => 2

/-- Everything around a run. -/
structure Surroundings where
  machine : Machine
  tree : FileTree
  /-- The settings file chosen by the environment. -/
  settingsFile : Option String
  tokenizer : Tokenizer
  /-- The time put in front of log entries. -/
  time : String

structure Outcome where
  ending : Ending
  shown : String
  tree : FileTree

/-! ### Steps of a run -/

/-- What a run has shown and written so far. -/
structure Progress where
  shown : String
  tree : FileTree

/-- A step gives a value or ends the run, and moves the progress on either way. -/
def Step (α : Type) := Progress → Except Ending α × Progress

namespace Step

variable {ε α β : Type}

instance : Monad Step where
  pure value := fun progress => (.ok value, progress)
  bind first next := fun progress =>
    match first progress with
    | (.error ending, after) => (.error ending, after)
    | (.ok value, after) => next value after

def tree : Step FileTree := fun progress => (.ok progress.tree, progress)

def setTree (tree : FileTree) : Step Unit := fun progress => (.ok (), { progress with tree })

def finish (ending : Ending) : Step α := fun progress => (.error ending, progress)

def crash (cause : Crash) : Step α := finish (.crashed cause)

def showText (text : String) : Step Unit := fun progress =>
  (.ok (), { progress with shown := progress.shown ++ text })

variable (machine : Machine)

/-- Shows a line of markup. -/
def print (markup : String) : Step Unit :=
  match Console.plain machine.columns markup with
  | .ok text => showText text
  | .error error => crash (.markup error)

/-- Ends the run with a report. -/
def fail (markup : String) : Step α := do
  print machine markup
  finish .failed

end Step

/-! ### The log file -/

/-- Where log entries go and which of them. -/
structure Journal where
  place : Option Place
  verbose : Bool
  time : String

namespace Journal

def takes (journal : Journal) (entry : Log.Entry) : Bool :=
  journal.verbose || entry.level.isTrouble

def line (journal : Journal) (entry : Log.Entry) : String := s!"{journal.time} - {entry.text}\n"

/-- The lines that some entries add to the log file. -/
def lines (journal : Journal) (entries : List Log.Entry) : List String :=
  ((entries.filter journal.takes).map journal.line).filter fun line =>
    !Text.holdsHalf line.toList

/-- A tree with some entries written to the log file; a log file that is gone takes none. -/
def extended (journal : Journal) (entries : List Log.Entry) (tree : FileTree) : FileTree :=
  match journal.place with
  | none => tree
  | some place =>
    match tree.append place (String.join (journal.lines entries)) with
    | .ok grown => grown
    | .error _ => tree

/-- The journal of a run, whose file exists from the start. -/
def start (options : Options) (time : String) : Step Journal := do
  match options.log with
  | none => return ⟨none, options.verbose, time⟩
  | some path =>
    let tree ← Step.tree
    let place := tree.settle path
    match tree.append place "" with
    | .ok grown =>
      Step.setTree grown
      return ⟨some place, options.verbose, time⟩
    | .error kind => Step.crash (.interrupted (.system ⟨kind, path.toString⟩))

def record (journal : Journal) (entries : List Log.Entry) : Step Unit := do
  Step.setTree (journal.extended entries (← Step.tree))

/-- The result of a computation whose log is written. -/
def follow {ε α : Type} (journal : Journal) (computation : Logged ε α) : Step (Except ε α) := do
  journal.record computation.log
  return computation.result

end Journal

/-! ### What is shown -/

def headline (count : Nat) (format : String) : String :=
  s!"🛠  [bold green]schema-forge[/]: {count} target(s) as [yellow]{format}[/]"

def reportLoading (error : LoadError) : String :=
  "[bold red]Error loading descriptors:[/] " ++ Console.escape error.message

def warnMissing (names : List String) : String :=
  let shown := Console.escape (", ".intercalate names)
  s!"[yellow]Warning: Could not find target(s): {shown}[/]"

def warnEmpty : String := "[yellow]No target records found. Writing an empty document.[/]"

def reportDocument : DocumentFailure → String
  | .generation error => "[bold red]Schema generation failed:[/] " ++ Console.escape error.message
  | .formatting error => "[bold red]Formatting failed:[/] " ++ Console.escape error.message

def reportWriting (path : FilePath) (refusal : OsError) : String :=
  let shown := Console.escape (refusal.writeMessage path)
  s!"[bold red]Error writing output file: {shown}[/]"

/-- The lines at the end of a run; the path is taken as markup. -/
def summary (count : Nat) (path : FilePath) : List String :=
  ["\n✅ Successfully generated schema!",
    s!"   Definitions: [cyan]{count}[/]",
    s!"   Output saved to: [bold yellow]{path}[/]"]

def footprint (count : Nat) (model : String) : String :=
  s!"   Prompt footprint: [cyan]{count}[/] tokens ({model})"

def warnEstimate (complaint : String) : String :=
  let shown := Console.escape complaint
  s!"[yellow]Warning: Could not estimate tokens: {shown}[/]"

/-! ### The run -/

def loadInput (machine : Machine) (tree : FileTree) : Input → Logged LoadFailure DescriptorSet
  | .file path => DescriptorSet.loadFile machine tree path
  | .directory path => DescriptorSet.loadDirectory machine tree path

def settle (surroundings : Surroundings) (journal : Journal) : Step Settings := do
  let path := Settings.path surroundings.settingsFile
  match ← journal.follow (Settings.load surroundings.machine (← Step.tree) path) with
  | .ok settings => return settings
  | .error cause => Step.crash (.interrupted cause)

section Stages

variable (machine : Machine)

def load (journal : Journal) (input : Input) : Step DescriptorSet := do
  match ← journal.follow (loadInput machine (← Step.tree) input) with
  | .ok set => return set
  | .error (.error error) => Step.fail machine (reportLoading error)
  | .error (.interrupted cause) => Step.crash (.interrupted cause)

def select (journal : Journal) (set : DescriptorSet) (names : List String) : Step Selection := do
  let selection := set.select names
  journal.record selection.warnings
  if !selection.missing.isEmpty then Step.print machine (warnMissing selection.missing)
  if selection.targets.isEmpty then Step.print machine warnEmpty
  return selection

def generate (journal : Journal) (targets : List Record) (set : DescriptorSet) (format : String) :
    Step (List Json) := do
  match ← journal.follow (buildDocument targets set.enums format) with
  | .ok entries => return entries
  | .error failure => Step.fail machine (reportDocument failure)

/-- Writes the output. A text that cannot be encoded is given up once the file is open and empty. -/
def writeOutput (encoding : Json.Encoding) (path : FilePath) (document : Json) : Step Unit := do
  match encoding.encode machine.memory document with
  | .error error => Step.crash (.encoding error)
  | .ok text =>
    let unencodable := Text.holdsHalf text.toList
    let (written, result) := (← Step.tree).writeText path (if unencodable then "" else text)
    Step.setTree written
    match result with
    | .ok () => if unencodable then Step.crash .unencodable
    | .error (.refused refusal) => Step.fail machine (reportWriting path refusal)
    | .error .unnameable => Step.crash (.interrupted .unnameable)

/-- Shows the estimate. Whatever stands against it is a warning, but for text that cannot be encoded:
the console keeps it and shows no warning either. -/
def showEstimate (tokenizer : Tokenizer) (document : Json) (model : String) : Step Unit :=
  match estimateTokens tokenizer document model with
  | .error complaint => Step.print machine (warnEstimate complaint)
  | .ok estimate =>
    match Console.plain machine.columns (footprint estimate.count model) with
    | .ok text => Step.showText text
    | .error error =>
      match error.message? with
      | some complaint => Step.print machine (warnEstimate complaint)
      | none => Step.crash (.markup error)

end Stages

/-- The format that is asked for, null if there is none. -/
def asked (format : Option Dialect) : Json := format.elim .null fun dialect => .str dialect.name

def Options.run (options : Options) (surroundings : Surroundings) : Step Unit := do
  let journal ← Journal.start options surroundings.time
  let settings ← settle surroundings journal
  match settings.choose (asked options.format) options.pretty with
  | .error error => Step.crash (.format error)
  | .ok choice =>
    let machine := surroundings.machine
    Step.print machine (headline options.names.length choice.format)
    let set ← load machine journal options.input
    let selection ← select machine journal set options.names
    let entries ← generate machine journal selection.targets set choice.format
    writeOutput machine (settings.encoding choice.pretty) options.output (.arr entries)
    (summary entries.length options.output).forM (Step.print machine)
    if options.estimate then
      showEstimate machine surroundings.tokenizer (.arr entries) settings.tokenModel

def versionText : String := "schema-forge, version 0.3.0\n"

def helpText : String :=
  "Usage: schema-forge [OPTIONS]\n\n" ++
  "  Generate function calling JSON schemas for the requested records.\n\n" ++
  "Options:\n" ++
  "  -i, --input-file FILE      Descriptor document (JSON).\n" ++
  "  -d, --input-dir DIRECTORY  Directory of descriptor documents.\n" ++
  "  -t, --type-name TEXT       Name of a record to generate a schema for (repeatable).\n" ++
  "  -o, --output-file FILE     Path where the JSON schema document is written.\n" ++
  "  --format FORMAT            openai, grok or gemini.\n" ++
  "  --pretty-print             Write indented JSON.\n" ++
  "  --estimate-tokens          Report the prompt token footprint of the document.\n" ++
  "  -v, --verbose              Log progress information.\n" ++
  "  --log-file FILE            Also log to a file.\n" ++
  "  --version                  Show the version and exit.\n" ++
  "  --help                     Show this message and exit.\n"

/-- The command with some arguments. -/
def run (surroundings : Surroundings) (arguments : List String) : Outcome :=
  match Request.ofArguments surroundings.tree arguments with
  | .error (.usage error) => ⟨.refused error, "", surroundings.tree⟩
  | .error (.unnameable _) => ⟨.crashed (.interrupted .unnameable), "", surroundings.tree⟩
  | .ok .version => ⟨.done, versionText, surroundings.tree⟩
  | .ok .help => ⟨.done, helpText, surroundings.tree⟩
  | .ok (.run options) =>
    match options.run surroundings ⟨"", surroundings.tree⟩ with
    | (.ok (), after) => ⟨.done, after.shown, after.tree⟩
    | (.error ending, after) => ⟨ending, after.shown, after.tree⟩

end ToolSchema.Command
