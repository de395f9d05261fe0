import ToolSchema.Dialect
import ToolSchema.Storage.Tree
import ToolSchema.Text.Split

/-! The command line. Arguments are read from left to right: a long option stands alone or takes its
value after an equals sign, short options may be joined and the rest of the word is the value of the
last; an option without its value takes the next argument, whatever that looks like. Of repeated
options the last counts, except that names of records add up. The options that only ask about the
program come before everything that is asked of files. -/

namespace ToolSchema.Command

inductive Switch where
  | prettyPrint
  | estimateTokens
  | verbose
  | version
  | help
  deriving DecidableEq, Repr

/-- An option with a value. -/
inductive Parameter where
  | inputFile
  | inputDirectory
  | typeName
  | outputFile
  | format
  | logFile
  deriving DecidableEq, Repr

inductive Flag where
  | switch (switch : Switch)
  | parameter (parameter : Parameter)
  deriving DecidableEq, Repr

def longNames : List (String × Flag) :=
  [("--input-file", .parameter .inputFile), ("--input-dir", .parameter .inputDirectory),
    ("--type-name", .parameter .typeName), ("--output-file", .parameter .outputFile),
    ("--format", .parameter .format), ("--log-file", .parameter .logFile),
    ("--pretty-print", .switch .prettyPrint), ("--estimate-tokens", .switch .estimateTokens),
    ("--verbose", .switch .verbose), ("--version", .switch .version), ("--help", .switch .help)]

def shortNames : List (Char × Flag) :=
  [('i', .parameter .inputFile), ('d', .parameter .inputDirectory), ('t', .parameter .typeName),
    ('o', .parameter .outputFile), ('v', .switch .verbose)]

inductive UsageError where
  | unknownOption (word : String)
  | missingValue
  | unexpectedValue (option : String)
  | unexpectedArguments (arguments : List String)
  | badPath (parameter : Parameter) (path : String)
  | unknownFormat (format : String)
  | missingOutput
  | inputNotUnique
  deriving DecidableEq, Repr

def UsageError.message : UsageError → String
  | .unknownOption word => s!"No such option: {word}"
  | .missingValue => "An option lacks its value."
  | .unexpectedValue option => s!"Option {option} does not take a value."
  | .unexpectedArguments arguments =>
    "Got unexpected extra arguments: " ++ " ".intercalate arguments
  | .badPath _ path => s!"Not a usable path: {path}"
  | .unknownFormat format => s!"Not a known format: {format}"
  | .missingOutput => "Missing option --output-file."
  | .inputNotUnique => "Provide exactly one of --input-file or --input-dir."

/-! ### Words -/

/-- One option as it is given. -/
inductive Given where
  | switch (switch : Switch)
  | value (parameter : Parameter) (text : String)
  deriving DecidableEq, Repr

/-- What one argument says: some options, and perhaps one whose value is still to come. -/
structure Reading where
  given : List Given := []
  pending : Option Parameter := none
  deriving DecidableEq, Repr

def readShort : List Char → Except UsageError Reading
  | [] => .ok {}
  | c :: rest =>
    match shortNames.lookup c with
    | none => .error (.unknownOption (String.ofList ['-', c]))
    | some (.switch switch) =>
      (readShort rest).map fun found => { found with given := .switch switch :: found.given }
    | some (.parameter parameter) =>
      if rest = [] then .ok ⟨[], some parameter⟩
      else .ok ⟨[.value parameter (String.ofList rest)], none⟩

/-- An argument that begins with a dash and is longer than that. -/
def readOption (word : List Char) : Except UsageError Reading :=
  let (name, value) := match Text.cut? '=' word with
    | none => (String.ofList word, none)
    | some (before, after) => (String.ofList before, some (String.ofList after))
  match longNames.lookup name, value with
  | some (.switch switch), none => .ok ⟨[.switch switch], none⟩
  | some (.switch _), some _ => .error (.unexpectedValue name)
  | some (.parameter parameter), none => .ok ⟨[], some parameter⟩
  | some (.parameter parameter), some text => .ok ⟨[.value parameter text], none⟩
  | none, _ =>
    if ['-', '-'].isPrefixOf word then .error (.unknownOption name) else readShort (word.drop 1)

/-- The options of a command line in order, and the arguments that belong to none. -/
structure Line where
  given : List Given := []
  arguments : List String := []
  deriving DecidableEq, Repr

def Line.after (before : List Given) (line : Line) : Line :=
  { line with given := before ++ line.given }

/-- Reads the arguments after an option that may wait for its value. -/
def Line.read : Option Parameter → List String → Except UsageError Line
  | some _, [] => .error .missingValue
  | some parameter, text :: rest =>
    (Line.read none rest).map (Line.after [.value parameter text])
  | none, [] => .ok {}
  | none, argument :: rest =>
    match argument.toList with
    | ['-', '-'] => .ok ⟨[], rest⟩
    | '-' :: c :: more =>
      match readOption ('-' :: c :: more) with
      | .error e => .error e
      | .ok reading => (Line.read reading.pending rest).map (Line.after reading.given)
    | _ => (Line.read none rest).map fun line =>
      { line with arguments := argument :: line.arguments }

namespace Line

def has (line : Line) (switch : Switch) : Bool := line.given.contains (.switch switch)

def values (line : Line) (parameter : Parameter) : List String :=
  line.given.filterMap fun
    | .value other text => if other = parameter then some text else none
    | .switch _ => none

def last? (line : Line) (parameter : Parameter) : Option String := (line.values parameter).getLast?

end Line

/-! ### Requests -/

inductive Input where
  | file (path : FilePath)
  | directory (path : FilePath)
  deriving DecidableEq, Repr

structure Options where
  input : Input
  names : List String
  output : FilePath
  format : Option Dialect
  pretty : Bool
  estimate : Bool
  verbose : Bool
  log : Option FilePath
  deriving DecidableEq, Repr

inductive Request where
  | version
  | help
  | run (options : Options)
  deriving DecidableEq, Repr

/-- Whether a path that is given may be used. -/
def usable (tree : FileTree) : Parameter → String → Bool
  | .inputFile, path => match tree.statusOfText path with
    | .ok (.file _) => true
    | _ => false
  | .inputDirectory, path => match tree.statusOfText path with
    | .ok .directory => true
    | _ => false
  | .outputFile, path | .logFile, path => match tree.statusOfText path with
    | .ok .directory => false
    | _ => true
  | .typeName, _ | .format, _ => true

/-- Why a command line makes no request. -/
inductive LineError where
  | usage (error : UsageError)
  /-- A path with a name that the system does not take. -/
  | unnameable (parameter : Parameter)
  deriving DecidableEq, Repr

namespace Line

/-- The parameters that are given, in the order in which they first appear. -/
def parameters (line : Line) : List Parameter :=
  firsts id (line.given.filterMap fun
    | .value parameter _ => some parameter
    | .switch _ => none)

variable (tree : FileTree) (line : Line)

/-- Whether the value of a parameter may stand for it. -/
def check (parameter : Parameter) : Except LineError Unit :=
  match parameter, line.last? parameter with
  | _, none | .typeName, _ => .ok ()
  | .format, some text =>
    if (Dialect.ofName? (Text.lower text)).isSome then .ok ()
    else .error (.usage (.unknownFormat text))
  | _, some text =>
    if !(FilePath.ofString text).isNameable then .error (.unnameable parameter)
    else if usable tree parameter text then .ok ()
    else .error (.usage (.badPath parameter text))

def path? (parameter : Parameter) : Option FilePath :=
  (line.last? parameter).map FilePath.ofString

def input : Except UsageError Input :=
  match line.path? .inputFile, line.path? .inputDirectory with
  | some path, none => .ok (.file path)
  | none, some path => .ok (.directory path)
  | _, _ => .error .inputNotUnique

/-- The log file, if its name is not empty. -/
def log? : Option FilePath :=
  ((line.last? .logFile).filter (· ≠ "")).map FilePath.ofString

/-- The parameters are checked in the order in which they are given, then what is missing or too
much is looked for. -/
def options : Except LineError Options := do
  line.parameters.forM (line.check tree)
  match line.path? .outputFile with
  | none => throw (.usage .missingOutput)
  | some output =>
    if line.arguments ≠ [] then throw (.usage (.unexpectedArguments line.arguments))
    let input ← line.input.mapError .usage
    return ⟨input, line.values .typeName, output,
      (line.last? .format).bind fun text => Dialect.ofName? (Text.lower text),
      line.has .prettyPrint, line.has .estimateTokens, line.has .verbose, line.log?⟩

/-- The first option that asks about the program itself. -/
def question? : Option Request :=
  line.given.findSome? fun
    | .switch .version => some .version
    | .switch .help => some .help
    | _ => none

end Line

def Request.ofArguments (tree : FileTree) (arguments : List String) :
    Except LineError Request := do
  let line ← (Line.read none arguments).mapError .usage
  match line.question? with
  | some request => return request
  | none => return .run (← line.options tree)

end ToolSchema.Command
