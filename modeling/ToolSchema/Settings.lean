import ToolSchema.Dialect
import ToolSchema.Json.Access
import ToolSchema.Json.Encoding
import ToolSchema.Json.Shown
import ToolSchema.Log
import ToolSchema.Storage.JsonFile
import ToolSchema.Text.Case

/-! Settings. Every setting has a default, and a settings file may put other values in place of
defaults. A value of the wrong kind, a format that is not known and a negative indentation are
turned down one by one and leave the default, and the log shows them, which a value may be too deep
for; settings that are not known are kept. A file that is no JSON object changes nothing. -/

namespace ToolSchema

abbrev Settings := Table Json

namespace Settings

def defaults : Settings :=
  [("format", .str Dialect.openai.name), ("pretty_print", .bool false), ("indent", .int 2),
    ("sort_keys", .bool true), ("token_model", .str "gpt-4o")]

/-- Why a value is turned down. -/
inductive Rejection where
  | wrongKind (key : String) (expected : Json.Kind) (found : Json)
  | unknownFormat (found : String)
  | negativeIndent (found : Int)

def Rejection.message (path : FilePath) : Rejection → String
  | .wrongKind key expected found =>
    s!"Ignoring '{key}' in {path}: expected {expected.label}, got {found.shown}"
  | .unknownFormat found => s!"Ignoring unknown format {Text.quoted found} in {path}"
  | .negativeIndent found => s!"Ignoring negative indent {found} in {path}"

/-- The format of a dialect, in letters of any case. -/
def isFormat (text : String) : Bool := (Dialect.ofName? (Text.lower text)).isSome

/-- Why a value may not stand for a setting; a setting without a default takes any. -/
def rejection? (key : String) (value : Json) : Option Rejection :=
  match defaults.find? key with
  | none => none
  | some standard =>
    if value.kind ≠ standard.kind then some (.wrongKind key standard.kind value)
    else match key, value with
      | "format", .str text => if isFormat text then none else some (.unknownFormat text)
      | "indent", .int width => if width < 0 then some (.negativeIndent width) else none
      | _, _ => none

def accepts (key : String) (value : Json) : Bool := (rejection? key value).isNone

/-- Settings with the acceptable values of a list put in place. -/
def override (settings : Settings) (values : List (String × Json)) : Settings :=
  (values.filter fun entry => accepts entry.1 entry.2).foldl
    (fun t entry => t.put entry.1 entry.2) settings

/-! ### The settings file -/

def fileName : String := "schema_forge.json"

/-- The path of the settings file, which the environment may choose. -/
def path (chosen : Option String) : FilePath :=
  match chosen with
  | none | some "" => FilePath.ofString fileName
  | some text => FilePath.ofString text

def complain (message : String) : Logged Interruption Unit := Logged.note .config .error message

/-- One value of a file is checked. Why it is turned down is said with the value shown, which takes
room for all its layers. -/
def check (machine : Machine) (path : FilePath) (entry : String × Json) : Logged Interruption Unit :=
  match rejection? entry.1 entry.2 with
  | none => return ()
  | some rejection =>
    if machine.showing < entry.2.layers then Logged.fail .overdeepValue
    else complain (rejection.message path)

/-- The settings of a value read from a file. -/
def ofFile (machine : Machine) (path : FilePath) : Json → Logged Interruption Settings
  | .obj members => do
    members.forM (check machine path)
    Logged.note .config .info s!"Loaded configuration from {path}"
    return defaults.override members
  | _ => do
    complain s!"Configuration file {path} must contain a JSON object"
    return defaults

/-- The settings that hold when the file is at a path. -/
def load (machine : Machine) (tree : FileTree) (path : FilePath) : Logged Interruption Settings := do
  match tree.exists? path with
  | .error refusal => Logged.fail (.system refusal)
  | .ok false => return defaults
  | .ok true =>
    match tree.readJson machine path with
    | .ok value => ofFile machine path value
    | .error (.invalid complaint) =>
      complain s!"Invalid JSON in configuration file {path}: {complaint.message}"
      return defaults
    | .error (.refused refusal) =>
      complain s!"Error loading configuration {path}: {refusal.message}"
      return defaults
    | .error .undecodable => Logged.fail .undecodable
    | .error .unnameable => Logged.fail .unnameable
    | .error (.oversizedInteger digits) => Logged.fail (.oversizedInteger digits)
    | .error (.overdeep kind) => Logged.fail (.overdeep kind)

/-! ### Use of settings -/

/-- The value of a setting, null for one that is not there. -/
def value (settings : Settings) (key : String) : Json := (settings.find? key).getD .null

/-- The format and layout asked for. -/
structure Choice where
  format : String
  pretty : Bool
  deriving DecidableEq, Repr

/-- A format that is asked for wins over the setting, the setting over the first dialect; the layout
is pretty if either asks for it. Only a text can be put in small letters. -/
def choose (settings : Settings) (asked : Json) (pretty : Bool) :
    Except Json.AccessError Choice :=
  let own := settings.value "format"
  let format :=
    if asked.truthy then asked else if own.truthy then own else .str Dialect.openai.name
  match format with
  | .str text => .ok ⟨Text.lower text, pretty || (settings.value "pretty_print").truthy⟩
  | other => .error (.lacks other.kind "lower")

/-- How documents are encoded under some settings. -/
def encoding (settings : Settings) (pretty : Bool) : Json.Encoding :=
  let width : Int := match settings.value "indent" with
    | .int width => width
    | _ => 2
  ⟨pretty, .blanks width, (settings.value "sort_keys").truthy⟩

def tokenModel (settings : Settings) : String := (settings.value "token_model").plainText

end Settings

end ToolSchema
