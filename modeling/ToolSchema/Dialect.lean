import ToolSchema.Distinct
import ToolSchema.Json.Access
import ToolSchema.Schema.Error
import ToolSchema.Schema.Fragment
import ToolSchema.Text.Case

/-! Dialects: how components are wrapped for a language model. The first two dialects list tools
with a function inside, the third lists declarations whose schemas name their types in capitals and
give no formats. `toGemini` turns a schema of the first kind into one of the third: it follows
items, additional properties and properties, and leaves every other member as it is. -/

namespace ToolSchema

inductive Dialect where
  | openai
  | grok
  | gemini
  deriving DecidableEq, Repr

namespace Dialect

def all : List Dialect := [.openai, .grok, .gemini]

def name : Dialect → String
  | .openai => "openai"
  | .grok => "grok"
  | .gemini => "gemini"

def ofName? (text : String) : Option Dialect := all.find? fun dialect => dialect.name = text

end Dialect

namespace Json

mutual

/-- The members of a schema in the third dialect. -/
def geminiMembers : List (String × Json) → List (String × Json)
  | [] => []
  | (key, value) :: rest =>
    if key = "format" then geminiMembers rest
    else (key, geminiMember key value) :: geminiMembers rest

/-- The value of a member, which is followed only where the key says what to expect. -/
def geminiMember (key : String) : Json → Json
  | .str text => .str (if key = "type" then Text.upper text else text)
  | .obj members =>
    if key = "items" ∨ key = "additionalProperties" then .obj (geminiMembers members)
    else if key = "properties" then .obj (geminiProperties members)
    else .obj members
  | other => other

def geminiProperties : List (String × Json) → List (String × Json)
  | [] => []
  | (name, .obj members) :: rest => (name, .obj (geminiMembers members)) :: geminiProperties rest
  | (name, other) :: rest => (name, other) :: geminiProperties rest

end

/-- A schema in the third dialect; what is no object is no schema. -/
def toGemini (schema : Json) : Except AccessError Json :=
  schema.members.map fun members => .obj (geminiMembers members)

end Json

/-- What an entry says of its parameters: the schemas of properties under their names, and the list
of those that are required. -/
structure Parameters where
  properties : Json
  required : Json

def Components.parameters (components : Components) : Parameters :=
  ⟨.obj components.properties, Fragment.names components.required⟩

namespace Dialect

def toolEntry (record : Record) (parameters : Parameters) : Json :=
  let described := match spoken? record.description with
    | none => []
    | some text => [("description", Json.str text)]
  .obj [("type", .str "function"),
    ("function", .obj ([("name", .str record.name)] ++ described ++
      [("parameters", .obj [("type", .str "object"), ("properties", parameters.properties),
        ("required", parameters.required)])]))]

/-- The declaration of a record. Its parameters are converted schema by schema, so they have to be
schemas, and the required names are listed anew. -/
def declarationEntry (record : Record) (parameters : Parameters) :
    Except Json.AccessError Json := do
  let properties ← (← parameters.properties.members).mapM fun entry => do
    return (entry.1, ← entry.2.toGemini)
  let required ← parameters.required.elements
  return .obj [("name", .str record.name),
    ("description", .str (record.description.getD "")),
    ("parameters", .obj [("type", .str "OBJECT"), ("properties", .obj properties),
      ("required", .arr required)])]

/-- The entry of a record in a document. -/
def entry : Dialect → Record → Parameters → Except Json.AccessError Json
  | .openai, record, parameters => .ok (toolEntry record parameters)
  | .grok, record, parameters => .ok (toolEntry record parameters)
  | .gemini, record, parameters => declarationEntry record parameters

def entries (dialect : Dialect) (pairs : List (Record × Parameters)) :
    Except Json.AccessError (List Json) :=
  pairs.mapM fun pair => dialect.entry pair.1 pair.2

end Dialect

inductive FormattingError where
  | unknownFormat (format : String)
  | missingComponents (name : String) (dialect : Dialect)
  /-- Components that do not hold schemas. -/
  | shape (error : Json.AccessError)
  deriving DecidableEq, Repr

def FormattingError.message : FormattingError → String
  | .unknownFormat format => Wording.unsupportedDialect format Wording.unknownFormat
  | .missingComponents name dialect =>
    s!"No generated components for '{name}' while formatting for '{dialect.name}'"
  | .shape error => error.message

namespace Dialect

/-- Each record with its parameters. -/
def pair (dialect : Dialect) (table : Table Parameters) (record : Record) :
    Except FormattingError (Record × Parameters) :=
  match table.find? record.name with
  | some found => .ok (record, found)
  | none => .error (.missingComponents record.name dialect)

/-- The records of a document, the first of each name, with their parameters. -/
def pairs (dialect : Dialect) (records : List Record) (table : Table Parameters) :
    Except FormattingError (List (Record × Parameters)) :=
  (firsts Record.name records).mapM (dialect.pair table)

/-- The entries of a document. -/
def document (dialect : Dialect) (records : List Record) (table : Table Parameters) :
    Except FormattingError (List Json) := do
  (dialect.entries (← dialect.pairs records table)).mapError .shape

end Dialect

/-- The document of some records in the dialect of a name. -/
def formatSchemas (records : List Record) (table : Table Parameters) (format : String) :
    Except FormattingError (List Json) :=
  match Dialect.ofName? format with
  | none => .error (.unknownFormat format)
  | some dialect => dialect.document records table

/-- The parameters of generated components. -/
def Components.table (components : Table Components) : Table Parameters :=
  List.map (fun entry => (entry.1, entry.2.parameters)) components

end ToolSchema
