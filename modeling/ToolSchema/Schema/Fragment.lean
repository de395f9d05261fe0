import ToolSchema.Descriptor.Basic
import ToolSchema.Json.Basic
import ToolSchema.Text.Lines
import ToolSchema.TypeExpr.Descent

/-! Schema fragments. Every fragment is an object that says its `type` first. There are five forms:
primitives, enumerations, arrays, maps and records; the last is built from the components of a
record, its properties and the names of those that are required. A description is attached to a
fragment as one more member. -/

namespace ToolSchema

structure Primitive where
  type : String
  format : Option String := none
  deriving DecidableEq, Repr

def primitives : Table Primitive :=
  [("String", ⟨"string", none⟩), ("Int", ⟨"integer", none⟩), ("Int8", ⟨"integer", none⟩),
    ("Int16", ⟨"integer", none⟩), ("Int32", ⟨"integer", none⟩), ("Int64", ⟨"integer", none⟩),
    ("UInt", ⟨"integer", none⟩), ("UInt8", ⟨"integer", none⟩), ("UInt16", ⟨"integer", none⟩),
    ("UInt32", ⟨"integer", none⟩), ("UInt64", ⟨"integer", none⟩), ("Bool", ⟨"boolean", none⟩),
    ("Float", ⟨"number", none⟩), ("Double", ⟨"number", none⟩), ("CGFloat", ⟨"number", none⟩),
    ("Date", ⟨"string", some "date-time"⟩), ("UUID", ⟨"string", some "uuid"⟩),
    ("Data", ⟨"string", some "byte"⟩), ("URL", ⟨"string", some "uri"⟩)]

/-- What a record contributes to a schema. A name stands in `required` once for each field of that
name that is not optional. -/
structure Components where
  properties : Table Json := []
  required : List String := []
  deriving Inhabited

namespace Fragment

def primitive (p : Primitive) : Json :=
  match p.format with
  | none => .obj [("type", .str p.type)]
  | some format => .obj [("type", .str p.type), ("format", .str format)]

/-- The fragment with a description in place of the one it has. -/
def describe (text : String) : Json → Json
  | .obj members => .obj (Table.put members "description" (.str text))
  | other => other

def level : TypeExpr.Level → Json → Json
  | .array, item => .obj [("type", .str "array"), ("items", item)]
  | .map, value => .obj [("type", .str "object"), ("additionalProperties", value)]

/-- A fragment inside the levels of a type expression, outermost first. -/
def wrap (levels : List TypeExpr.Level) (fragment : Json) : Json := levels.foldr level fragment

def names (items : List String) : Json := .arr (items.map .str)

def record (components : Components) : Json :=
  .obj [("type", .str "object"), ("properties", .obj components.properties),
    ("required", names components.required)]

end Fragment

/-- Components with one more field, whose own description stands before any other. -/
def Components.add (components : Components) (field : Field) (fragment : Json) : Components :=
  let described := match spoken? field.description with
    | none => fragment
    | some text => Fragment.describe text fragment
  ⟨components.properties.put field.name described,
    if field.optional then components.required else components.required ++ [field.name]⟩

namespace Enumeration

/-- One line per documented case. -/
def bullets (enumeration : Enumeration) : List String :=
  enumeration.cases.filterMap fun entry => (spoken? entry.description).map fun text =>
    s!"  - {entry.name}: {Text.joinedLines text}"

/-- The description of an enumeration followed by the list of its documented cases. -/
def summary? (enumeration : Enumeration) : Option String :=
  let own := (spoken? enumeration.description).getD ""
  let combined :=
    if enumeration.bullets.isEmpty then own
    else
      let gap := if own = "" then "" else own ++ "\n\n"
      gap ++ "Possible values:\n" ++ "\n".intercalate enumeration.bullets
  spoken? (some combined)

def fragment (enumeration : Enumeration) : Json :=
  let plain : Json :=
    .obj [("type", .str "string"), ("enum", Fragment.names (enumeration.cases.map EnumCase.name))]
  match enumeration.summary? with
  | none => plain
  | some text => Fragment.describe text plain

end Enumeration

end ToolSchema
