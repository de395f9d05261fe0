import ToolSchema.TypeExpr.Descent

/-! Why schemas cannot be generated. Each cause keeps what it is about; the sentences are built by
the functions of `Wording`, which take the parts of a sentence as text. -/

namespace ToolSchema

namespace Wording

def unsupportedType (typeName record field : String) (reason : Option String) : String :=
  let sentence :=
    s!"Unsupported type for schema generation: '{typeName}' (property '{field}' in '{record}')"
  match reason with
  | none => sentence
  | some text => s!"{sentence}: {text}"

/-- The place is told only when both its parts are known. -/
def malformedContainer (typeName reason : String) (place : Option (String × String)) : String :=
  let location := match place with
    | none => ""
    | some (record, field) => s!" (property '{field}' in '{record}')"
  s!"Failed to parse components of container type '{typeName}'{location}: {reason}"

def unrequestedReference (typeName record property : String) : String :=
  s!"Cannot generate nested schema for property '{property}' in '{record}' because type " ++
    s!"'{typeName}' was not requested via --type-name and is not a known enum."

def cyclicDependency (chain : List String) (last : String) : String :=
  let path := " -> ".intercalate chain
  s!"Circular dependency detected involving '{last}' via path [{path}]"

def duplicateRecord (name : String) : String := s!"Record '{name}' was supplied more than once"

def unsupportedDialect (format reason : String) : String :=
  s!"Output format '{format}' cannot represent the schema: {reason}"

def foreignKey : String := "Dictionary keys must be String for JSON object mapping"

def unknownFormat : String := "unknown output format"

end Wording

/-- The field at which a type is mapped, and its record. -/
structure Site where
  record : String
  field : String
  deriving DecidableEq, Repr

inductive GenerationError where
  /-- A map level whose keys are not text. -/
  | unsupportedKey (typeName : String) (site : Site)
  /-- A leaf that means nothing and could not even be the name of a record. -/
  | unsupportedType (typeName : String) (site : Site)
  | malformedContainer (typeName : String) (why : TypeExpr.Malformation) (site : Site)
  /-- A leaf that could be a record but is no target. -/
  | unrequestedReference (typeName : String) (site : Site)
  /-- A record that needs itself; the chain leads from the first record in progress back to a name
  it holds already. -/
  | cyclicDependency (chain : List String)
  | duplicateRecord (name : String)
  deriving DecidableEq, Repr

def GenerationError.message : GenerationError → String
  | .unsupportedKey typeName site =>
    Wording.unsupportedType typeName site.record site.field (some Wording.foreignKey)
  | .unsupportedType typeName site => Wording.unsupportedType typeName site.record site.field none
  | .malformedContainer typeName why site =>
    let place := if site.record = "" ∨ site.field = "" then none else some (site.record, site.field)
    Wording.malformedContainer typeName why.message place
  | .unrequestedReference typeName site =>
    Wording.unrequestedReference typeName site.record site.field
  | .cyclicDependency chain => Wording.cyclicDependency chain (chain.getLastD "")
  | .duplicateRecord name => Wording.duplicateRecord name

end ToolSchema
