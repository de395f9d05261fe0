import ToolSchema.Log
import ToolSchema.Schema.Session

/-! The document of some targets. A fresh generator turns the targets into components, and a dialect
wraps them in the order of the targets. What the generator meets on its way goes into the log. -/

namespace ToolSchema

/-- The log entry of an event; entering, leaving and storing a record is not told. -/
def Generation.Event.entry? : Generation.Event → Option Log.Entry
  | .batchStarted count =>
    some ⟨.generator, .info, s!"Generating schema components for {count} record(s)"⟩
  | .batchFinished count =>
    some ⟨.generator, .info, s!"Generated schema components for {count} record(s)"⟩
  | .cycleFound chain =>
    some ⟨.generator, .error, "Circular dependency detected: " ++ " -> ".intercalate chain⟩
  | .batchFailed name error =>
    some ⟨.generator, .error, s!"Failed to generate schema for '{name}': {error.message}"⟩
  | .entered _ | .left _ | .stored _ => none

inductive DocumentFailure where
  | generation (error : GenerationError)
  | formatting (error : FormattingError)
  deriving DecidableEq, Repr

/-- The components of some targets from an empty cache. -/
def generateLogged (targets : List Record) (enums : Table Enumeration) :
    Logged GenerationError (Table Components) := do
  let g ← Logged.ofExcept (Generator.ofBatch targets enums)
  let outcome := Generation.generate g.scope g.records []
  ⟨outcome.result, outcome.events.filterMap Generation.Event.entry?⟩

def formatLogged (records : List Record) (components : Table Components) (format : String) :
    Logged FormattingError (List Json) := do
  let entries ← Logged.ofExcept (formatSchemas records (Components.table components) format)
  Logged.note .dialects .info s!"Formatting {entries.length} schema(s) for {format}"
  return entries

/-- The entries of a document in the dialect of a name. -/
def buildDocument (targets : List Record) (enums : Table Enumeration) (format : String) :
    Logged DocumentFailure (List Json) := do
  let components ← (generateLogged targets enums).mapError .generation
  (formatLogged targets components format).mapError .formatting

end ToolSchema
