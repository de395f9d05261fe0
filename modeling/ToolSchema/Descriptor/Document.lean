import ToolSchema.Descriptor.Basic
import ToolSchema.Json.Access
import ToolSchema.TypeExpr.Shape

/-! Descriptor documents. A document is a JSON object whose members `records` and `enums` list the
descriptors, each an object of its own. Names are read before descriptions, descriptions before what
is listed below them, and the first fault met ends the reading. A fault is the cause alone; a fault
of structure is put into a sentence about the document, while one that says which text was expected
speaks for itself. -/

namespace ToolSchema

inductive DescriptorFault where
  /-- The shape of the document is at fault. -/
  | shape (error : Json.AccessError)
  | notText (key owner : String) (found : Json.Kind)
  | notFlag (owner : String)
  deriving DecidableEq, Repr

def DescriptorFault.message : DescriptorFault → String
  | .shape error => error.message
  | .notText key owner found => s!"'{key}' of {owner} must be a string, got {found.label}"
  | .notFlag owner => s!"'optional' of {owner} must be true or false"

namespace Json

def textMember (data : Json) (key owner : String) : Except DescriptorFault String := do
  match ← (data.member key).mapError .shape with
  | .str text => .ok text
  | other => .error (.notText key owner other.kind)

/-- A text that may be absent or null. -/
def optionalText (data : Json) (key owner : String) : Except DescriptorFault (Option String) :=
  match data.member? key with
  | none | some .null => .ok none
  | some _ => (data.textMember key owner).map some

/-- What a member lists, each item read as a descriptor. -/
def descriptors {α : Type} (read : Json → Except DescriptorFault α) (data : Json) (key : String) :
    Except DescriptorFault (List α) := do
  (← (data.listMember key).mapError .shape).mapM read

end Json

/-- A field without a flag is optional when its type expression ends in a question mark. -/
def Field.ofJson (data : Json) : Except DescriptorFault Field := do
  let name ← data.textMember "name" "a field"
  let owner := s!"field '{name}'"
  let rawType ← data.textMember "type" owner
  let optional ← match data.member? "optional" with
    | none | some .null => .ok (TypeExpr.stripOptional rawType.toList).2
    | some (.bool flag) => .ok flag
    | some _ => .error (.notFlag owner)
  let description ← data.optionalText "description" owner
  return ⟨name, rawType, description, optional⟩

def Record.ofJson (data : Json) : Except DescriptorFault Record := do
  let name ← data.textMember "name" "a record"
  let description ← data.optionalText "description" s!"record '{name}'"
  let fields ← data.descriptors Field.ofJson "fields"
  return ⟨name, description, fields⟩

def EnumCase.ofJson (data : Json) : Except DescriptorFault EnumCase := do
  let name ← data.textMember "name" "an enum case"
  let description ← data.optionalText "description" s!"enum case '{name}'"
  return ⟨name, description⟩

def Enumeration.ofJson (data : Json) : Except DescriptorFault Enumeration := do
  let name ← data.textMember "name" "an enum"
  let description ← data.optionalText "description" s!"enum '{name}'"
  let cases ← data.descriptors EnumCase.ofJson "cases"
  return ⟨name, description, cases⟩

/-- Why a document is refused; `origin` names the document. -/
inductive DocumentError where
  | notAnObject (origin : String)
  | inDescriptor (origin : String) (fault : DescriptorFault)
  | duplicateRecord (name origin : String)
  | duplicateEnum (name origin : String)
  deriving DecidableEq, Repr

def DocumentError.message : DocumentError → String
  | .notAnObject origin => s!"Descriptor document {origin} must be a JSON object"
  | .inDescriptor origin (.shape error) => s!"Malformed descriptor in {origin}: {error.message}"
  | .inDescriptor _ fault => fault.message
  | .duplicateRecord name origin => s!"Duplicate record '{name}' in {origin}"
  | .duplicateEnum name origin => s!"Duplicate enum '{name}' in {origin}"

namespace DescriptorSet

def addRecord (origin : String) (set : DescriptorSet) (record : Record) :
    Except DocumentError DescriptorSet :=
  if record.name ∈ set.recordNames then .error (.duplicateRecord record.name origin)
  else .ok { set with records := set.records ++ [record] }

/-- An enumeration added under a name. -/
def addEnum (origin : String) (set : DescriptorSet) (name : String) (enumeration : Enumeration) :
    Except DocumentError DescriptorSet :=
  if name ∈ set.enums.keys then .error (.duplicateEnum name origin)
  else .ok { set with enums := set.enums.put name enumeration }

/-- A value of a descriptor, with its fault placed in the document. -/
def placed (origin : String) {α : Type} (result : Except DescriptorFault α) :
    Except DocumentError α :=
  result.mapError (.inDescriptor origin)

/-- The descriptors of a document, records before enumerations. -/
def ofJson (document : Json) (origin : String) : Except DocumentError DescriptorSet := do
  match document with
  | .obj _ =>
    let records ← placed origin ((document.listMember "records").mapError .shape)
    let withRecords ← records.foldlM (fun set item => do
      set.addRecord origin (← placed origin (Record.ofJson item))) {}
    let enums ← placed origin ((document.listMember "enums").mapError .shape)
    enums.foldlM (fun set item => do
      let enumeration ← placed origin (Enumeration.ofJson item)
      set.addEnum origin enumeration.name enumeration) withRecords
  | _ => .error (.notAnObject origin)

/-- All of `source` added to `target`; a name that is there already is blamed on `origin`. -/
def merge (target source : DescriptorSet) (origin : String) :
    Except DocumentError DescriptorSet := do
  let withRecords ← source.records.foldlM (addRecord origin) target
  source.enums.foldlM (fun set entry => set.addEnum origin entry.1 entry.2) withRecords

end DescriptorSet

end ToolSchema
