import ToolSchema.Descriptor.Basic
import ToolSchema.Distinct

/-! Choosing targets. The requested names, each taken once, split in order into the records that a
set has and the names it lacks. -/

namespace ToolSchema

structure Selection where
  targets : List Record
  missing : List String
  deriving DecidableEq, Repr

namespace DescriptorSet

/-- The record of a name, the last of those that have it. -/
def record? (set : DescriptorSet) (name : String) : Option Record :=
  set.records.reverse.find? fun record => record.name = name

def select (set : DescriptorSet) (names : List String) : Selection :=
  let requested := firsts id names
  ⟨requested.filterMap set.record?, requested.filter fun name => (set.record? name).isNone⟩

end DescriptorSet

end ToolSchema
