import ToolSchema.Table

/-! Descriptors: the records and enumerations that schemas are generated for. A record declares
fields in order; the type of a field is kept as the type expression that was written. Of an
enumeration only the names of its cases count, not the values behind them. -/

namespace ToolSchema

structure Field where
  name : String
  rawType : String
  description : Option String := none
  optional : Bool := false
  deriving DecidableEq, Repr

structure Record where
  name : String
  description : Option String := none
  fields : List Field := []
  deriving DecidableEq, Repr

structure EnumCase where
  name : String
  description : Option String := none
  deriving DecidableEq, Repr

structure Enumeration where
  name : String
  description : Option String := none
  cases : List EnumCase := []
  deriving DecidableEq, Repr

/-- The text of a description that says something. -/
def spoken? (description : Option String) : Option String :=
  description.filter fun text => text != ""

/-- Records in order, and enumerations under their names. -/
structure DescriptorSet where
  records : List Record := []
  enums : Table Enumeration := []
  deriving DecidableEq, Repr

def DescriptorSet.recordNames (set : DescriptorSet) : List String := set.records.map Record.name

end ToolSchema
