/-! Brackets of expressions. A bracket closes one of its own kind only, and not too many may be open
at once. -/

namespace ToolSchema.Expression

def opensBracket (c : Char) : Bool := c = '(' || c = '[' || c = '\x7b'

def closesBracket (c : Char) : Bool := c = ')' || c = ']' || c = '\x7d'

/-- The bracket that opens what a bracket closes. -/
def openingOf (closing : Char) : Char :=
  if closing = ')' then '(' else if closing = ']' then '[' else '\x7b'

/-- The most brackets that may be open. -/
def maxOpenBrackets : Nat := 200

end ToolSchema.Expression
