import ToolSchema.Text.IdentifierTable

/-! Identifiers: a letter or a low line, followed by letters, marks, digits and connectors. -/

namespace ToolSchema.Text

def isIdentifierStart (c : Char) : Bool := c = '_' || identifierStarts.contains c

def isIdentifierPart (c : Char) : Bool := identifierParts.contains c

def isIdentifier (text : String) : Bool :=
  match text.toList with
  | [] => false
  | c :: rest => isIdentifierStart c && rest.all isIdentifierPart

end ToolSchema.Text
