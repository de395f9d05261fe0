import ToolSchema.Expression.Literal
import ToolSchema.Text.Blank
import ToolSchema.Text.WordTable

/-! Handlers of events. A tag that begins with an at sign names an event, and its parameters say
what handles it: a name, arguments in parentheses, or both, or else a literal. The arguments have to
be a literal too. A handler shows nothing, it only has to be read. -/

namespace ToolSchema.Console

inductive HandlerError where
  | unreadable (literal parameters : List Char) (error : Expression.SyntaxError)
  | valueless (parameters : List Char) (error : Expression.LiteralError)
  deriving DecidableEq, Repr

def HandlerError.message : HandlerError → String
  | .unreadable literal parameters error =>
    s!"error parsing {Text.quoted (String.ofList literal)} in " ++
      s!"{Text.quoted (String.ofList parameters)}; {error.message}"
  | .valueless parameters error =>
    s!"error parsing {Text.quoted (String.ofList parameters)}; {error.message}"

/-- The literal among the parameters of a handler. -/
def handlerLiteral (parameters : List Char) : List Char :=
  let text := Text.trim parameters
  let after := text.dropWhile fun c => Text.isWordCharacter c || c = '.'
  if after = [] then ['(', ')']
  else if after.head? = some '(' && after.getLast? = some ')' && !after.contains '\n' then after
  else text

def checkHandler (parameters : List Char) : Except HandlerError Unit :=
  let literal := handlerLiteral parameters
  match Expression.read literal with
  | .error error => .error (.unreadable literal parameters error)
  | .ok tree =>
    match Expression.Literal.ofTree tree with
    | .error error => .error (.valueless parameters error)
    | .ok _ => .ok ()

end ToolSchema.Console
