import ToolSchema.Expression.Number

/-! What an expression is made of, as far as its value as a literal and the words about a misplaced
part of it depend on it. Most operations are told apart by their kind only. -/

namespace ToolSchema.Expression

inductive Constant where
  | none
  | truth (value : Bool)
  | ellipsis
  | text
  | bytes
  | number (value : Number)
  deriving DecidableEq, Repr

inductive Argument where
  | positional
  | named
  | unpacked
  deriving DecidableEq, Repr

inductive Tree where
  | constant (value : Constant)
  | name (text : String)
  | member
  | starred (inner : Tree)
  | tuple (elements : List Tree)
  | set (elements : List Tree)
  | dict (entries : List (Tree × Tree))
  /-- The key of an entry that another dictionary is unpacked into. -/
  | noKey
  | call (callee : Tree) (arguments : List Argument)
  | signed (isMinus : Bool) (operand : Tree)
  | sum (isMinus : Bool) (left right : Tree)
  | operation
  | comparison (isMembership : Bool) (left : Tree)
  | conditional
  | lambda
  | assignment
  | yielding
  | awaiting
  | generator
  | setComprehension
  | dictComprehension
  | template

namespace Tree

/-- A tree in the words of messages. -/
def description : Tree → String
  | constant .none => "None"
  | constant (.truth true) => "True"
  | constant (.truth false) => "False"
  | constant .ellipsis => "ellipsis"
  | constant _ => "literal"
  | name _ => "name"
  | member => "attribute"
  | starred _ => "starred"
  | tuple _ => "tuple"
  | set _ => "set display"
  | dict _ => "dict literal"
  | call _ _ => "function call"
  | comparison _ _ => "comparison"
  | conditional => "conditional expression"
  | lambda => "lambda"
  | assignment => "named expression"
  | yielding => "yield expression"
  | awaiting => "await expression"
  | generator => "generator expression"
  | setComprehension => "set comprehension"
  | dictComprehension => "dict comprehension"
  | template => "f-string expression"
  | noKey | signed _ _ | sum _ _ _ | operation => "expression"

/-- The first part of a tree that a loop cannot assign to. What is written as a membership is the
target and what the loop runs over. -/
def misplaced? : Tree → Option Tree
  | name _ => none
  | member => none
  | starred inner => misplaced? inner
  | tuple elements => first? elements
  | comparison true left => misplaced? left
  | comparison false _ => none
  | other => some other
where
  first? : List Tree → Option Tree
    | [] => none
    | element :: rest => (misplaced? element).orElse fun _ => first? rest

def arguments : Tree → List Argument
  | call _ arguments => arguments
  | _ => []

end Tree

end ToolSchema.Expression
