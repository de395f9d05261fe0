import ToolSchema.Expression.Grammar

/-! Literals: expressions that say their value without a name or a computation. These are constants,
tuples, sets and dictionaries of literals, and numbers with a sign or with an imaginary part. Of the
value only so much is kept as decides whether a larger literal has one. -/

namespace ToolSchema.Expression

inductive Literal where
  /-- A whole number by its size. -/
  | whole (size : Nat)
  | fraction
  | imaginary
  | atom
  | tuple (elements : List Literal)
  | set
  | dict

inductive LiteralError where
  | malformed
  | noKey
  | unhashable (kind : String)
  | tooLarge
  deriving DecidableEq, Repr

def LiteralError.message : LiteralError → String
  | .malformed => "malformed node or string"
  | .noKey => "malformed node or string: None"
  | .unhashable kind => s!"unhashable type: '{kind}'"
  | .tooLarge => "int too large to convert to float"

namespace Literal

/-- The first part of a literal that no set can hold. -/
def unhashable? : Literal → Option String
  | set => some "set"
  | dict => some "dict"
  | tuple elements => first? elements
  | _ => none
where
  first? : List Literal → Option String
    | [] => none
    | element :: rest => (unhashable? element).orElse fun _ => first? rest

/-- A literal that a set can hold. -/
def hashed (literal : Literal) : Except LiteralError Unit :=
  match literal.unhashable? with
  | some kind => .error (.unhashable kind)
  | none => .ok ()

def ofNumber : Number → Literal
  | .whole value => whole value
  | .oversized _ => whole 0
  | .fraction => fraction
  | .imaginary => imaginary

def number : Tree → Except LiteralError Literal
  | .constant (.number value) => .ok (ofNumber value)
  | _ => .error .malformed

def signedNumber : Tree → Except LiteralError Literal
  | .signed _ operand => number operand
  | tree => number tree

/-- The least whole number that is too large to be rounded to a float. -/
def floatBound : Nat := Nat.pow 2 1024 - Nat.pow 2 970

/-- A real part and an imaginary part. -/
def complex (left right : Literal) : Except LiteralError Literal :=
  match left, right with
  | whole size, imaginary => if size < floatBound then .ok imaginary else .error .tooLarge
  | fraction, imaginary => .ok imaginary
  | _, _ => .error .malformed

mutual

def ofTree : Tree → Except LiteralError Literal
  | .constant (.number value) => .ok (ofNumber value)
  | .constant _ => .ok atom
  | .tuple elements => (ofTrees elements).map tuple
  | .set elements => (checkElements elements).map fun _ => set
  | .dict entries => (checkEntries entries).map fun _ => dict
  | .call (.name "set") [] => .ok set
  | .noKey => .error .noKey
  | .sum _ left right => do complex (← signedNumber left) (← number right)
  | tree => signedNumber tree

def ofTrees : List Tree → Except LiteralError (List Literal)
  | [] => .ok []
  | tree :: rest => do return (← ofTree tree) :: (← ofTrees rest)

def checkElements : List Tree → Except LiteralError Unit
  | [] => .ok ()
  | tree :: rest => do
    hashed (← ofTree tree)
    checkElements rest

def checkEntries : List (Tree × Tree) → Except LiteralError Unit
  | [] => .ok ()
  | (key, value) :: rest => do
    let found ← ofTree key
    _ ← ofTree value
    hashed found
    checkEntries rest

end

end Literal

end ToolSchema.Expression
