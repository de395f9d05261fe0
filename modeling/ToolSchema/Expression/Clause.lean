import ToolSchema.Expression.Reader

/-! Parts of expressions that others are built from: series with commas, names bound in passing, and
the clauses of comprehensions. Rules are given from outside, since they refer to one another. -/

namespace ToolSchema.Expression.Grammar

open Reader

abbrev Rules := Rule → Reader Tree

variable (rules : Rules)

/-- One item, or a tuple of items with commas. -/
def series (item : Reader Tree) : Reader Tree := do
  let first ← item
  let more ← many do
    sign ","
    item
  let trailing ← attempt (sign ",")
  return if more.isEmpty && trailing.isNone then first else .tuple (first :: more)

def expressions : Reader Tree := series (rules .expression)

def starExpressions : Reader Tree := series (rules .starExpression)

def assignment : Reader Tree := do
  _ ← name
  sign ":="
  _ ← rules .expression
  return .assignment

/-- An expression that nothing is assigned to. -/
def unassigned : Reader Tree := do
  let found ← rules .expression
  absent (sign ":=")
  return found

def namedExpression : Reader Tree :=
  choose [assignment rules, strictly (rules .mistakenName), unassigned rules]

def starred (rule : Rule) : Reader Tree := do
  sign "*"
  return .starred (← rules rule)

/-- A starred expression where a star alone is told to be a mistake. -/
def starredArgument : Reader Tree := choose [
  starred rules .expression,
  complain [
    do
      sign "*"
      return some .bareStar]]

def starExpression : Reader Tree := choose [starred rules .bitOr, rules .expression]

def starNamed : Reader Tree := choose [starred rules .bitOr, namedExpression rules]

def yielded : Reader Tree := do
  keyword "yield"
  choose [
    do
      keyword "from"
      _ ← rules .expression
      return .yielding,
    do
      _ ← attempt (starExpressions rules)
      return .yielding]

/-! ### Comprehensions -/

def loopTargets : Reader Unit := do
  _ ← rules .starTarget
  _ ← many do
    sign ","
    rules .starTarget
  _ ← attempt (sign ",")

def loopHead : Reader Unit := do
  _ ← attempt (keyword "async")
  keyword "for"

def mistakenLoop : Reader Unit := complain [
  do
    loopHead
    let target ← starExpressions rules
    return target.misplaced?.map fun part => .assignmentTarget part.description]

/-- A loop and its conditions. After its `in` it is nothing else. -/
def clause : Reader Unit := do
  let head ← attempt do
    loopHead
    loopTargets rules
    keyword "in"
  match head with
  | some _ =>
    _ ← rules .disjunction
    _ ← many do
      keyword "if"
      rules .disjunction
  | none => strictly (mistakenLoop rules)

def clauses : Reader Unit := do _ ← several (clause rules)

def mistakenComprehension : Reader Tree := complain [
  do
    choose [sign "[", sign "(", sign "\x7b"]
    _ ← starredArgument rules
    clauses rules
    return some .starredComprehension,
  do
    choose [sign "[", sign "\x7b"]
    _ ← starNamed rules
    sign ","
    _ ← listed (starNamed rules)
    clauses rules
    return some .bareTarget,
  do
    choose [sign "[", sign "\x7b"]
    _ ← starNamed rules
    sign ","
    clauses rules
    return some .bareTarget]

def generator : Reader Tree := choose [
  do
    sign "("
    _ ← choose [assignment rules, unassigned rules]
    clauses rules
    sign ")"
    return .generator,
  strictly (mistakenComprehension rules)]

/-! ### Targets of loops -/

/-- What goes on after a target that is no target by itself. -/
def goesOn : Reader Unit := choose [sign "(", sign "[", sign "."]

def atomicTarget : Reader Tree := choose [
  do return .name (← name),
  do
    sign "("
    let target ← rules .plainTarget
    sign ")"
    return target,
  do
    sign "("
    _ ← attempt do
      _ ← rules .starTarget
      choose [
        do
          _ ← several do
            sign ","
            rules .starTarget
          _ ← attempt (sign ","),
        sign ","]
    sign ")"
    return .tuple []]

def plainTarget : Reader Tree := choose [
  do
    _ ← rules .targetPrimary
    sign "."
    _ ← name
    absent goesOn
    return .member,
  atomicTarget rules]

def starTarget : Reader Tree := choose [
  do
    sign "*"
    absent (sign "*")
    return .starred (← rules .starTarget),
  rules .plainTarget]

end ToolSchema.Expression.Grammar
