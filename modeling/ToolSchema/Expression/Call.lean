import ToolSchema.Expression.Clause

/-! Arguments of calls. Arguments by position come first, then those by name, among which starred
ones may stand, and those that are unpacked from a dictionary come last. -/

namespace ToolSchema.Expression.Grammar

open Reader

variable (rules : Rules)

def positional : Reader Argument := do
  _ ← choose [
    starredArgument rules,
    do
      let found ← choose [assignment rules, unassigned rules]
      absent (sign "=")
      return found]
  return .positional

def nameAndEquals : Reader Unit := do
  _ ← name
  sign "="

def equalsBeforeLoop : Reader (Option SyntaxError) := do
  nameAndEquals
  _ ← rules .expression
  clauses rules
  return some .singleEquals

def mistakenNamed : Reader Argument := complain [
  do
    let word ← choose (["True", "False", "None"].map fun word => do
      keyword word
      return word)
    sign "="
    return some (.assignmentTarget word),
  equalsBeforeLoop rules,
  do
    absent nameAndEquals
    _ ← rules .expression
    sign "="
    return some .assignmentInCall]

/-- An argument by name, or another kind of argument that may stand among such. -/
def namedOr (other : Reader Argument) : Reader Argument := choose [
  strictly (mistakenNamed rules),
  do
    nameAndEquals
    _ ← rules .expression
    return .named,
  other]

def namedOrStarred : Reader Argument := namedOr rules do
  _ ← starredArgument rules
  return .positional

def namedOrUnpacked : Reader Argument := namedOr rules do
  sign "**"
  _ ← rules .expression
  return .unpacked

def lateArguments : Reader (List Argument) := choose [
  do
    let before ← separated (namedOrStarred rules)
    sign ","
    return before ++ (← separated (namedOrUnpacked rules)),
  separated (namedOrStarred rules),
  separated (namedOrUnpacked rules)]

def argumentList : Reader (List Argument) := choose [
  do
    let plain ← separated (positional rules)
    let late ← attempt do
      sign ","
      lateArguments rules
    return plain ++ late.getD [],
  lateArguments rules]

/-- A generator without parentheses. -/
def looseGenerator : Reader Unit := do
  _ ← rules .expression
  clauses rules

def mistakenArguments : Reader Tree := complain [
  do
    _ ← argumentList rules
    sign ","
    sign "*"
    return some .starredAfterUnpacked,
  do
    looseGenerator rules
    sign ","
    _ ← attempt (choose [do _ ← argumentList rules, looseGenerator rules])
    return some .bareGenerator,
  equalsBeforeLoop rules,
  do
    let found ← argumentList rules
    clauses rules
    return if 1 < found.count .positional then some .bareGenerator else none,
  do
    _ ← argumentList rules
    sign ","
    looseGenerator rules
    return some .bareGenerator,
  do
    let found ← argumentList rules
    sign ","
    _ ← argumentList rules
    return some (if found.contains .unpacked then .positionalAfterUnpacked
      else .positionalAfterNamed)]

/-- The arguments before a closing parenthesis, as a call of no name. -/
def arguments : Reader Tree := choose [
  do
    let found ← argumentList rules
    _ ← attempt (sign ",")
    ahead (sign ")")
    return .call (.name "") found,
  strictly (mistakenArguments rules)]

end ToolSchema.Expression.Grammar
