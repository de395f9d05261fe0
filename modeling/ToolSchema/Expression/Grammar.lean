import ToolSchema.Expression.Call
import ToolSchema.Expression.Parameters

/-! The grammar of expressions, from atoms to operators, and the reading of a whole text. A text
that cannot be read is read once more strictly, to find a mistake that says more than that it is no
expression. Without one, a fault in a part of the text that has not been looked at says more too. -/

namespace ToolSchema.Expression.Grammar

open Reader

variable (rules : Rules)

/-! ### Atoms -/

/-- What is wrong with a quotation after those before it, which hold bytes or not. -/
def quotationRefusal? (check : Template.Check) (isBytes : Bool) (quotation : Quotation) :
    Option Template.Refusal :=
  let bodyFault := if quotation.isTemplate then none else quotation.bodyFault?
  match bodyFault with
  | some error => some (.own error)
  | none =>
    if quotation.isBytes ≠ isBytes then some (.own .mixedTexts)
    else if quotation.isTemplate then Template.refusal? check quotation
    else none

/-- Quotations in a row, which are one text. -/
def strings : Reader Tree := do
  let parts ← several quotation
  let check := (← read).check
  let isBytes := parts.head?.any Quotation.isBytes
  match parts.findSome? (quotationRefusal? check isBytes) with
  | some (.own error) => refuse error
  | some (.inner told) => stopWith told
  | none =>
    return if parts.any Quotation.isTemplate then .template
      else .constant (if isBytes then .bytes else .text)

def number : Reader Tree := do
  let value ← accept fun
    | .number value => some value
    | _ => none
  match value with
  | .oversized digits => refuse (.tooManyDigits digits)
  | _ => return .constant (.number value)

def group : Reader Tree := choose [
  do
    sign "("
    let found ← choose [yielded rules, namedExpression rules]
    sign ")"
    return found,
  strictly (complain [
    do
      sign "("
      _ ← starredArgument rules
      sign ")"
      return some .starredGroup,
    do
      sign "("
      sign "**"
      _ ← rules .expression
      sign ")"
      return some .doubleStarredGroup])]

def tuple : Reader Tree := do
  sign "("
  let elements ← attempt do
    let first ← starNamed rules
    sign ","
    return first :: ((← attempt (listed (starNamed rules))).getD [])
  sign ")"
  return .tuple (elements.getD [])

def pair : Reader (Tree × Tree) := do
  let key ← rules .expression
  sign ":"
  return (key, ← rules .expression)

def dictEntry : Reader (Tree × Tree) := choose [
  do
    sign "**"
    return (.noKey, ← rules .bitOr),
  pair rules]

/-- What is wrong with the value after a key and a colon. -/
def mistakenValues : List (Reader (Option SyntaxError)) := [
  do
    _ ← rules .expression
    sign ":"
    sign "*"
    _ ← rules .bitOr
    return some .starredValue,
  do
    _ ← rules .expression
    sign ":"
    ahead (choose [sign "\x7d", sign ","])
    return some .missingValue]

def mistakenEntries : Reader Tree := complain <|
  (do
    _ ← separated (dictEntry rules)
    sign ","
    complain <|
      (do
        _ ← rules .expression
        absent (sign ":")
        return some .missingColon) :: mistakenValues rules) :: mistakenValues rules

def dict : Reader Tree := choose [
  do
    sign "\x7b"
    let entries ← attempt (listed (dictEntry rules))
    sign "\x7d"
    return .dict (entries.getD []),
  do
    sign "\x7b"
    mistakenEntries rules]

def set : Reader Tree := do
  sign "\x7b"
  let elements ← listed (starNamed rules)
  sign "\x7d"
  return .set elements

def dictComprehension : Reader Tree := choose [
  do
    sign "\x7b"
    _ ← pair rules
    clauses rules
    sign "\x7d"
    return .dictComprehension,
  strictly (complain [
    do
      sign "\x7b"
      sign "**"
      _ ← rules .bitOr
      clauses rules
      sign "\x7d"
      return some .doubleStarredComprehension])]

def setComprehension : Reader Tree := choose [
  do
    sign "\x7b"
    _ ← namedExpression rules
    clauses rules
    sign "\x7d"
    return .setComprehension,
  strictly (mistakenComprehension rules)]

def word (text : String) (value : Constant) : Reader Tree := do
  keyword text
  return .constant value

def atom : Reader Tree := choose [
  do return .name (← name),
  word "True" (.truth true),
  word "False" (.truth false),
  word "None" .none,
  do
    ahead quotation
    rules .strings,
  number,
  do
    ahead (sign "(")
    choose [tuple rules, group rules, generator rules],
  do
    ahead (sign "\x7b")
    choose [dict rules, set rules, dictComprehension rules, setComprehension rules],
  do
    sign "..."
    return .constant .ellipsis]

/-! ### What follows an atom -/

/-- The arguments of a call in parentheses. -/
def callArguments : Reader (List Argument) := do
  sign "("
  let found ← attempt (rules .arguments)
  sign ")"
  return (found.map Tree.arguments).getD []

def primary : Reader Tree := choose [
  do
    _ ← rules .primary
    sign "."
    _ ← name
    return .member,
  do
    let callee ← rules .primary
    _ ← generator rules
    return .call callee [.positional],
  do
    let callee ← rules .primary
    return .call callee (← callArguments rules),
  atom rules]

/-- A primary that is the start of a longer target. -/
def targetPrimary : Reader Tree := choose [
  do
    _ ← rules .targetPrimary
    sign "."
    _ ← name
    ahead goesOn
    return .member,
  do
    let callee ← rules .targetPrimary
    _ ← generator rules
    ahead goesOn
    return .call callee [.positional],
  do
    let callee ← rules .targetPrimary
    let found ← callArguments rules
    ahead goesOn
    return .call callee found,
  do
    let found ← atom rules
    ahead goesOn
    return found]

/-! ### Operators -/

def awaited : Reader Tree := choose [
  do
    keyword "await"
    _ ← rules .primary
    return .awaiting,
  rules .primary]

def power : Reader Tree := choose [
  do
    _ ← rules .awaited
    sign "**"
    _ ← rules .factor
    return .operation,
  rules .awaited]

def factor : Reader Tree := choose [
  do
    sign "+"
    return .signed false (← rules .factor),
  do
    sign "-"
    return .signed true (← rules .factor),
  do
    sign "~"
    _ ← rules .factor
    return .operation,
  power rules]

/-- Operators of one rank, which group to the left, over operands of the next rank. -/
def leftward (rule operand : Rule) (operators : List (String × (Tree → Tree → Tree))) :
    Reader Tree :=
  choose (operators.map (fun (text, join) => do
    let left ← rules rule
    sign text
    return join left (← rules operand)) ++ [rules operand])

def plain (text : String) : String × (Tree → Tree → Tree) := (text, fun _ _ => .operation)

/-- A comparison sign, and whether it asks for membership. -/
def comparisonSign : Reader Bool := choose (
  (["==", "!=", "<=", "<", ">=", ">"].map fun text => do
    sign text
    return false) ++ [
  do
    keyword "not"
    keyword "in"
    return false,
  do
    keyword "in"
    return true,
  do
    keyword "is"
    keyword "not"
    return false,
  do
    keyword "is"
    return false])

def comparison : Reader Tree := do
  let left ← rules .bitOr
  let signs ← many do
    let isMembership ← comparisonSign
    _ ← rules .bitOr
    return isMembership
  match signs with
  | [] => return left
  | first :: _ => return .comparison first left

def inversion : Reader Tree := choose [
  do
    keyword "not"
    _ ← rules .inversion
    return .operation,
  comparison rules]

/-- Operands that a word joins. -/
def joined (text : String) (operand : Rule) : Reader Tree := do
  let first ← rules operand
  let more ← many do
    keyword text
    rules operand
  return if more.isEmpty then first else .operation

def conditional : Reader Tree := do
  _ ← rules .disjunction
  keyword "if"
  _ ← rules .disjunction
  keyword "else"
  _ ← rules .expression
  return .conditional

/-! ### Expressions -/

/-- Names that once began a statement. -/
def isStatement (text : String) : Bool := text = "print" || text = "exec"

/-- A name before a text, or a name that begins one that is a word elsewhere. -/
def unusualName : Reader Unit := do
  let text ← name
  unless ["_", "case", "match"].any text.isPrefixOf do _ ← quotation

def mistakenExpression : Reader Tree := complain [
  do
    absent unusualName
    let left ← rules .disjunction
    _ ← leniently (choose [conditional rules, rules .disjunction, lambda rules])
    let isCall := match left with
      | .name text => isStatement text
      | _ => false
    return if isCall || (← depth) = 0 then none else some .missingComma,
  do
    _ ← rules .disjunction
    keyword "if"
    _ ← rules .disjunction
    absent (choose [keyword "else", sign ":"])
    return some .missingElse]

def mistakenStatement : Reader Tree := complain [
  do
    let text ← name
    absent (sign "(")
    _ ← starExpressions rules
    return if isStatement text then some (.missingParentheses text) else none]

def expression : Reader Tree := choose [
  strictly (mistakenExpression rules),
  strictly (mistakenStatement rules),
  conditional rules,
  rules .disjunction,
  lambda rules]

def mistakenName : Reader Tree :=
  let noFurther : Reader Unit := absent (choose [sign "=", sign ":="])
  complain [
    do
      let target ← rules .expression
      sign ":="
      _ ← rules .expression
      return some (.namedTarget target.description),
    do
      nameAndEquals
      _ ← rules .bitOr
      noFurther
      return some .singleEquals,
    do
      absent (choose [tuple rules, generator rules, word "True" (.truth true), word "None" .none,
        word "False" (.truth false)])
      let target ← rules .bitOr
      sign "="
      _ ← rules .bitOr
      noFurther
      return some (.assignmentHere target.description)]

/-- One step of all rules. -/
def step : Rules
  | .expression => once .expression (expression rules)
  | .starExpression => once .starExpression (starExpression rules)
  | .mistakenName => once .mistakenName (mistakenName rules)
  | .disjunction => once .disjunction (joined rules "or" .conjunction)
  | .conjunction => once .conjunction (joined rules "and" .inversion)
  | .inversion => once .inversion (inversion rules)
  | .bitOr => growing .bitOr (leftward rules .bitOr .bitXor [plain "|"])
  | .bitXor => growing .bitXor (leftward rules .bitXor .bitAnd [plain "^"])
  | .bitAnd => growing .bitAnd (leftward rules .bitAnd .shift [plain "&"])
  | .shift => growing .shift (leftward rules .shift .sum [plain "<<", plain ">>"])
  | .sum => growing .sum (leftward rules .sum .term [("+", .sum false), ("-", .sum true)])
  | .term => growing .term (leftward rules .term .factor
      [plain "*", plain "/", plain "//", plain "%", plain "@"])
  | .factor => once .factor (factor rules)
  | .awaited => once .awaited (awaited rules)
  | .primary => growing .primary (primary rules)
  | .strings => once .strings strings
  | .arguments => once .arguments (arguments rules)
  | .starTarget => once .starTarget (starTarget rules)
  | .plainTarget => once .plainTarget (plainTarget rules)
  | .targetPrimary => growing .targetPrimary (targetPrimary rules)

def rulesUpTo : Nat → Rules
  | 0 => fun _ => failure
  | depth + 1 => step (rulesUpTo depth)

/-! ### Whole texts -/

/-- A text that is one expression, or the beginning of a text within a template. -/
def whole (isInner : Bool) : Reader Tree := do
  if isInner then starExpressions rules
  else
    let found ← expressions rules
    _ ← many (kind .newline)
    kind .finish
    return found

/-- The error that is told in place of another one, after some tokens have been looked at. -/
def revised (setting : Setting) (error : SyntaxError) (reached : Nat) : SyntaxError :=
  match setting.fault with
  | none => error
  | some fault =>
    if fault.isLoud then fault.error
    else
      let line := ((setting.tokens[reached - 1]?).map Token.line).getD 0
      match fault.bracket with
      | some (opening, opened) =>
        if opened < line then told setting.isInner (.unclosedBracket opening) else error
      | none => error

def reason (setting : Setting) : Stop → SyntaxError
  | .fault fault => if fault.isLoud then fault.error else told setting.isInner fault.error
  | .error error reached =>
    if (setting.tokens[reached - 1]?).any Token.meetsEnd then error
    else revised setting error reached

/-- The tree of a text, or what is wrong with it. -/
def readWith (check : Template.Check) (isInner : Bool) (text : List Char) :
    Except SyntaxError Tree :=
  let scanned := scan text
  let setting : Setting :=
    { tokens := scanned.tokens.toArray, fault := scanned.fault, check, isInner, isStrict := false }
  let size := setting.tokens.size
  let reader := whole (rulesUpTo (64 * (size + 2))) isInner
  let results := Array.replicate (size + 1) []
  match ((reader.run setting).run).run { results } with
  | .error stop => .error (reason setting stop)
  | .ok (some tree, _) => .ok tree
  | .ok (none, state) =>
    let again := { position := 0, reached := state.reached, results }
    match ((reader.run { setting with isStrict := true }).run).run again with
    | .error stop => .error (reason setting stop)
    | .ok (_, last) =>
      if (setting.tokens[state.reached - 1]?).any fun token => token.kind = .indent then
        .error (told isInner .unexpectedIndent)
      else .error (revised setting (told isInner .general) last.reached)

/-- Reads a text whose templates are nested at most so deep. -/
def readUpTo : Nat → Bool → List Char → Except SyntaxError Tree
  | 0, isInner, text => readWith (fun _ => none) isInner text
  | depth + 1, isInner, text =>
    let check inner := match readUpTo depth true inner with
      | .error error => some error
      | .ok _ => none
    readWith check isInner text

end ToolSchema.Expression.Grammar

namespace ToolSchema.Expression

/-- The tree of a text, or what is wrong with it. -/
def read (text : List Char) : Except SyntaxError Tree :=
  if text.contains '\x00' then .error .nullCharacter
  else Grammar.readUpTo text.length false text

end ToolSchema.Expression
