import ToolSchema.Decimal.Limit
import ToolSchema.Text.Quoted

/-! Why a text is no expression. The causes follow the stages of reading: characters and brackets,
lines, numbers, texts in quotes, templates, and last the grammar. `SyntaxError.message` words them.
-/

namespace ToolSchema.Expression

inductive NumberKind where
  | decimal
  | hexadecimal
  | octal
  | binary
  | imaginary
  deriving DecidableEq, Repr

def NumberKind.name : NumberKind → String
  | .decimal => "decimal"
  | .hexadecimal => "hexadecimal"
  | .octal => "octal"
  | .binary => "binary"
  | .imaginary => "imaginary"

/-- What is wrong with an escape in a text. -/
inductive EscapeProblem where
  | truncated (pattern : String)
  | noCharacter
  | malformedName
  | unknownName
  deriving DecidableEq, Repr

def EscapeProblem.message : EscapeProblem → String
  | .truncated pattern => s!"truncated {pattern} escape"
  | .noCharacter => "illegal Unicode character"
  | .malformedName => "malformed \\N character escape"
  | .unknownName => "unknown Unicode character name"

/-- What is wrong with the braces of a template. -/
inductive TemplateProblem where
  | openEnd
  | loneBrace
  | tooDeep
  | backslash
  | comment
  | tooManyBrackets
  | unmatchedBracket (bracket : Char)
  | mismatchedBracket (closing opening : Char)
  | unterminatedText
  | empty
  | emptyBefore (mark : Char)
  | conversion
  deriving DecidableEq, Repr

def TemplateProblem.message : TemplateProblem → String
  | .openEnd => "f-string: expecting '\x7d'"
  | .loneBrace => "f-string: single '\x7d' is not allowed"
  | .tooDeep => "f-string: expressions nested too deeply"
  | .backslash => "f-string expression part cannot include a backslash"
  | .comment => "f-string expression part cannot include '#'"
  | .tooManyBrackets => "f-string: too many nested parenthesis"
  | .unmatchedBracket bracket => s!"f-string: unmatched '{bracket}'"
  | .mismatchedBracket closing opening =>
    s!"f-string: closing parenthesis '{closing}' does not match opening parenthesis '{opening}'"
  | .unterminatedText => "f-string: unterminated string"
  | .empty => "f-string: empty expression not allowed"
  | .emptyBefore mark => s!"f-string: expression required before '{mark}'"
  | .conversion => "f-string: invalid conversion character: expected 's', 'r', or 'a'"

/-- What is wrong with the parameters of a lambda. -/
inductive ParameterProblem where
  | order
  | parenthesized
  | slashFirst
  | slashTwice
  | slashAfterStar
  | noCommaAfterSlash
  | bareStar
  | starDefault
  | starTwice
  | doubleStarDefault
  | afterDoubleStar
  | noDefault
  deriving DecidableEq, Repr

def ParameterProblem.message : ParameterProblem → String
  | .order => "non-default argument follows default argument"
  | .parenthesized => "Lambda expression parameters cannot be parenthesized"
  | .slashFirst => "at least one argument must precede /"
  | .slashTwice => "/ may appear only once"
  | .slashAfterStar => "/ must be ahead of *"
  | .noCommaAfterSlash => "expected comma between / and *"
  | .bareStar => "named arguments must follow bare *"
  | .starDefault => "var-positional argument cannot have default value"
  | .starTwice => "* argument may appear only once"
  | .doubleStarDefault => "var-keyword argument cannot have default value"
  | .afterDoubleStar => "arguments cannot follow var-keyword argument"
  | .noDefault => "expected default value expression"

inductive SyntaxError where
  | nullCharacter
  | invalidCharacter (c : Char)
  | invisibleCharacter (c : Char)
  | tooManyBrackets
  | unmatchedBracket (closing : Char)
  /-- A bracket closes one of another kind, which may have been opened on an earlier line. -/
  | mismatchedBracket (closing opening : Char) (line : Option Nat)
  | unclosedBracket (opening : Char)
  | openEnd
  | afterBackslash
  | unexpectedIndent
  | unevenDedent
  | unevenTabs
  | tooManyIndents
  | invalidNumber (kind : NumberKind)
  | invalidDigit (digit : Char) (kind : NumberKind)
  | leadingZeros
  | tooManyDigits (count : Nat)
  | unterminatedText (line : Nat)
  | unterminatedBlock (line : Nat)
  | escape (first last : Nat) (problem : EscapeProblem)
  | byteEscape (position : Nat)
  | byteCharacter
  | mixedTexts
  | template (problem : TemplateProblem)
  /-- The expression within a template is at fault. -/
  | inTemplate (error : SyntaxError)
  | general
  | missingComma
  | singleEquals
  | missingElse
  | missingParentheses (name : String)
  | namedTarget (target : String)
  | assignmentTarget (target : String)
  | assignmentHere (target : String)
  | assignmentInCall
  | bareStar
  | starredGroup
  | doubleStarredGroup
  | starredComprehension
  | doubleStarredComprehension
  | bareTarget
  | bareGenerator
  | positionalAfterNamed
  | positionalAfterUnpacked
  | starredAfterUnpacked
  | missingColon
  | starredValue
  | missingValue
  | parameters (problem : ParameterProblem)
  deriving DecidableEq, Repr

def codePoint (c : Char) : String :=
  let digits := (Nat.toDigits 16 c.toNat).map Char.toUpper
  "U+" ++ String.ofList (List.replicate (4 - digits.length) '0' ++ digits)

namespace SyntaxError

def message : SyntaxError → String
  | nullCharacter => "source code string cannot contain null bytes"
  | invalidCharacter c => s!"invalid character '{c}' ({codePoint c})"
  | invisibleCharacter c => s!"invalid non-printable character {codePoint c}"
  | tooManyBrackets => "too many nested parentheses"
  | unmatchedBracket closing => s!"unmatched '{closing}'"
  | mismatchedBracket closing opening line =>
    s!"closing parenthesis '{closing}' does not match opening parenthesis '{opening}'" ++
      match line with
      | some n => s!" on line {n}"
      | none => ""
  | unclosedBracket opening => s!"'{opening}' was never closed"
  | openEnd => "unexpected EOF while parsing"
  | afterBackslash => "unexpected character after line continuation character"
  | unexpectedIndent => "unexpected indent"
  | unevenDedent => "unindent does not match any outer indentation level"
  | unevenTabs => "inconsistent use of tabs and spaces in indentation"
  | tooManyIndents => "too many levels of indentation"
  | invalidNumber kind => s!"invalid {kind.name} literal"
  | invalidDigit digit kind => s!"invalid digit '{digit}' in {kind.name} literal"
  | leadingZeros =>
    "leading zeros in decimal integer literals are not permitted; " ++
      "use an 0o prefix for octal integers"
  | tooManyDigits count =>
    Decimal.overlongMessage count ++
      " - Consider hexadecimal for huge integer literals to avoid decimal conversion limits."
  | unterminatedText line => s!"unterminated string literal (detected at line {line})"
  | unterminatedBlock line =>
    s!"unterminated triple-quoted string literal (detected at line {line})"
  | escape first last problem =>
    s!"(unicode error) 'unicodeescape' codec can't decode bytes in position {first}-{last}: " ++
      problem.message
  | byteEscape position => s!"(value error) invalid \\x escape at position {position}"
  | byteCharacter => "bytes can only contain ASCII literal characters"
  | mixedTexts => "cannot mix bytes and nonbytes literals"
  | template problem => problem.message
  | inTemplate error => "f-string: " ++ message error
  | general => "invalid syntax"
  | missingComma => "invalid syntax. Perhaps you forgot a comma?"
  | singleEquals => "invalid syntax. Maybe you meant '==' or ':=' instead of '='?"
  | missingElse => "expected 'else' after 'if' expression"
  | missingParentheses name =>
    s!"Missing parentheses in call to '{name}'. Did you mean {name}(...)?"
  | namedTarget target => s!"cannot use assignment expressions with {target}"
  | assignmentTarget target => s!"cannot assign to {target}"
  | assignmentHere target =>
    s!"cannot assign to {target} here. Maybe you meant '==' instead of '='?"
  | assignmentInCall => "expression cannot contain assignment, perhaps you meant \"==\"?"
  | bareStar => "Invalid star expression"
  | starredGroup => "cannot use starred expression here"
  | doubleStarredGroup => "cannot use double starred expression here"
  | starredComprehension => "iterable unpacking cannot be used in comprehension"
  | doubleStarredComprehension => "dict unpacking cannot be used in dict comprehension"
  | bareTarget => "did you forget parentheses around the comprehension target?"
  | bareGenerator => "Generator expression must be parenthesized"
  | positionalAfterNamed => "positional argument follows keyword argument"
  | positionalAfterUnpacked => "positional argument follows keyword argument unpacking"
  | starredAfterUnpacked => "iterable argument unpacking follows keyword argument unpacking"
  | missingColon => "':' expected after dictionary key"
  | starredValue => "cannot use a starred expression in a dictionary value"
  | missingValue => "expression expected after dictionary key and ':'"
  | parameters problem => problem.message

end SyntaxError

end ToolSchema.Expression
