import ToolSchema.Expression.Bracket
import ToolSchema.Expression.Quotation
import ToolSchema.Text.Identifier

/-! The words of an expression. `scan` cuts a text into names, numbers, quotations, signs and the
marks of lines, up to its end or to the first fault. A fault is kept with the words before it, since
whoever reads them may stop earlier. Within brackets line ends and indents mean nothing. -/

namespace ToolSchema.Expression

inductive Kind where
  | name (text : String)
  | keyword (text : String)
  | number (value : Number)
  | quotation (value : Quotation)
  | sign (text : String)
  | newline
  | indent
  | dedent
  | finish
  deriving DecidableEq, Repr

structure Token where
  kind : Kind
  line : Nat
  /-- How many brackets are open after the token. -/
  depth : Nat
  /-- Whether the end of the text has been met to find the end of the token. -/
  meetsEnd : Bool
  deriving DecidableEq, Repr

/-- Where a text stops to be words. A loud fault is told even if the reading has failed before it.
-/
structure Fault where
  error : SyntaxError
  isLoud : Bool
  /-- The innermost bracket that is open, and its line. -/
  bracket : Option (Char × Nat)
  deriving DecidableEq, Repr

def keywords : List String :=
  ["False", "None", "True", "and", "as", "assert", "async", "await", "break", "class", "continue",
    "def", "del", "elif", "else", "except", "finally", "for", "from", "global", "if", "import",
    "in", "is", "lambda", "nonlocal", "not", "or", "pass", "raise", "return", "try", "while",
    "with", "yield"]

/-- Signs of more than one character, the longer ones first. -/
def longSigns : List String :=
  ["**=", "...", "//=", "<<=", ">>=", "!=", "%=", "&=", "**", "*=", "+=", "-=", "->", "//", "/=",
    ":=", "<<", "<=", "<>", "==", ">=", ">>", "@=", "^=", "|="]

/-- The most indents that may be open. -/
def maxOpenIndents : Nat := 100

/-- The rest of a text to be cut, with the line at which it stands, the brackets that are open with
their lines, and the indents that are open. An indent is measured twice, with wide tabs and with
tabs of one column. -/
structure Scanner where
  rest : List Char
  line : Nat := 1
  brackets : List (Char × Nat) := []
  indents : List (Nat × Nat) := [(0, 0)]
  deriving DecidableEq, Repr

namespace Scanner

def loud (scanner : Scanner) (error : SyntaxError) : Fault := ⟨error, true, scanner.brackets.head?⟩

def quiet (scanner : Scanner) (error : SyntaxError) : Fault :=
  ⟨error, false, scanner.brackets.head?⟩

/-- The fault of a text that ends too early. -/
def early (scanner : Scanner) : Fault :=
  scanner.quiet <| match scanner.brackets with
    | [] => .openEnd
    | (opening, _) :: _ => .unclosedBracket opening

def token (scanner : Scanner) (kind : Kind) : Token :=
  ⟨kind, scanner.line, scanner.brackets.length, false⟩

/-- A word of a kind that is read from here up to where another scanner stands. Only quotations and
the longest signs say by themselves where they end. -/
def tokenTo (scanner next : Scanner) (kind : Kind) : Token :=
  let saysEnd := match kind with
    | .quotation _ => true
    | .sign text => text.length = 3
    | _ => false
  ⟨kind, scanner.line, next.brackets.length, next.rest = [] && !saysEnd⟩

/-! ### Lines -/

/-- A text after the line end that follows a backslash. -/
def afterBackslash (scanner : Scanner) (text : List Char) : Except Fault Scanner :=
  match text with
  | ['\n'] => .error { scanner with rest := [] }.early
  | '\n' :: rest => .ok { scanner with rest, line := scanner.line + 1 }
  | _ => .error (scanner.quiet .afterBackslash)

/-- The indent at the start of a line, and the text behind it. The first backslash in it fixes the
indent of the lines that it joins. -/
def measure (scanner : Scanner) (wide narrow fixed : Nat) :
    Nat → Except Fault ((Nat × Nat) × Scanner)
  | 0 => .ok ((wide, narrow), scanner)
  | fuel + 1 =>
    match scanner.rest with
    | ' ' :: rest => measure { scanner with rest } (wide + 1) (narrow + 1) fixed fuel
    | '\t' :: rest => measure { scanner with rest } ((wide / 8 + 1) * 8) (narrow + 1) fixed fuel
    | '\x0c' :: rest => measure { scanner with rest } 0 0 fixed fuel
    | '\\' :: rest =>
      match scanner.afterBackslash rest with
      | .error fault => .error fault
      | .ok next => measure next wide narrow (if fixed = 0 then wide else fixed) fuel
    | _ => .ok (if fixed = 0 then (wide, narrow) else (fixed, fixed), scanner)

/-- The marks of a change to an indent. -/
def changeIndent (scanner : Scanner) (indent : Nat × Nat) :
    Except Fault (List Token × Scanner) := do
  let (wide, narrow) := scanner.indents.headD (0, 0)
  if indent.1 = wide then
    if indent.2 = narrow then return ([], scanner) else throw (scanner.quiet .unevenTabs)
  else if wide < indent.1 then
    if maxOpenIndents ≤ scanner.indents.length then throw (scanner.quiet .tooManyIndents)
    else if indent.2 ≤ narrow then throw (scanner.quiet .unevenTabs)
    else return ([scanner.token .indent], { scanner with indents := indent :: scanner.indents })
  else
    let kept := scanner.indents.dropWhile fun outer => indent.1 < outer.1
    let (wide, narrow) := kept.headD (0, 0)
    if indent.1 ≠ wide then throw (scanner.quiet .unevenDedent)
    else if indent.2 ≠ narrow then throw (scanner.quiet .unevenTabs)
    else
      let closed := scanner.indents.length - kept.length
      return (List.replicate closed (scanner.token .dedent), { scanner with indents := kept })

/-- A text without the comment at its start. -/
def dropComment (text : List Char) : List Char :=
  if text.head? = some '#' then text.dropWhile (· ≠ '\n') else text

/-- The start of a line: the marks of its indent, and whether the line is blank and ends here. -/
def startLine (scanner : Scanner) : Except Fault (List Token × Bool × Scanner) := do
  let (indent, inner) ← scanner.measure 0 0 0 (scanner.rest.length + 1)
  match inner.rest, dropComment inner.rest with
  | '#' :: _, [] => return ([], false, { inner with rest := [] })
  | _, '\n' :: rest => return ([], true, { inner with rest, line := inner.line + 1 })
  | _, _ =>
    if inner.brackets ≠ [] then return ([], false, inner)
    else
      let (marks, next) ← inner.changeIndent indent
      return (marks, false, next)

/-! ### Words -/

/-- A name, all of whose characters have to fit. -/
def scanName (scanner : Scanner) : Except Fault (Kind × Scanner) :=
  let word := scanner.rest.takeWhile isNameCharacter
  let stray := match word with
    | [] => none
    | c :: more =>
      if Text.isIdentifierStart c then more.find? fun d => !Text.isIdentifierPart d else some c
  match stray with
  | some c =>
    let error := if Text.isPrintable c then .invalidCharacter c else .invisibleCharacter c
    .error (scanner.loud error)
  | none =>
    let text := String.ofList word
    let next := { scanner with rest := scanner.rest.drop word.length }
    .ok (if keywords.contains text then .keyword text else .name text, next)

/-- How many letters a quotation has before its quote, if one starts here. -/
def quotationMark? (text : List Char) : Option Nat :=
  [0, 1, 2].find? fun count =>
    Quotation.marks.contains (String.ofList ((text.take count).map Char.toLower)) &&
      ((text.drop count).head?.any fun c => c = '\'' || c = '"')

/-- The line at which a quotation has been read for nothing, and not ended. -/
def lineReached (scanner : Scanner) (read : List Char) (isWhole : Bool) : Nat :=
  scanner.line + read.count '\n' - if isWhole && read.getLast? = some '\n' then 1 else 0

/-- A quotation with some letters before its quote. -/
def scanQuotation (scanner : Scanner) (count : Nat) : Except Fault (Kind × Scanner) :=
  let mark := (scanner.rest.take count).map Char.toLower
  match scanner.rest.drop count with
  | quote :: text =>
    let isBlock := text.take 2 = [quote, quote]
    let inner := if isBlock then text.drop 2 else text
    let (body, after) :=
      if isBlock then Quotation.upToQuotes quote inner else Quotation.upToQuote quote inner
    match after with
    | some rest =>
      let line := scanner.line + body.count '\n'
      .ok (.quotation (Quotation.ofMark mark body), { scanner with rest, line })
    | none =>
      let line := scanner.lineReached body (body.length = inner.length)
      .error (scanner.loud (if isBlock then .unterminatedBlock line else .unterminatedText line))
  | [] => .error scanner.early

def scanNumber (scanner : Scanner) : Except Fault (Kind × Scanner) :=
  match Number.scan scanner.rest with
  | .ok (value, rest) => .ok (.number value, { scanner with rest })
  | .error error => .error (scanner.loud error)

/-- A bracket, a sign of several characters, or any other character that can be seen. -/
def scanSign (scanner : Scanner) : Except Fault (Kind × Scanner) :=
  match longSigns.find? fun sign => sign.toList.isPrefixOf scanner.rest, scanner.rest with
  | some sign, text => .ok (.sign sign, { scanner with rest := text.drop sign.length })
  | none, [] => .error scanner.early
  | none, c :: rest =>
    let next := { scanner with rest }
    let kind := Kind.sign (String.singleton c)
    if opensBracket c then
      if maxOpenBrackets ≤ scanner.brackets.length then .error (scanner.loud .tooManyBrackets)
      else .ok (kind, { next with brackets := (c, scanner.line) :: scanner.brackets })
    else if closesBracket c then
      match scanner.brackets with
      | [] => .error (scanner.loud (.unmatchedBracket c))
      | (opening, line) :: outer =>
        if opening = openingOf c then .ok (kind, { next with brackets := outer })
        else
          let told := if line = scanner.line then none else some line
          .error (scanner.loud (.mismatchedBracket c opening told))
    else if Text.isPrintable c then .ok (kind, next)
    else .error (scanner.loud (.invisibleCharacter c))

/-- The word at the start of a text that is not empty and starts with no blank. -/
def scanWord (scanner : Scanner) : Except Fault (Kind × Scanner) :=
  match quotationMark? scanner.rest, scanner.rest with
  | some count, _ => scanner.scanQuotation count
  | none, c :: rest =>
    if c.isDigit || (c = '.' && Number.startsWithDigit rest) then scanner.scanNumber
    else if isNameCharacter c then scanner.scanName
    else scanner.scanSign
  | none, [] => .error scanner.early

/-! ### All words -/

/-- The words of a text, and the fault that ends them. -/
structure Scan where
  tokens : List Token
  fault : Option Fault

def Scan.after (tokens : List Token) (scan : Scan) : Scan :=
  { scan with tokens := tokens ++ scan.tokens }

/-- The words from a place on, which may be the start of a line. -/
def scanFrom : Nat → Bool → Scanner → Scan
  | 0, _, scanner => ⟨[], some scanner.early⟩
  | fuel + 1, true, scanner =>
    match scanner.startLine with
    | .error fault => ⟨[], some fault⟩
    | .ok (marks, isOver, next) => (scanFrom fuel isOver next).after marks
  | fuel + 1, false, scanner =>
    let text := scanner.rest.dropWhile fun c => c = ' ' || c = '\t' || c = '\x0c'
    let here := { scanner with rest := dropComment text }
    match here.rest with
    | [] =>
      if here.brackets = [] then ⟨[here.token .finish], none⟩ else ⟨[], some here.early⟩
    | '\n' :: rest =>
      let marks := if here.brackets = [] then [here.token .newline] else []
      (scanFrom fuel true { here with rest, line := here.line + 1 }).after marks
    | '\\' :: rest =>
      match here.afterBackslash rest with
      | .error fault => ⟨[], some fault⟩
      | .ok next => scanFrom fuel false next
    | _ =>
      match here.scanWord with
      | .error fault => ⟨[], some fault⟩
      | .ok (kind, next) =>
        (scanFrom fuel false next).after [here.tokenTo next kind]

end Scanner

/-- A text in which every line ends with a line feed. -/
def unifyLines : List Char → List Char
  | '\r' :: '\n' :: rest => '\n' :: unifyLines rest
  | '\r' :: rest => '\n' :: unifyLines rest
  | c :: rest => c :: unifyLines rest
  | [] => []

def scan (text : List Char) : Scanner.Scan :=
  let unified := unifyLines text
  Scanner.scanFrom (2 * unified.length + 3) true { rest := unified }

end ToolSchema.Expression
