import ToolSchema.Expression.Bracket
import ToolSchema.Expression.Quotation

/-! Templates: texts with expressions in braces. A brace that is doubled stands for itself. An
expression ends at a mark or a brace outside of its own brackets and quotes; a conversion may follow
it and a layout, which is a template again but holds no further one with a layout. A template is
never a literal, so it is only checked. -/

namespace ToolSchema.Expression.Template

/-- Reads an expression that stands in a template, and says what is wrong with it. -/
abbrev Check := List Char → Option SyntaxError

/-- What is wrong with a template itself, or with an expression in it as it has been told. -/
inductive Refusal where
  | own (error : SyntaxError)
  | inner (told : SyntaxError)
  deriving DecidableEq, Repr

def refuse {α : Type} (problem : TemplateProblem) : Except Refusal α :=
  .error (.own (.template problem))

/-! ### The text between expressions -/

/-- A stretch of text before a brace that is not doubled. -/
structure Stretch where
  text : List Char
  /-- Whether a doubled brace ended the stretch. -/
  goesOn : Bool
  rest : List Char

def Stretch.after (read : List Char) (stretch : Stretch) : Stretch :=
  { stretch with text := read ++ stretch.text }

/-- What stands up to a closing brace, with the brace, and what follows it. -/
def throughBrace (text : List Char) : List Char × List Char :=
  let name := text.takeWhile (· ≠ '\x7d')
  (name ++ (text.drop name.length).take 1, text.drop (name.length + 1))

/-- A stretch that begins at a brace, which may be doubled in a template that is no layout. -/
def atBrace (isLayout : Bool) (brace : Char) (rest : List Char) : Except Refusal Stretch :=
  if isLayout then .ok ⟨[], false, brace :: rest⟩
  else if rest.head? = some brace then .ok ⟨[brace], true, rest.tail⟩
  else if brace = '\x7d' then refuse .loneBrace
  else .ok ⟨[], false, brace :: rest⟩

def stretch (isRaw isLayout : Bool) : Nat → List Char → Except Refusal Stretch
  | 0, text => .ok ⟨[], false, text⟩
  | _, [] => .ok ⟨[], false, []⟩
  | fuel + 1, c :: rest =>
    if c = '\\' && !isRaw then
      match rest with
      | 'N' :: '\x7b' :: more =>
        let (name, after) := throughBrace more
        (stretch isRaw isLayout fuel after).map (.after ('\\' :: 'N' :: '\x7b' :: name))
      | 'N' :: other :: more =>
        (stretch isRaw isLayout fuel more).map (.after ['\\', 'N', other])
      | escaped :: more =>
        if escaped = '\x7b' || escaped = '\x7d' then
          (atBrace isLayout escaped more).map (.after ['\\'])
        else (stretch isRaw isLayout fuel more).map (.after ['\\', escaped])
      | [] => .ok ⟨['\\'], false, []⟩
    else if c = '\x7b' || c = '\x7d' then atBrace isLayout c rest
    else (stretch isRaw isLayout fuel rest).map (.after [c])

def stretchFault? (isRaw : Bool) (text : List Char) : Option SyntaxError :=
  if isRaw then none else Quotation.escapeFault? 0 (Quotation.spelled text)

/-! ### Expressions -/

/-- Where the reading of an expression stands: in a quotation, which may have three quotes, and
within brackets. -/
structure Inside where
  quote : Option (Char × Bool) := none
  brackets : List Char := []

/-- How many characters after this one belong to it, and where the reading stands behind them;
`none` where the expression ends. -/
def advance (inside : Inside) (c : Char) (rest : List Char) :
    Except Refusal (Option (Nat × Inside)) :=
  let isTriple := rest.take 2 = [c, c]
  match inside.quote with
  | some (quote, wantsThree) =>
    if c = quote && !wantsThree then .ok (some (0, { inside with quote := none }))
    else if c = quote && isTriple then .ok (some (2, { inside with quote := none }))
    else .ok (some (0, inside))
  | none =>
    if c = '\'' || c = '"' then
      .ok (some (if isTriple then 2 else 0, { inside with quote := some (c, isTriple) }))
    else if opensBracket c then
      if maxOpenBrackets ≤ inside.brackets.length then refuse .tooManyBrackets
      else .ok (some (0, { inside with brackets := c :: inside.brackets }))
    else if c = '#' then refuse .comment
    else if inside.brackets = [] && ['!', '=', '<', '>'].contains c && rest.head? = some '=' then
      .ok (some (1, inside))
    else if inside.brackets = [] && ['!', ':', '\x7d', '='].contains c then .ok none
    else if closesBracket c then
      match inside.brackets with
      | [] => refuse (.unmatchedBracket c)
      | opening :: outer =>
        if opening = openingOf c then .ok (some (0, { inside with brackets := outer }))
        else refuse (.mismatchedBracket c opening)
    else .ok (some (0, inside))

/-- An expression up to the mark or the brace that ends it, and the text from there on. -/
def expression (inside : Inside) (text : List Char) :
    Except Refusal (List Char × List Char) :=
  match text with
  | [] =>
    match inside.quote, inside.brackets with
    | some _, _ => refuse .unterminatedText
    | none, bracket :: _ => refuse (.unmatchedBracket bracket)
    | none, [] => .ok ([], [])
  | c :: rest =>
    if c = '\\' then refuse .backslash
    else
      match advance inside c rest with
      | .error error => .error error
      | .ok none => .ok ([], c :: rest)
      | .ok (some (count, next)) =>
        (expression next (rest.drop count)).map fun found =>
          (c :: rest.take count ++ found.1, found.2)
termination_by text.length
decreasing_by simp only [List.length_drop, List.length_cons]; omega

def isSpace (c : Char) : Bool := c = ' ' || (9 ≤ c.toNat && c.toNat ≤ 13)

/-- Checks an expression that ends before a character. -/
def checkExpression (check : Check) (text : List Char) (mark : Char) : Except Refusal Unit :=
  if text.all fun c => c = ' ' || c = '\t' || c = '\n' || c = '\x0c' then
    refuse (if mark = '\x7d' then .empty else .emptyBefore mark)
  else
    match check ('(' :: text ++ [')', '\n']) with
    | some error => .error (.inner error)
    | none => .ok ()

/-- The text after an equals sign that shows the expression itself. -/
def afterEquals : List Char → Except Refusal (List Char)
  | '=' :: rest =>
    match rest.dropWhile isSpace with
    | [] => refuse .openEnd
    | after => .ok after
  | text => .ok text

def afterConversion : List Char → Except Refusal (List Char)
  | ['!'] => refuse .openEnd
  | '!' :: letter :: rest =>
    if letter = 's' || letter = 'r' || letter = 'a' then .ok rest else refuse .conversion
  | text => .ok text

/-! ### Templates -/

/-- The rest of a text after a template and the expressions in it. A layout ends at a brace. -/
def after (check : Check) (isRaw : Bool) : Nat → Nat → List Char → Except Refusal (List Char)
  | 0, _, text => .ok text
  | fuel + 1, level, text => do
    let first ← stretch isRaw (0 < level) text.length text
    if let some error := stretchFault? isRaw first.text then throw (.own error)
    if first.goesOn then after check isRaw fuel level first.rest
    else
      match first.rest with
      | '\x7b' :: inner =>
        if 2 ≤ level then refuse .tooDeep
        else
          let (text, rest) ← expression {} inner
          let some mark := rest.head? | refuse .openEnd
          checkExpression check text mark
          let rest ← afterEquals rest >>= afterConversion
          let rest ← match rest with
            | [':'] => refuse .openEnd
            | ':' :: layout => after check isRaw fuel (level + 1) layout
            | other => pure other
          match rest with
          | '\x7d' :: more => after check isRaw fuel level more
          | _ => refuse .openEnd
      | rest => if 0 < level && rest = [] then refuse .openEnd else return rest

/-- What is wrong with a template. -/
def refusal? (check : Check) (quotation : Quotation) : Option Refusal :=
  match after check quotation.isRaw (quotation.body.length + 1) 0 quotation.body with
  | .error refusal => some refusal
  | .ok _ => none

end ToolSchema.Expression.Template
