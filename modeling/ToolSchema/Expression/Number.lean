import ToolSchema.Expression.Error

/-! Numbers in an expression. Whole numbers are written in one of four bases, single low lines may
stand between their digits, and a decimal number may have a fraction, an exponent and the mark of
the imaginary part. No letter follows a number at once, unless one of a few words begins there. -/

namespace ToolSchema.Expression

/-- What is kept of a number. -/
inductive Number where
  | whole (value : Nat)
  /-- A whole number of more digits than are read. -/
  | oversized (digits : Nat)
  | fraction
  | imaginary
  deriving DecidableEq, Repr

/-- Characters of names, among them all that are not ASCII. -/
def isNameCharacter (c : Char) : Bool := c.isAlphanum || c = '_' || 128 ≤ c.toNat

namespace Number

def isHexDigit (c : Char) : Bool :=
  c.isDigit || ('a' ≤ c && c ≤ 'f') || ('A' ≤ c && c ≤ 'F')

def hexValue (c : Char) : Nat :=
  if c.isDigit then c.toNat - '0'.toNat else c.toLower.toNat - 'a'.toNat + 10

/-- The number that digits of a base write. -/
def ofDigits (base : Nat) (digits : List Char) : Nat :=
  digits.foldl (fun n c => base * n + hexValue c) 0

/-- Digits, among them single low lines that are dropped, and what follows them. -/
def digitRun (isDigit : Char → Bool) : List Char → List Char × List Char
  | '_' :: c :: rest =>
    if isDigit c then
      let (digits, after) := digitRun isDigit rest
      (c :: digits, after)
    else ([], '_' :: c :: rest)
  | c :: rest =>
    if isDigit c then
      let (digits, after) := digitRun isDigit rest
      (c :: digits, after)
    else ([], c :: rest)
  | [] => ([], [])

/-- Whether one of the words begins here that may follow a number at once. The short ones need not
end where they seem to. -/
def isFollowed (rest : List Char) : Bool :=
  (["if", "in", "is"].any fun word => word.toList.isPrefixOf rest) ||
    ["and", "else", "for", "not", "or"].any fun word =>
      word.toList.isPrefixOf rest && !(rest.drop word.length).head?.any isNameCharacter

/-- The rest of a text, if a number of a kind may end before it. -/
def ends (kind : NumberKind) (rest : List Char) : Except SyntaxError (List Char) :=
  if rest.head?.any (fun c => c.isAlphanum || c = '_') && !isFollowed rest then
    .error (.invalidNumber kind)
  else .ok rest

/-- A number in one of the bases that a letter announces. -/
def scanBase (kind : NumberKind) (base : Nat) (isDigit : Char → Bool) (text : List Char) :
    Except SyntaxError (Number × List Char) := do
  let (digits, rest) := digitRun isDigit text
  let broken := rest.head? = some '_'
  match (if broken then rest.tail else rest).head?.filter Char.isDigit with
  | some digit => throw (.invalidDigit digit kind)
  | none =>
    if digits = [] || broken then throw (.invalidNumber kind)
    else return (.whole (ofDigits base digits), ← ends kind rest)

/-- Decimal digits and what follows them, which is no low line. -/
def scanDigits (text : List Char) : Except SyntaxError (List Char × List Char) :=
  let (digits, rest) := digitRun Char.isDigit text
  if rest.head? = some '_' then .error (.invalidNumber .decimal) else .ok (digits, rest)

def startsWithDigit (text : List Char) : Bool := text.head?.any Char.isDigit

/-- What follows the digits at the start of a text, if it starts with a digit. -/
def afterDigits (text : List Char) : Except SyntaxError (List Char) :=
  if startsWithDigit text then (scanDigits text).map Prod.snd else .ok text

def afterFraction : List Char → Except SyntaxError (List Char)
  | '.' :: rest => afterDigits rest
  | text => .ok text

/-- What follows an exponent. Without a digit or a sign there is no exponent. -/
def afterExponent (text : List Char) : Except SyntaxError (List Char) :=
  match text with
  | e :: sign :: rest =>
    if e ≠ 'e' && e ≠ 'E' then .ok text
    else if startsWithDigit (sign :: rest) then afterDigits (sign :: rest)
    else if sign ≠ '+' && sign ≠ '-' then .ok text
    else if startsWithDigit rest then afterDigits rest
    else .error (.invalidNumber .decimal)
  | _ => .ok text

def ofDecimal (digits : List Char) : Number :=
  if Decimal.maxDigits < digits.length && digits.head? ≠ some '0' then .oversized digits.length
  else .whole (ofDigits 10 digits)

def scanDecimal (text : List Char) : Except SyntaxError (Number × List Char) := do
  let (digits, afterWhole) ← scanDigits text
  let rest ← afterFraction afterWhole >>= afterExponent
  match rest with
  | 'j' :: after => return (.imaginary, ← ends .imaginary after)
  | 'J' :: after => return (.imaginary, ← ends .imaginary after)
  | _ =>
    let hasMark := rest.head? = some 'e' || rest.head? = some 'E'
    if rest.length < afterWhole.length then return (.fraction, ← ends .decimal rest)
    else if digits.head? = some '0' && digits.any (· ≠ '0') && !hasMark then throw .leadingZeros
    else return (ofDecimal digits, ← ends .decimal rest)

/-- The number at the start of a text that begins with a digit or with a point and a digit. -/
def scan : List Char → Except SyntaxError (Number × List Char)
  | '0' :: letter :: rest =>
    match letter.toLower with
    | 'x' => scanBase .hexadecimal 16 isHexDigit rest
    | 'o' => scanBase .octal 8 (fun c => '0' ≤ c && c < '8') rest
    | 'b' => scanBase .binary 2 (fun c => c = '0' || c = '1') rest
    | _ => scanDecimal ('0' :: letter :: rest)
  | text => scanDecimal text

end Number

end ToolSchema.Expression
