import ToolSchema.Decimal.Limit
import ToolSchema.Json.Basic
import ToolSchema.Text.Half

/-! The words of JSON text. `Token.scan` cuts text into punctuation, strings, numbers and names and
drops the blanks between them; at the first place that starts no word it ends with `junk`, so that
whoever reads the words meets the fault where it stands in the text. Besides standard JSON the names
`NaN`, `Infinity` and `-Infinity` are numbers. -/

namespace ToolSchema.Json

inductive Token where
  | openBracket
  | closeBracket
  | openBrace
  | closeBrace
  | comma
  | colon
  | str (value : String)
  | scalar (value : Json)
  /-- A whole number of more digits than are read. -/
  | oversized (digits : Nat)
  | junk

namespace Token

/-- Blanks between words. -/
def isBlank (c : Char) : Bool := c = ' ' || c = '\t' || c = '\n' || c = '\r'

def hexValue? (c : Char) : Option Nat :=
  if '0' ≤ c ∧ c ≤ '9' then some (c.toNat - '0'.toNat)
  else if 'a' ≤ c ∧ c ≤ 'f' then some (c.toNat - 'a'.toNat + 10)
  else if 'A' ≤ c ∧ c ≤ 'F' then some (c.toNat - 'A'.toNat + 10)
  else none

/-- The code unit written by four hexadecimal digits. -/
def hexUnit? (a b c d : Char) : Option Nat := do
  return (((← hexValue? a) * 16 + (← hexValue? b)) * 16 + (← hexValue? c)) * 16 + (← hexValue? d)

def shortEscape? : Char → Option Char
  | '"' => some '"'
  | '\\' => some '\\'
  | '/' => some '/'
  | 'b' => some '\x08'
  | 'f' => some '\x0c'
  | 'n' => some '\n'
  | 'r' => some '\r'
  | 't' => some '\t'
  | _ => none

/-- The body of a string after its opening quote, as code units, and the text after its closing
quote. Control characters have to be escaped. -/
def scanUnits : List Char → Option (List Nat × List Char)
  | [] => none
  | '"' :: rest => some ([], rest)
  | '\\' :: 'u' :: a :: b :: c :: d :: rest =>
    match hexUnit? a b c d, scanUnits rest with
    | some unit, some (units, tail) => some (unit :: units, tail)
    | _, _ => none
  | '\\' :: e :: rest =>
    match shortEscape? e, scanUnits rest with
    | some c, some (units, tail) => some (c.toNat :: units, tail)
    | _, _ => none
  | c :: rest =>
    if c.toNat < 0x20 ∨ c = '\\' then none
    else match scanUnits rest with
      | some (units, tail) => some (c.toNat :: units, tail)
      | none => none

/-- The characters of a sequence of code units: a high surrogate and the low surrogate after it are
one character, and a surrogate alone is a half. -/
def joinUnits : List Nat → List Char
  | [] => []
  | [unit] => Text.ofUnit unit
  | high :: low :: rest =>
    if 0xD800 ≤ high ∧ high < 0xDC00 ∧ 0xDC00 ≤ low ∧ low < 0xE000 then
      Char.ofNat (0x10000 + (high - 0xD800) * 0x400 + (low - 0xDC00)) :: joinUnits rest
    else Text.ofUnit high ++ joinUnits (low :: rest)

def scanString (text : List Char) : Option (String × List Char) :=
  (scanUnits text).map fun found => (String.ofList (joinUnits found.1), found.2)

def isDigit (c : Char) : Bool := '0' ≤ c && c ≤ '9'

/-- The number that a run of digits writes. -/
def digitsValue (digits : List Char) : Nat :=
  digits.foldl (fun n c => n * 10 + (c.toNat - '0'.toNat)) 0

/-- The digits of a whole part: a single zero, or digits that do not start with zero. -/
def scanWhole : List Char → Option (List Char × List Char)
  | [] => none
  | c :: rest =>
    if c = '0' then some (['0'], rest)
    else if isDigit c then some (c :: rest.takeWhile isDigit, rest.dropWhile isDigit)
    else none

/-- The digits after a point; without a digit the point is not taken. -/
def scanFraction : List Char → List Char × List Char
  | '.' :: c :: rest =>
    if isDigit c then (c :: rest.takeWhile isDigit, rest.dropWhile isDigit)
    else ([], '.' :: c :: rest)
  | text => ([], text)

/-- Whether a minus sign comes first, and the text after a sign of either kind. -/
def scanSign : List Char → Bool × List Char
  | '+' :: rest => (false, rest)
  | '-' :: rest => (true, rest)
  | text => (false, text)

/-- The exponent after `e` or `E`; without a digit it is not taken. -/
def scanExponent : List Char → Option Int × List Char
  | e :: rest =>
    if e = 'e' ∨ e = 'E' then
      let (negative, signless) := scanSign rest
      match signless.takeWhile isDigit with
      | [] => (none, e :: rest)
      | digits =>
        let size : Int := digitsValue digits
        (some (if negative then -size else size), signless.dropWhile isDigit)
    else (none, e :: rest)
  | [] => (none, [])

/-- The double nearest to `digits * 10 ^ exponent`. Numbers beyond the range of doubles are settled
by their size alone: the large ones are infinite and the small ones zero. -/
def nearestDouble (digits : List Char) (exponent : Int) : Float :=
  let mantissa := digitsValue digits
  let size := Int.ofNat (digits.dropWhile (· = '0')).length + exponent
  if mantissa = 0 ∨ size < -400 then 0
  else if 400 < size then 1 / 0
  else if exponent < 0 then Float.ofScientific mantissa true exponent.natAbs
  else Float.ofScientific mantissa false exponent.natAbs

/-- A number without its sign, and the text after it. -/
def scanUnsigned (negative : Bool) (text : List Char) : Option (Token × List Char) :=
  match scanWhole text with
  | none => none
  | some (whole, afterWhole) =>
    let (fraction, afterFraction) := scanFraction afterWhole
    let (exponent, rest) := scanExponent afterFraction
    if fraction.isEmpty && exponent.isNone then
      if Decimal.maxDigits < whole.length then some (.oversized whole.length, rest)
      else
        let size : Int := digitsValue whole
        some (.scalar (.int (if negative then -size else size)), rest)
    else
      let size := nearestDouble (whole ++ fraction) (exponent.getD 0 - fraction.length)
      some (.scalar (.float (if negative then -size else size)), rest)

/-- The first word of text that does not start with a blank, and the text after it. -/
def first? : List Char → Option (Token × List Char)
  | '[' :: rest => some (.openBracket, rest)
  | ']' :: rest => some (.closeBracket, rest)
  | '\x7b' :: rest => some (.openBrace, rest)
  | '\x7d' :: rest => some (.closeBrace, rest)
  | ',' :: rest => some (.comma, rest)
  | ':' :: rest => some (.colon, rest)
  | '"' :: rest => (scanString rest).map fun found => (.str found.1, found.2)
  | 't' :: 'r' :: 'u' :: 'e' :: rest => some (.scalar (.bool true), rest)
  | 'f' :: 'a' :: 'l' :: 's' :: 'e' :: rest => some (.scalar (.bool false), rest)
  | 'n' :: 'u' :: 'l' :: 'l' :: rest => some (.scalar .null, rest)
  | 'N' :: 'a' :: 'N' :: rest => some (.scalar (.float (0 / 0)), rest)
  | 'I' :: 'n' :: 'f' :: 'i' :: 'n' :: 'i' :: 't' :: 'y' :: rest =>
    some (.scalar (.float (1 / 0)), rest)
  | '-' :: 'I' :: 'n' :: 'f' :: 'i' :: 'n' :: 'i' :: 't' :: 'y' :: rest =>
    some (.scalar (.float (-1 / 0)), rest)
  | '-' :: rest => scanUnsigned true rest
  | text => scanUnsigned false text

theorem length_scanUnits {text : List Char} {units : List Nat} {rest : List Char}
    (h : scanUnits text = some (units, rest)) : rest.length < text.length := by
  fun_induction scanUnits text generalizing units rest with
  | case1 => simp at h
  | case2 tail =>
    simp only [Option.some.injEq, Prod.mk.injEq] at h
    simp [h.2]
  | case3 a b c d tail unit units' rest' hs _ ih =>
    simp only [Option.some.injEq, Prod.mk.injEq] at h
    have := ih hs
    simp [← h.2]
    omega
  | case4 => simp at h
  | case5 e tail _ c units' rest' hs _ ih =>
    simp only [Option.some.injEq, Prod.mk.injEq] at h
    have := ih hs
    simp [← h.2]
    omega
  | case6 => simp at h
  | case7 => simp at h
  | case8 c tail _ _ _ _ units' rest' hs ih =>
    simp only [Option.some.injEq, Prod.mk.injEq] at h
    have := ih hs
    simp [← h.2]
    omega
  | case9 => simp at h

theorem length_dropWhile_le (p : Char → Bool) (text : List Char) :
    (text.dropWhile p).length ≤ text.length :=
  (List.dropWhile_sublist p).length_le

theorem length_scanWhole {text digits rest : List Char} (h : scanWhole text = some (digits, rest)) :
    rest.length < text.length := by
  cases text with
  | nil => simp [scanWhole] at h
  | cons c tail =>
    simp only [scanWhole] at h
    have := length_dropWhile_le isDigit tail
    split at h
    · simp_all
    · split at h
      · simp only [Option.some.injEq, Prod.mk.injEq] at h
        simp [← h.2]
        omega
      · simp at h

theorem length_scanFraction (text : List Char) : (scanFraction text).2.length ≤ text.length := by
  unfold scanFraction
  split
  · rename_i c rest
    have := length_dropWhile_le isDigit rest
    split
    · simp
      omega
    · simp
  · simp

theorem length_scanSign (text : List Char) : (scanSign text).2.length ≤ text.length := by
  unfold scanSign
  split <;> simp

theorem length_scanExponent (text : List Char) : (scanExponent text).2.length ≤ text.length := by
  cases text with
  | nil => simp [scanExponent]
  | cons e rest =>
    have h1 := length_scanSign rest
    have h2 := length_dropWhile_le isDigit (scanSign rest).2
    simp only [scanExponent]
    split
    · split
      · simp
      · simp
        omega
    · simp

theorem length_scanUnsigned {negative : Bool} {text : List Char} {token : Token} {rest : List Char}
    (h : scanUnsigned negative text = some (token, rest)) : rest.length < text.length := by
  unfold scanUnsigned at h
  split at h
  · simp at h
  · rename_i whole afterWhole hw
    have h1 := length_scanWhole hw
    have h2 := length_scanFraction afterWhole
    have h3 := length_scanExponent (scanFraction afterWhole).2
    simp only at h
    split at h
    · split at h <;> simp only [Option.some.injEq, Prod.mk.injEq] at h <;> rw [← h.2] <;> omega
    · simp only [Option.some.injEq, Prod.mk.injEq] at h
      rw [← h.2]
      omega

theorem length_first? {text : List Char} {token : Token} {rest : List Char}
    (h : first? text = some (token, rest)) : rest.length < text.length := by
  unfold first? at h
  split at h
  case h_7 tail =>
    simp only [scanString, Option.map_eq_some_iff] at h
    obtain ⟨found, ⟨⟨units, left⟩, hi, rfl⟩, hf⟩ := h
    simp only [Prod.mk.injEq] at hf
    have := length_scanUnits hi
    simp [← hf.2]
    omega
  case h_14 tail _ =>
    have := length_scanUnsigned h
    simp
    omega
  case h_15 => exact length_scanUnsigned h
  all_goals
    simp only [Option.some.injEq, Prod.mk.injEq] at h
    simp [← h.2]
    try omega

/-- The words of a text in order. -/
def scan (text : List Char) : List Token :=
  match text with
  | [] => []
  | c :: rest =>
    if isBlank c then scan rest
    else
      match h : first? (c :: rest) with
      | none => [.junk]
      | some (token, tail) =>
        have : tail.length ≤ rest.length := Nat.le_of_lt_succ (length_first? h)
        token :: scan tail
termination_by text.length

end Token

end ToolSchema.Json
