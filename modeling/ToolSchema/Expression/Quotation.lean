import ToolSchema.Expression.Number
import ToolSchema.Text.CharacterNameTable

/-! Texts in quotes. Letters before the opening quote make a text of bytes, make it raw or make it a
template. Escapes are checked in a form of the text that holds ASCII alone: another character is
there written as an escape of ten characters, and so the positions that messages name count it
tenfold. -/

namespace ToolSchema.Expression

structure Quotation where
  isBytes : Bool
  isRaw : Bool
  isTemplate : Bool
  body : List Char
  deriving DecidableEq, Repr

namespace Quotation

/-- The letters that may stand before an opening quote. -/
def marks : List String := ["", "b", "r", "u", "f", "br", "rb", "fr", "rf"]

/-- The quotation after the letters of a mark, with a body. -/
def ofMark (mark : List Char) (body : List Char) : Quotation :=
  ⟨mark.contains 'b', mark.contains 'r', mark.contains 'f', body⟩

/-- A body up to the quote that ends it, and what follows. Without such a quote on the line what is
read of the body is left. -/
def upToQuote (quote : Char) : List Char → List Char × Option (List Char)
  | '\\' :: c :: rest =>
    let (body, after) := upToQuote quote rest
    ('\\' :: c :: body, after)
  | c :: rest =>
    if c = quote then ([], some rest)
    else if c = '\n' then ([], none)
    else
      let (body, after) := upToQuote quote rest
      (c :: body, after)
  | [] => ([], none)

/-- A body up to three quotes in a row, over any number of lines. -/
def upToQuotes (quote : Char) : List Char → List Char × Option (List Char)
  | '\\' :: c :: rest =>
    let (body, after) := upToQuotes quote rest
    ('\\' :: c :: body, after)
  | c :: rest =>
    if (c :: rest).take 3 = [quote, quote, quote] then ([], some (rest.drop 2))
    else
      let (body, after) := upToQuotes quote rest
      (c :: body, after)
  | [] => ([], none)

/-! ### Escapes -/

def longEscape (c : Char) : List Char := '\\' :: 'U' :: Text.hexDigits 8 c.toNat

/-- A text in ASCII alone. -/
def spelled : List Char → List Char
  | '\\' :: c :: rest =>
    if c.toNat < 128 then '\\' :: c :: spelled rest
    else '\\' :: 'u' :: '0' :: '0' :: '5' :: 'c' :: (longEscape c ++ spelled rest)
  | ['\\'] => ['\\', 'u', '0', '0', '5', 'c']
  | c :: rest => if c.toNat < 128 then c :: spelled rest else longEscape c ++ spelled rest
  | [] => []

/-- How many digits follow the letter of an escape by number, and its pattern. -/
def numbered? : Char → Option (Nat × String)
  | 'x' => some (2, "\\xXX")
  | 'u' => some (4, "\\uXXXX")
  | 'U' => some (8, "\\UXXXXXXXX")
  | _ => none

/-- What is wrong with an escape by number, and how many of its digits are read. -/
def numberFault? (count : Nat) (pattern : String) (rest : List Char) :
    Option (Nat × EscapeProblem) :=
  let digits := (rest.take count).takeWhile Number.isHexDigit
  if digits.length < count then some (digits.length, .truncated pattern)
  else if 0x110000 ≤ Number.ofDigits 16 digits then some (count, .noCharacter)
  else none

/-- What is wrong with an escape by name, and how many characters after its letter are read. -/
def nameFault? : List Char → Option (Nat × EscapeProblem)
  | '\x7b' :: rest =>
    let name := rest.takeWhile (· ≠ '\x7d')
    if name.length = rest.length then some (name.length + 1, .malformedName)
    else if name = [] then some (1, .malformedName)
    else if Text.namesCharacter name then none
    else some (name.length + 2, .unknownName)
  | _ => some (0, .malformedName)

/-- The first fault in the escapes of a text that is spelled in ASCII, from a position on. -/
def escapeFault? (position : Nat) : List Char → Option SyntaxError
  | '\\' :: c :: rest =>
    let found := match numbered? c with
      | some (count, pattern) => numberFault? count pattern rest
      | none => if c = 'N' then nameFault? rest else none
    match found with
    | some (read, problem) => some (.escape position (position + 1 + read) problem)
    | none => escapeFault? (position + 2) rest
  | _ :: rest => escapeFault? (position + 1) rest
  | [] => none

/-- The first fault in the escapes of a text of bytes, from a position on. -/
def byteFault? (position : Nat) : List Char → Option SyntaxError
  | '\\' :: c :: rest =>
    let digits := (rest.take 2).takeWhile Number.isHexDigit
    if c = 'x' && digits.length < 2 then some (.byteEscape position)
    else byteFault? (position + 2) rest
  | _ :: rest => byteFault? (position + 1) rest
  | [] => none

/-- What is wrong with the body of a quotation that is no template. -/
def bodyFault? (quotation : Quotation) : Option SyntaxError :=
  if quotation.isBytes then
    if quotation.body.any fun c => 128 ≤ c.toNat then some .byteCharacter
    else if quotation.isRaw then none
    else byteFault? 0 quotation.body
  else if quotation.isRaw then none
  else escapeFault? 0 (spelled quotation.body)

end Quotation

end ToolSchema.Expression
