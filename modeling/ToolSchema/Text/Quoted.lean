import ToolSchema.Text.Half
import ToolSchema.Text.PrintableTable

/-! Text in quotes, as messages show it. Single quotes are used unless the text holds one and no
double quote. The quote in use and the backslash are escaped, tabs and line ends have short escapes,
and a character without a visible form is shown by its code point, as is half a character. -/

namespace ToolSchema.Text

def isPrintable (c : Char) : Bool := !unprintables.contains c

/-- Lower case hexadecimal digits of a number, padded with zeros to a width. -/
def hexDigits (width n : Nat) : List Char :=
  let digits := Nat.toDigits 16 n
  List.replicate (width - digits.length) '0' ++ digits

def shownChar (quote c : Char) : List Char :=
  if c = quote ∨ c = '\\' then ['\\', c]
  else if c = '\t' then ['\\', 't']
  else if c = '\n' then ['\\', 'n']
  else if c = '\r' then ['\\', 'r']
  else if isPrintable c then [c]
  else if c.toNat < 0x100 then '\\' :: 'x' :: hexDigits 2 c.toNat
  else if c.toNat < 0x10000 then '\\' :: 'u' :: hexDigits 4 c.toNat
  else '\\' :: 'U' :: hexDigits 8 c.toNat

/-- The text between the quotes. -/
def shownChars (quote : Char) : List Char → List Char
  | [] => []
  | [c] => shownChar quote c
  | sign :: told :: rest =>
    match halfUnit? sign told with
    | some unit => '\\' :: 'u' :: hexDigits 4 unit ++ shownChars quote rest
    | none => shownChar quote sign ++ shownChars quote (told :: rest)

def quoteFor (text : List Char) : Char :=
  if text.contains '\'' && !text.contains '"' then '"' else '\''

def quotedChars (text : List Char) : List Char :=
  let quote := quoteFor text
  quote :: shownChars quote text ++ [quote]

def quoted (text : String) : String := String.ofList (quotedChars text.toList)

end ToolSchema.Text
