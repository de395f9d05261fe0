import ToolSchema.Json.Basic
import ToolSchema.Decimal.Shortest

/-! Writing JSON text. A layout says whether items stand on lines of their own, indented by a unit
per level, and what separates them; the text of a value is otherwise the same in every layout. In
strings only quotes, backslashes and the characters below space are escaped, so text stays as it is
in every script. -/

namespace ToolSchema.Json

structure Layout where
  /-- The indentation of one level, for a layout that gives each item a line of its own. -/
  unit : Option (List Char)
  comma : List Char
  colon : List Char

namespace Layout

/-- All on one line without a blank. -/
def compact : Layout := ⟨none, [','], [':']⟩

/-- All on one line, with a blank after every comma and colon. -/
def spaced : Layout := ⟨none, [',', ' '], [':', ' ']⟩

/-- Every item on a line of its own. -/
def indented (unit : List Char) : Layout := ⟨some unit, [','], [':', ' ']⟩

/-- The break before an item at a depth. -/
def lineBreak (layout : Layout) (depth : Nat) : List Char :=
  match layout.unit with
  | none => []
  | some unit => '\n' :: (List.replicate depth unit).flatten

end Layout

def hexDigit (n : Nat) : Char :=
  if n < 10 then Char.ofNat ('0'.toNat + n) else Char.ofNat ('a'.toNat + (n - 10))

/-- One character of a string as it is written between the quotes. -/
def escaped (c : Char) : List Char :=
  if c = '"' then ['\\', '"']
  else if c = '\\' then ['\\', '\\']
  else if c = '\n' then ['\\', 'n']
  else if c = '\r' then ['\\', 'r']
  else if c = '\t' then ['\\', 't']
  else if c = '\x0c' then ['\\', 'f']
  else if c = '\x08' then ['\\', 'b']
  else if c.toNat < 0x20 then
    ['\\', 'u', '0', '0', hexDigit (c.toNat / 16), hexDigit (c.toNat % 16)]
  else [c]

def stringChars (s : String) : List Char :=
  '"' :: s.toList.flatMap escaped ++ ['"']

def intChars (n : Int) : List Char :=
  if n < 0 then '-' :: Decimal.digitChars n.natAbs else Decimal.digitChars n.natAbs

/-- The text of a fractional number, given how the three that are not decimals are called. -/
def floatCharsWith (nan infinity : List Char) (x : Float) : List Char :=
  let signed (negative : Bool) (text : List Char) := if negative then '-' :: text else text
  match Decimal.Reading.ofBits x.toBits with
  | .nan => nan
  | .infinite negative => signed negative infinity
  | .zero negative => signed negative ['0', '.', '0']
  | .finite negative size => signed negative (Decimal.plain.render (Decimal.shortest size))

def floatChars (x : Float) : List Char :=
  floatCharsWith "NaN".toList "Infinity".toList x

/-- Texts one after the other with a separator between them. -/
def separated (separator : List Char) : List (List Char) → List Char
  | [] => []
  | [text] => text
  | text :: rest => text ++ separator ++ separated separator rest

mutual

/-- The text of a value that stands at a depth. -/
def chars (layout : Layout) (depth : Nat) : Json → List Char
  | .null => "null".toList
  | .bool true => "true".toList
  | .bool false => "false".toList
  | .int n => intChars n
  | .float x => floatChars x
  | .str s => stringChars s
  | .arr [] => ['[', ']']
  | .arr items =>
    let lineBreak := layout.lineBreak (depth + 1)
    '[' :: lineBreak ++
      separated (layout.comma ++ lineBreak) (itemChars layout (depth + 1) items) ++
      layout.lineBreak depth ++ [']']
  | .obj [] => ['\x7b', '\x7d']
  | .obj members =>
    let lineBreak := layout.lineBreak (depth + 1)
    '\x7b' :: lineBreak ++
      separated (layout.comma ++ lineBreak) (memberChars layout (depth + 1) members) ++
      layout.lineBreak depth ++ ['\x7d']

def itemChars (layout : Layout) (depth : Nat) : List Json → List (List Char)
  | [] => []
  | v :: rest => chars layout depth v :: itemChars layout depth rest

def memberChars (layout : Layout) (depth : Nat) : List (String × Json) → List (List Char)
  | [] => []
  | (k, v) :: rest =>
    (stringChars k ++ layout.colon ++ chars layout depth v) :: memberChars layout depth rest

end

def write (layout : Layout) (v : Json) : String := String.ofList (chars layout 0 v)

/-- The text of a value on one line, without blanks and in the order of its members. -/
def compactText (v : Json) : String := v.write .compact

end ToolSchema.Json
