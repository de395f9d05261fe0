import ToolSchema.Json.Writer
import ToolSchema.Text.Quoted

/-! Values as messages show them: strings in quotes, constants with a capital letter, containers on
one line. A whole number is shown with all its digits; of a value that is read it has no more than the
limit. What is shown inside of each other makes the layers of a value. -/

namespace ToolSchema.Json

mutual

def shownChars : Json → List Char
  | .null => "None".toList
  | .bool true => "True".toList
  | .bool false => "False".toList
  | .int n => intChars n
  | .float x => floatCharsWith "nan".toList "inf".toList x
  | .str s => Text.quotedChars s.toList
  | .arr items => '[' :: separated [',', ' '] (shownItems items) ++ [']']
  | .obj members => '\x7b' :: separated [',', ' '] (shownMembers members) ++ ['\x7d']

def shownItems : List Json → List (List Char)
  | [] => []
  | v :: rest => shownChars v :: shownItems rest

def shownMembers : List (String × Json) → List (List Char)
  | [] => []
  | (k, v) :: rest => (Text.quotedChars k.toList ++ ':' :: ' ' :: shownChars v) :: shownMembers rest

end

def shown (v : Json) : String := String.ofList v.shownChars

mutual

/-- How many values are shown inside of each other where a value is deepest, itself among them. -/
def layers : Json → Nat
  | .arr items => itemLayers items + 1
  | .obj members => memberLayers members + 1
  | _ => 1

def itemLayers : List Json → Nat
  | [] => 0
  | v :: rest => max v.layers (itemLayers rest)

def memberLayers : List (String × Json) → Nat
  | [] => 0
  | (_, v) :: rest => max v.layers (memberLayers rest)

end

/-- A value as part of a sentence: a string stands without quotes. -/
def plainText : Json → String
  | .str s => s
  | v => v.shown

end ToolSchema.Json
