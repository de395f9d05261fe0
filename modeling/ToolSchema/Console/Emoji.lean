import ToolSchema.Console.EmojiTable
import ToolSchema.Text.Case
import ToolSchema.Text.Split

/-! Emoji codes. A name between two colons without a blank stands for an emoji; an ending of the
name asks for the emoji or the text variant. A code that names nothing stays as it is, and its
second colon opens no further code. -/

namespace ToolSchema.Console

/-- The emoji after its name in a list of names and emoji. -/
def symbolIn? (name : List Char) : List (List Char) → Option (List Char)
  | known :: symbol :: rest => if known = name then some symbol else symbolIn? name rest
  | _ => none

def symbol? (name : List Char) : Option (List Char) :=
  emojiLines.findSome? fun line => symbolIn? name (Text.words line.toList)

/-- The name without the ending that asks for a variant, and the mark of the variant. -/
def variant (code : List Char) : List Char × List Char :=
  let ending? (ending : String) : Option (List Char) :=
    if ending.toList.isSuffixOf code then some (code.take (code.length - ending.length)) else none
  match ending? "-emoji", ending? "-text" with
  | some name, _ => (name, ['\uFE0F'])
  | _, some name => (name, ['\uFE0E'])
  | none, none => (code, [])

/-- What a code between colons is replaced by. -/
def symbolOfCode (code : List Char) : List Char :=
  let (name, mark) := variant code
  match symbol? (Text.lower (String.ofList name)).toList with
  | some symbol => symbol ++ mark
  | none => ':' :: code ++ [':']

/-- A text given by its parts between colons, where a colon stands before the first of them. -/
def replaceParts : List (List Char) → List Char
  | [] => []
  | [last] => ':' :: last
  | code :: next :: rest =>
    if code.any Text.isBlank then ':' :: code ++ replaceParts (next :: rest)
    else symbolOfCode code ++ next ++ replaceParts rest

def replaceEmoji (text : List Char) : List Char :=
  match Text.splitOn ':' text with
  | [] => []
  | first :: rest => first ++ replaceParts rest

end ToolSchema.Console
