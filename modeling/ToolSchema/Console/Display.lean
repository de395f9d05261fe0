import ToolSchema.Console.Emoji
import ToolSchema.Console.Handler
import ToolSchema.Console.Layout
import ToolSchema.Console.Markup
import ToolSchema.Console.Style
import ToolSchema.Text.Half

/-! What the console shows for markup. A tag opens a style, or closes one when it begins with a
slash; without a name it closes the innermost. Styles leave no trace in the text that is shown, but
they have to be closed rightly, and a style has to be one that can be read if something of its
stretch of the text is laid out; an empty stretch is lost where lines, tabs or the width of the
console divide the text. Text with half a character in it can be laid out, but not encoded, and so
nothing is shown of it. -/

namespace ToolSchema.Console

/-- Why markup cannot be shown. -/
inductive MarkupError where
  | unmatchedClose (content : List Char) (position : Nat)
  | nothingToClose (position : Nat)
  | color (error : ColorError)
  | handler (error : HandlerError)
  /-- The text holds half a character. -/
  | unencodable
  deriving DecidableEq, Repr

/-- What an error says, if it says anything. -/
def MarkupError.message? : MarkupError → Option String
  | .unmatchedClose content position =>
    some s!"closing tag '[{String.ofList content}]' at position {position} doesn't match any open tag"
  | .nothingToClose position =>
    some s!"closing tag '[/]' at position {position} has nothing to close"
  | .color error => some error.message
  | .handler error => some error.message
  | .unencodable => none

/-! ### Runs of text -/

/-- Opening brackets without the backslash before them. -/
def unescapeBrackets : List Char → List Char
  | '\\' :: '[' :: rest => '[' :: unescapeBrackets rest
  | c :: rest => c :: unescapeBrackets rest
  | [] => []

/-- Characters that the console never shows. -/
def isDropped (c : Char) : Bool := c.toNat = 7 || c.toNat = 8 || (11 ≤ c.toNat && c.toNat ≤ 13)

def shownRun (text : List Char) : List Char :=
  (replaceEmoji (unescapeBrackets text)).filter fun c => !isDropped c

/-! ### Styles -/

/-- A style that is open: where its stretch begins, its name, and what was written after an equals
sign. -/
structure OpenTag where
  start : Nat
  name : String
  parameters : Option (List Char)
  deriving DecidableEq, Repr

def OpenTag.description (tag : OpenTag) : List Char :=
  tag.name.toList ++ (tag.parameters.map (' ' :: ·)).getD []

/-- Whether a tag names an event and not a style. -/
def OpenTag.isHandler (tag : OpenTag) : Bool := tag.name.toList.head? = some '@'

/-- A stretch of the text and the description of its style. -/
structure Span where
  start : Nat
  stop : Nat
  description : List Char
  deriving DecidableEq, Repr

/-- Whether something of a stretch is left in the lines of a text. An empty stretch is left if the
text is one line that nothing divides and it stands before the end of what is left of the line. -/
def Span.isLaidOut (text : List Char) (lines : List (List Laid)) (span : Span) : Bool :=
  if span.start < span.stop then
    lines.any fun line => line.any fun laid => span.start ≤ laid.2 && laid.2 < span.stop
  else
    !text.contains '\n' && !text.contains '\t' &&
      match lines with
      | [line] => line.length = text.length || span.start < line.length
      | _ => false

/-- What has been shown: the text, the open styles from the innermost, and the stretches of styles
from the one closed last. -/
structure Display where
  text : List Char := []
  opened : List OpenTag := []
  spans : List Span := []
  deriving DecidableEq, Repr

namespace Display

def write (display : Display) (text : List Char) : Display :=
  { display with text := display.text ++ text }

def spanOf (display : Display) (tag : OpenTag) : Span :=
  ⟨tag.start, display.text.length, tag.description⟩

/-- The display after an open style is closed. A handler is not a style, but has to be one. -/
def close (display : Display) (tag : OpenTag) : Except MarkupError Display := do
  let remaining := { display with opened := display.opened.erase tag }
  if tag.isHandler then
    (checkHandler (tag.parameters.getD [])).mapError .handler
    return remaining
  else return { remaining with spans := display.spanOf tag :: display.spans }

/-- The display after a tag at a position of the markup. -/
def follow (display : Display) (position : Nat) (content : List Char) :
    Except MarkupError Display := do
  let parameters := (Text.cut? '=' content).map Prod.snd
  match content.takeWhile (· ≠ '=') with
  | '/' :: closed =>
    if Text.trim closed = [] then
      match display.opened with
      | [] => throw (.nothingToClose position)
      | tag :: _ => display.close tag
    else
      let style ← (canonicalStyle (Text.trim closed)).mapError .color
      match display.opened.find? fun tag => tag.name = style with
      | some tag => display.close tag
      | none => throw (.unmatchedClose content position)
  | opened =>
    let style ← (canonicalStyle opened).mapError .color
    return { display with
      opened := ⟨display.text.length, style, parameters⟩ :: display.opened }

/-- The display after markup that begins at a position. -/
def extend (position : Nat) (display : Display) : List Markup → Except MarkupError Display
  | [] => .ok display
  | .run text :: rest => extend (position + text.length) (display.write (shownRun text)) rest
  | .tag backslashes content :: rest =>
    let next := position + backslashes + content.length + 2
    let written := display.write (List.replicate (backslashes / 2) '\\')
    if backslashes % 2 = 1 then
      extend next (written.write (shownRun ('[' :: content ++ [']']))) rest
    else
      match written.follow (position + backslashes) content with
      | .error e => .error e
      | .ok inner => extend next inner rest

/-- The stretches of all styles, where one that is left open goes to the end, in the order in which
they begin; of those that begin together the one closed last comes first. -/
def allSpans (display : Display) : List Span :=
  let all := display.opened.foldl (fun spans tag => display.spanOf tag :: spans) display.spans
  all.mergeSort fun a b => a.start ≤ b.start

/-- The first color that cannot be read in a stretch that is left in the lines of the text. -/
def colorError? (display : Display) (lines : List (List Laid)) : Option ColorError :=
  (display.allSpans.filter (Span.isLaidOut display.text lines)).findSome? fun span =>
    match Style.ofDescription span.description with
    | .error (.color error) => some error
    | _ => none

end Display

/-- The text that a console of some width shows for markup, ended by a line feed. -/
def plain (width : Nat) (markup : String) : Except MarkupError String := do
  let display ← Display.extend 0 {} (Markup.scan markup.toList)
  let lines := layOut width display.text
  match display.colorError? lines with
  | some error => throw (.color error)
  | none =>
    if Text.holdsHalf display.text then throw .unencodable
    else return String.ofList (Laid.text lines ++ ['\n'])

end ToolSchema.Console
