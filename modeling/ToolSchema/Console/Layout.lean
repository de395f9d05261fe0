import ToolSchema.Console.CellWidth
import ToolSchema.Text.Blank
import ToolSchema.Text.Split

/-! How the console lays text out. A line is filled up at its tabs and broken into lines of the
console's width: before a word that has no room any more, and inside a word that is wider than the
console. Blanks at the end of a line may stand beyond the width and are cropped there. Every
character on the console is told with the place in the text that it comes from. -/

namespace ToolSchema.Console

/-- A character on the console, and the place of the character that it comes from. -/
abbrev Laid := Char × Nat

namespace Laid

variable (width : Nat)

def chars (line : List Laid) : List Char := line.map Prod.fst

def isBlank (laid : Laid) : Bool := Text.isBlank laid.1

def columns (line : List Laid) : Nat := Console.columns (chars line)

/-! ### Tabs -/

/-- The columns between tab stops. -/
def tabStop : Nat := 8

/-- A line filled up at its tabs, where `part` is what stands since the last of them, which ended at a
column. A tab is a blank and as many more as lead to the next stop. -/
def fillTabs (column : Nat) (part : List Laid) : List Laid → List Laid
  | [] => part
  | laid :: rest =>
    if laid.1 = '\t' then
      let filled := part ++ [(' ', laid.2)]
      let reached := column + columns filled
      let gap := (tabStop - reached % tabStop) % tabStop
      filled ++ List.replicate gap (' ', laid.2) ++ fillTabs (reached + gap) [] rest
    else fillTabs column (part ++ [laid]) rest

/-! ### Words -/

def trimEnd (word : List Laid) : List Laid := (word.reverse.dropWhile isBlank).reverse

/-- What a line has after its first word: the blanks around a word belong to it. -/
def afterWord (line : List Laid) : List Laid :=
  ((line.dropWhile isBlank).dropWhile fun laid => !laid.isBlank).dropWhile isBlank

/-- The words of a line with the blanks around them; a line of blanks has none. -/
def words (line : List Laid) : List (List Laid) :=
  match h : line.dropWhile isBlank with
  | [] => []
  | first :: rest =>
    have : (afterWord line).length < line.length := by
      have hle : (line.dropWhile isBlank).length ≤ line.length :=
        (List.dropWhile_sublist _).length_le
      have hb : first.isBlank = false := by
        have hhead := List.head?_dropWhile_not isBlank line
        rw [h] at hhead
        simpa using hhead
      have hafter : (afterWord line).length ≤ rest.length := by
        rw [afterWord, h, List.dropWhile_cons_of_pos (by simp [hb])]
        exact Nat.le_trans (List.dropWhile_sublist _).length_le (List.dropWhile_sublist _).length_le
      rw [h, List.length_cons] at hle
      omega
    line.take (line.length - (afterWord line).length) :: words (afterWord line)
termination_by line.length

/-- A word cut into pieces that each take at most the width, unless one character takes more. The
first piece goes on with `piece`, which takes so many columns. -/
def chop (used : Nat) (piece : List Laid) : List Laid → List (List Laid)
  | [] => [piece]
  | laid :: rest =>
    let size := cellWidth laid.1
    if width < used + size then piece :: chop size [laid] rest
    else chop (used + size) (piece ++ [laid]) rest

/-! ### Lines -/

/-- The lines that some words fill. The words go on with `line`, which takes so many columns and is
empty in front of the first word alone. -/
def fillLines (used : Nat) (line : List Laid) : List (List Laid) → List (List Laid)
  | [] => [line]
  | word :: rest =>
    if used + columns (trimEnd word) ≤ width then
      fillLines (used + columns word) (line ++ word) rest
    else if columns (trimEnd word) ≤ width then
      line :: fillLines (columns word) word rest
    else
      let pieces := chop width 0 [] word
      let filled := if line = [] then pieces.dropWhile List.isEmpty else line :: pieces
      let last := filled.getLast?.getD []
      filled.dropLast ++ fillLines (columns last) last rest

/-- A line broken into lines. -/
def divide (line : List Laid) : List (List Laid) :=
  match words line with
  | [] => [line]
  | first :: rest => fillLines width 0 [] (first :: rest)

/-- A line without the blanks at its end that stand beyond the width. -/
def cropBlanks (line : List Laid) : List Laid :=
  let blanks := (line.reverse.takeWhile isBlank).length
  line.take (line.length - min blanks (line.length - width))

/-- The characters of a line that have room, where so many columns are taken; half a wide character
is a blank. -/
def cropColumns (used : Nat) : List Laid → List Laid
  | [] => []
  | laid :: rest =>
    if used + cellWidth laid.1 ≤ width then laid :: cropColumns (used + cellWidth laid.1) rest
    else if used < width then [(' ', laid.2)]
    else []

def crop (line : List Laid) : List Laid :=
  let cropped := cropBlanks width line
  if columns cropped ≤ width then cropped else cropColumns width 0 cropped

/-- The lines of a text that stands from a place on. -/
def linesFrom (place : Nat) : List (List Char) → List (List Laid)
  | [] => []
  | line :: rest => line.zipIdx place :: linesFrom (place + line.length + 1) rest

end Laid

/-- The lines in which a console of some width shows a text. -/
def layOut (width : Nat) (text : List Char) : List (List Laid) :=
  (Laid.linesFrom 0 (Text.splitOn '\n' text)).flatMap fun line =>
    (Laid.divide width (Laid.fillTabs 0 [] line)).map (Laid.crop width)

/-- The text of some lines. -/
def Laid.text (lines : List (List Laid)) : List Char :=
  ['\n'].intercalate (lines.map Laid.chars)

end ToolSchema.Console
