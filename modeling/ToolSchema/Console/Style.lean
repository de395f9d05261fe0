import ToolSchema.Decimal.Limit
import ToolSchema.Table
import ToolSchema.Text.Case
import ToolSchema.Text.DecimalDigit
import ToolSchema.Text.Split

/-! Names of styles. A style is described by words: attributes, which may be denied, a color, a
color after `on`, and a link. Several descriptions may mean one style; `canonicalStyle` gives them
one name. What describes no style is its own name in small letters. A description is read word by
word, and only a color by its parts can end the reading with an error: its three parts are numbers,
and each of them has to be one. -/

namespace ToolSchema.Console

def colorNames : List String :=
  ["default", "black", "red", "green", "yellow", "blue", "magenta", "cyan", "white",
    "bright_black", "bright_red", "bright_green", "bright_yellow", "bright_blue",
    "bright_magenta", "bright_cyan", "bright_white", "grey0", "gray0", "navy_blue", "dark_blue",
    "blue3", "blue1", "dark_green", "deep_sky_blue4", "dodger_blue3", "dodger_blue2", "green4",
    "spring_green4", "turquoise4", "deep_sky_blue3", "dodger_blue1", "green3", "spring_green3",
    "dark_cyan", "light_sea_green", "deep_sky_blue2", "deep_sky_blue1", "spring_green2",
    "cyan3", "dark_turquoise", "turquoise2", "green1", "spring_green1", "medium_spring_green",
    "cyan2", "cyan1", "dark_red", "deep_pink4", "purple4", "purple3", "blue_violet", "orange4",
    "grey37", "gray37", "medium_purple4", "slate_blue3", "royal_blue1", "chartreuse4",
    "dark_sea_green4", "pale_turquoise4", "steel_blue", "steel_blue3", "cornflower_blue",
    "chartreuse3", "cadet_blue", "sky_blue3", "steel_blue1", "pale_green3", "sea_green3",
    "aquamarine3", "medium_turquoise", "chartreuse2", "sea_green2", "sea_green1", "aquamarine1",
    "dark_slate_gray2", "dark_magenta", "dark_violet", "purple", "light_pink4", "plum4",
    "medium_purple3", "slate_blue1", "yellow4", "wheat4", "grey53", "gray53",
    "light_slate_grey", "light_slate_gray", "medium_purple", "light_slate_blue",
    "dark_olive_green3", "dark_sea_green", "light_sky_blue3", "sky_blue2", "dark_sea_green3",
    "dark_slate_gray3", "sky_blue1", "chartreuse1", "light_green", "pale_green1",
    "dark_slate_gray1", "red3", "medium_violet_red", "magenta3", "dark_orange3", "indian_red",
    "hot_pink3", "medium_orchid3", "medium_orchid", "medium_purple2", "dark_goldenrod",
    "light_salmon3", "rosy_brown", "grey63", "gray63", "medium_purple1", "gold3", "dark_khaki",
    "navajo_white3", "grey69", "gray69", "light_steel_blue3", "light_steel_blue", "yellow3",
    "dark_sea_green2", "light_cyan3", "light_sky_blue1", "green_yellow", "dark_olive_green2",
    "dark_sea_green1", "pale_turquoise1", "deep_pink3", "magenta2", "hot_pink2", "orchid",
    "medium_orchid1", "orange3", "light_pink3", "pink3", "plum3", "violet", "light_goldenrod3",
    "tan", "misty_rose3", "thistle3", "plum2", "khaki3", "light_goldenrod2", "light_yellow3",
    "grey84", "gray84", "light_steel_blue1", "yellow2", "dark_olive_green1", "honeydew2",
    "light_cyan1", "red1", "deep_pink2", "deep_pink1", "magenta1", "orange_red1", "indian_red1",
    "hot_pink", "dark_orange", "salmon1", "light_coral", "pale_violet_red1", "orchid2",
    "orchid1", "orange1", "sandy_brown", "light_salmon1", "light_pink1", "pink1", "plum1",
    "gold1", "navajo_white1", "misty_rose1", "thistle1", "yellow1", "light_goldenrod1",
    "khaki1", "wheat1", "cornsilk1", "grey100", "gray100", "grey3", "gray3", "grey7", "gray7",
    "grey11", "gray11", "grey15", "gray15", "grey19", "gray19", "grey23", "gray23", "grey27",
    "gray27", "grey30", "gray30", "grey35", "gray35", "grey39", "gray39", "grey42", "gray42",
    "grey46", "gray46", "grey50", "gray50", "grey54", "gray54", "grey58", "gray58", "grey62",
    "gray62", "grey66", "gray66", "grey70", "gray70", "grey74", "gray74", "grey78", "gray78",
    "grey82", "gray82", "grey85", "gray85", "grey89", "gray89", "grey93", "gray93"]

/-- Why a part of a color is no number. -/
inductive ColorError where
  | noDigits
  | tooManyDigits (count : Nat)
  deriving DecidableEq, Repr

def ColorError.message : ColorError → String
  | .noDigits => "invalid literal for int() with base 10: ''"
  | .tooManyDigits count => Decimal.overlongMessage count

def colorPart (digits : List Char) : Except ColorError Nat :=
  if digits = [] then .error .noDigits
  else if Decimal.maxDigits < digits.length then .error (.tooManyDigits digits.length)
  else .ok (Text.decimalNumber digits)

/-- A number of at most three digits that fits a byte. -/
def isByte (digits : List Char) : Bool :=
  digits ≠ [] && digits.length ≤ 3 && digits.all Char.isDigit && Text.decimalNumber digits ≤ 255

/-- What stands in parentheses after a word. -/
def argument? (word : String) (text : List Char) : Option (List Char) :=
  let opening := word.toList ++ ['(']
  if opening.isPrefixOf text && text.getLast? = some ')' then
    some ((text.drop opening.length).dropLast)
  else none

def isHexColor : List Char → Bool
  | '#' :: digits =>
    digits.length = 6 && digits.all fun c => c.isDigit || ('a' ≤ c && c ≤ 'f')
  | _ => false

/-- Whether three parts, written in digits and commas, each fit a byte. -/
def isColorByParts (text : List Char) : Except ColorError Bool :=
  match Text.splitOn ',' text with
  | [red, green, blue] =>
    if text.all fun c => c = ',' || Text.isDecimal c then
      return (← [red, green, blue].mapM colorPart).all (· ≤ 255)
    else return false
  | _ => return false

/-- Colors are known by name, by number, or by their parts; letters are small. -/
def isColor (text : List Char) : Except ColorError Bool :=
  if colorNames.contains (String.ofList text) || isHexColor text ||
      (argument? "color" text).any isByte then return true
  else match argument? "rgb" text with
    | some parts => isColorByParts parts
    | none => return false

def attributeNames : List String :=
  ["bold", "dim", "italic", "underline", "blink", "blink2", "reverse", "conceal", "strike",
    "underline2", "frame", "encircle", "overline"]

def attributeShortNames : List (String × String) :=
  [("b", "bold"), ("d", "dim"), ("i", "italic"), ("u", "underline"), ("r", "reverse"),
    ("c", "conceal"), ("s", "strike"), ("uu", "underline2"), ("o", "overline")]

def attribute? (word : String) : Option String :=
  if word ∈ attributeNames then some word else attributeShortNames.lookup word

structure Style where
  attributes : Table Bool := []
  color : Option String := none
  background : Option String := none
  link : Option String := none

/-- Why words describe no style. -/
inductive StyleError where
  | notAStyle
  | color (error : ColorError)
  deriving DecidableEq, Repr

namespace Style

/-- The name of a color that a word gives. -/
def colorOf (word : String) : Except StyleError String :=
  match isColor word.toList with
  | .error error => .error (.color error)
  | .ok true => .ok word
  | .ok false => .error .notAStyle

/-- A style with the words that follow its description so far. -/
def extend : Style → List String → Except StyleError Style
  | style, [] => .ok style
  | style, written :: rest =>
    let word := Text.lower written
    if word = "on" then
      match rest with
      | [] => .error .notAStyle
      | color :: more =>
        match colorOf (Text.lower color) with
        | .error error => .error error
        | .ok name => extend { style with background := some name } more
    else if word = "not" then
      match rest with
      | [] => .error .notAStyle
      | denied :: more =>
        match attribute? denied with
        | none => .error .notAStyle
        | some name => extend { style with attributes := style.attributes.put name false } more
    else if word = "link" then
      match rest with
      | [] => .error .notAStyle
      | target :: more => extend { style with link := some target } more
    else
      match attribute? word with
      | some name => extend { style with attributes := style.attributes.put name true } rest
      | none =>
        match colorOf word with
        | .error error => .error error
        | .ok name => extend { style with color := some name } rest

/-- The words of a style in their fixed order. -/
def description (style : Style) : List String :=
  (attributeNames.filterMap fun name => (style.attributes.find? name).map fun given =>
    if given then name else "not " ++ name) ++
  style.color.toList ++ (style.background.map ("on " ++ ·)).toList ++
  (style.link.map ("link " ++ ·)).toList

def name (style : Style) : String :=
  if style.description = [] then "none" else " ".intercalate style.description

def ofDescription (description : List Char) : Except StyleError Style :=
  if Text.trim description = "none".toList then .ok {}
  else extend {} ((Text.words description).map String.ofList)

end Style

/-- The one name of a style, whichever way it is described. -/
def canonicalStyle (description : List Char) : Except ColorError String :=
  match Style.ofDescription description with
  | .ok style => .ok style.name
  | .error .notAStyle => .ok (Text.lower (String.ofList (Text.trim description)))
  | .error (.color error) => .error error

end ToolSchema.Console
