import ToolSchema.Text.Blank

/-! Splitting a text at some of its characters. The parts do not hold those characters, and there is
one part more than there are such characters, so joining the parts gives the text back. -/

namespace ToolSchema.Text

def splitWhere (p : Char → Bool) : List Char → List (List Char)
  | [] => [[]]
  | c :: rest =>
    if p c then [] :: splitWhere p rest
    else match splitWhere p rest with
      | [] => [[c]]
      | part :: more => (c :: part) :: more

def splitOn (separator : Char) (text : List Char) : List (List Char) :=
  splitWhere (· = separator) text

/-- The parts between blanks that are not empty. -/
def words (text : List Char) : List (List Char) :=
  (splitWhere isBlank text).filter fun part => part ≠ []

/-- What stands before and after the first separator, if there is one. -/
def cut? (separator : Char) (text : List Char) : Option (List Char × List Char) :=
  match text.dropWhile (· ≠ separator) with
  | [] => none
  | _ :: after => some (text.takeWhile (· ≠ separator), after)

theorem splitWhere_ne_nil (p : Char → Bool) (text : List Char) : splitWhere p text ≠ [] := by
  cases text with
  | nil => simp [splitWhere]
  | cons c rest =>
    simp only [splitWhere]
    split
    · simp
    · split <;> simp

theorem length_splitWhere (p : Char → Bool) (text : List Char) :
    (splitWhere p text).length = text.countP p + 1 := by
  induction text with
  | nil => rfl
  | cons c rest ih =>
    simp only [splitWhere]
    by_cases hc : p c = true
    · simp [hc, ih]
    · cases hs : splitWhere p rest with
      | nil => exact absurd hs (splitWhere_ne_nil p rest)
      | cons part more =>
        rw [hs] at ih
        simpa [hc] using ih

end ToolSchema.Text
