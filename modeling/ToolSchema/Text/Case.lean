import ToolSchema.Text.CaseTable

/-! Full case mappings of text. A capital sigma at the end of a word becomes the final small sigma:
it has to follow a letter with case and must not stand before one, where characters that carry no
weight are passed over on both sides. -/

namespace ToolSchema.Text

def CaseRun.contains (run : CaseRun) (n : Nat) : Bool :=
  run.first ≤ n && n ≤ run.last && (n - run.first) % run.stride = 0

/-- The partner of a character by the tables, or the character itself. -/
def mappedBy (runs : List CaseRun) (expansions : List (Nat × List Nat)) (c : Char) : List Char :=
  match expansions.lookup c.toNat with
  | some codes => codes.map Char.ofNat
  | none =>
    match runs.find? fun run => run.contains c.toNat with
    | some run => [Char.ofNat (Int.ofNat c.toNat + run.shift).toNat]
    | none => [c]

def upperChars (c : Char) : List Char := mappedBy upperRuns upperExpansions c

def lowerChars (c : Char) : List Char := mappedBy lowerRuns lowerExpansions c

/-- Whether the nearest character that is not passed over carries case. -/
def nextIsCased (text : List Char) : Bool :=
  (text.dropWhile caseIgnorables.contains).head?.any casedLetters.contains

/-- Lower case of a text, given the characters before it, nearest first. -/
def lowerAfter : List Char → List Char → List Char
  | _, [] => []
  | before, c :: rest =>
    let mapped :=
      if c = 'Σ' then (if nextIsCased before && !nextIsCased rest then ['ς'] else ['σ'])
      else lowerChars c
    mapped ++ lowerAfter (c :: before) rest

def upper (text : String) : String := String.ofList (text.toList.flatMap upperChars)

def lower (text : String) : String := String.ofList (lowerAfter [] text.toList)

end ToolSchema.Text
