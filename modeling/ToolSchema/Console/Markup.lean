import ToolSchema.Text.Blank

/-! Console markup. A tag is a word in square brackets that begins with a small letter or with one
of three signs. Backslashes before a tag take away its meaning, two of them stand for one. `scan`
finds the tags of a text and loses nothing of it; `escape` writes a text so that none of it is a
tag. -/

namespace ToolSchema.Console

/-! ### Tags in a text -/

inductive Markup where
  | run (text : List Char)
  /-- What stands between the brackets of a tag, after some backslashes. -/
  | tag (backslashes : Nat) (content : List Char)
  deriving DecidableEq, Repr

def startsTag (c : Char) : Bool := ('a' ≤ c && c ≤ 'z') || c = '#' || c = '/' || c = '@'

/-- What stands before a closing bracket, if no bracket opens before it, and what follows it. -/
def upToBracket : List Char → Option (List Char × List Char)
  | [] => none
  | c :: rest =>
    if c = ']' then some ([], rest)
    else if c = '[' then none
    else (upToBracket rest).map fun found => (c :: found.1, found.2)

/-- The tag at the start of a text without backslashes. -/
def bareTag : List Char → Option (List Char × List Char)
  | '[' :: c :: rest =>
    if startsTag c then (upToBracket rest).map fun found => (c :: found.1, found.2) else none
  | _ => none

/-- The tag at the start of a text with the backslashes before it, and what follows it. -/
def tagAt (text : List Char) : Option (Markup × List Char) :=
  (bareTag (text.dropWhile (· = '\\'))).map fun found =>
    (.tag (text.takeWhile (· = '\\')).length found.1, found.2)

theorem length_upToBracket {text inside rest : List Char}
    (h : upToBracket text = some (inside, rest)) : rest.length < text.length := by
  induction text generalizing inside with
  | nil => simp [upToBracket] at h
  | cons c tail ih =>
    simp only [upToBracket] at h
    split at h
    · simp only [Option.some.injEq, Prod.mk.injEq] at h
      simp [h.2]
    · split at h
      · simp at h
      · simp only [Option.map_eq_some_iff] at h
        obtain ⟨⟨before, after⟩, hf, he⟩ := h
        simp only [Prod.mk.injEq] at he
        have := ih (he.2 ▸ hf)
        simp
        omega

theorem length_bareTag {text content rest : List Char} (h : bareTag text = some (content, rest)) :
    rest.length < text.length := by
  unfold bareTag at h
  split at h
  · rename_i c tail
    split at h
    · simp only [Option.map_eq_some_iff] at h
      obtain ⟨⟨before, after⟩, hf, he⟩ := h
      simp only [Prod.mk.injEq] at he
      have := length_upToBracket (he.2 ▸ hf)
      simp
      omega
    · simp at h
  · simp at h

theorem length_tagAt {text rest : List Char} {tag : Markup} (h : tagAt text = some (tag, rest)) :
    rest.length < text.length := by
  simp only [tagAt, Option.map_eq_some_iff] at h
  obtain ⟨⟨content, after⟩, hf, he⟩ := h
  simp only [Prod.mk.injEq] at he
  have h1 := length_bareTag (he.2 ▸ hf)
  have h2 := Text.length_dropWhile_le (· = '\\') text
  omega

/-- A character in front of some markup. -/
def prepend (c : Char) : List Markup → List Markup
  | .run text :: rest => .run (c :: text) :: rest
  | rest => .run [c] :: rest

/-- The tags of a text and the runs between them. -/
def Markup.scan (text : List Char) : List Markup :=
  match text with
  | [] => []
  | c :: rest =>
    match h : tagAt (c :: rest) with
    | some (first, after) =>
      have : after.length ≤ rest.length := Nat.le_of_lt_succ (length_tagAt h)
      first :: Markup.scan after
    | none => prepend c (Markup.scan rest)
termination_by text.length

/-- The text of some markup as it was written. -/
def Markup.written : Markup → List Char
  | .run text => text
  | .tag backslashes content => List.replicate backslashes '\\' ++ '[' :: content ++ [']']

/-! ### Escaping -/

/-- Markup with every tag made meaningless. -/
def Markup.escaped : Markup → List Char
  | .run text => text
  | .tag backslashes content => Markup.written (.tag (2 * backslashes + 1) content)

/-- A text as it has to be written to be shown as it is. A single backslash at the end is doubled,
since a tag may follow. -/
def escape (text : String) : String :=
  let body := (Markup.scan text.toList).flatMap Markup.escaped
  match body.reverse with
  | '\\' :: '\\' :: _ => String.ofList body
  | '\\' :: _ => String.ofList (body ++ ['\\'])
  | _ => String.ofList body

end ToolSchema.Console
