import ToolSchema.Text.Blank

/-! One level of a type expression. A type expression is a name, an array `[T]` or a map `[K: V]`,
each possibly followed by a question mark that makes it optional, with blanks allowed around every
part. `shape` looks at the outermost level alone and hands its parts down as they are written; it
refuses brackets that are empty or out of balance, and colons that do not make one map. -/

namespace ToolSchema.TypeExpr

/-- Why the brackets of a level do not make an array or a map. -/
inductive Malformation where
  | emptyBrackets
  | unbalanced
  | missingPart
  | tooManySeparators
  deriving DecidableEq, Repr

def Malformation.message : Malformation → String
  | .emptyBrackets => "Invalid empty array syntax '[]'"
  | .unbalanced => "Unbalanced brackets"
  | .missingPart => "Dictionary requires both a key and a value type"
  | .tooManySeparators => "Expected at most one top-level ':' separator"

inductive Form where
  | named (name : List Char)
  | array (element : List Char)
  | map (key value : List Char)
  deriving DecidableEq, Repr

structure Shape where
  form : Form
  optional : Bool
  deriving DecidableEq, Repr

/-- The trimmed text without the question mark at its end, and whether there was one. Only one is
taken. -/
def stripOptional (text : List Char) : List Char × Bool :=
  match (Text.trim text).reverse with
  | '?' :: before => (Text.trim before.reverse, true)
  | _ => (Text.trim text, false)

/-- What stands between an opening bracket at the start and a closing bracket at the end. -/
def inBrackets? : List Char → Option (List Char)
  | '[' :: rest =>
    match rest.reverse with
    | ']' :: inner => some inner.reverse
    | _ => none
  | _ => none

/-- A character in front of the first of some parts. -/
def extendFirst (c : Char) : List (List Char) → List (List Char)
  | [] => [[c]]
  | part :: more => (c :: part) :: more

/-- The parts of a text between the colons that stand outside all brackets, where `depth` brackets
are open before it; none if the brackets of the whole do not balance. -/
def partsAt : Nat → List Char → Option (List (List Char))
  | 0, [] => some [[]]
  | _ + 1, [] => none
  | depth, c :: rest =>
    if c = '[' then (partsAt (depth + 1) rest).map (extendFirst c)
    else if c = ']' then
      match depth with
      | 0 => none
      | outer + 1 => (partsAt outer rest).map (extendFirst c)
    else if c = ':' ∧ depth = 0 then (partsAt 0 rest).map ([] :: ·)
    else (partsAt depth rest).map (extendFirst c)

/-- The form of what stands in brackets. -/
def bracketed (inner : List Char) : Except Malformation Form :=
  match Text.trim inner with
  | [] => .error .emptyBrackets
  | content =>
    match partsAt 0 content with
    | none => .error .unbalanced
    | some [key, value] =>
      if Text.trim key = [] ∨ Text.trim value = [] then .error .missingPart
      else .ok (.map (Text.trim key) (Text.trim value))
    | some (_ :: _ :: _ :: _) => .error .tooManySeparators
    | some _ => .ok (.array content)

/-- The outermost level of a type expression. -/
def shape (text : List Char) : Except Malformation Shape :=
  let (body, optional) := stripOptional text
  match inBrackets? body with
  | none => .ok ⟨.named body, optional⟩
  | some inner => (bracketed inner).map fun form => ⟨form, optional⟩

/-! ### Parts are shorter

The parts of a level are shorter than the text of the level, so descending into them ends. -/

theorem length_stripOptional_le (text : List Char) :
    (stripOptional text).1.length ≤ text.length := by
  have h := Text.length_trim_le text
  unfold stripOptional
  split
  · rename_i before hb
    have h1 := Text.length_trim_le before.reverse
    have h2 : before.length + 1 = (Text.trim text).length := by
      simpa using (congrArg List.length hb).symm
    simp only [List.length_reverse] at h1
    simp only
    omega
  · exact h

theorem length_inBrackets? {body inner : List Char} (h : inBrackets? body = some inner) :
    inner.length + 2 = body.length := by
  unfold inBrackets? at h
  split at h
  · rename_i rest
    split at h
    · rename_i before hb
      simp only [Option.some.injEq] at h
      subst h
      have : rest.length = before.length + 1 := by
        simpa using congrArg List.length hb
      simp
      omega
    · simp at h
  · simp at h

theorem length_extendFirst_le {c : Char} {rest : List Char} {parts : List (List Char)}
    (h : ∀ part ∈ parts, part.length ≤ rest.length) :
    ∀ part ∈ extendFirst c parts, part.length ≤ (c :: rest).length := by
  intro part hp
  cases parts with
  | nil =>
    simp [extendFirst] at hp
    simp [hp]
  | cons first more =>
    simp only [extendFirst, List.mem_cons] at hp
    rcases hp with rfl | hp
    · have := h first (by simp)
      simp
      omega
    · have := h part (by simp [hp])
      simp
      omega

theorem length_partsAt_le {depth : Nat} {text : List Char} {parts : List (List Char)}
    (h : partsAt depth text = some parts) : ∀ part ∈ parts, part.length ≤ text.length := by
  fun_induction partsAt depth text generalizing parts with
  | case1 =>
    simp only [Option.some.injEq] at h
    subst h
    simp
  | case2 => simp at h
  | case3 depth rest ih =>
    simp only [Option.map_eq_some_iff] at h
    obtain ⟨found, hf, rfl⟩ := h
    exact length_extendFirst_le (ih hf)
  | case4 => simp at h
  | case5 rest outer _ ih =>
    simp only [Option.map_eq_some_iff] at h
    obtain ⟨found, hf, rfl⟩ := h
    exact length_extendFirst_le (ih hf)
  | case6 depth c rest _ _ _ ih =>
    simp only [Option.map_eq_some_iff] at h
    obtain ⟨found, hf, rfl⟩ := h
    intro part hp
    simp only [List.mem_cons] at hp
    rcases hp with rfl | hp
    · simp
    · have := ih hf part hp
      simp
      omega
  | case7 depth c rest _ _ _ ih =>
    simp only [Option.map_eq_some_iff] at h
    obtain ⟨found, hf, rfl⟩ := h
    exact length_extendFirst_le (ih hf)

theorem length_of_bracketed_array {inner element : List Char}
    (h : bracketed inner = .ok (.array element)) : element.length ≤ inner.length := by
  have ht := Text.length_trim_le inner
  unfold bracketed at h
  split at h
  · simp at h
  · split at h
    · simp at h
    · split at h <;> simp at h
    · simp at h
    · simp only [Except.ok.injEq, Form.array.injEq] at h
      rw [← h]
      exact ht

theorem length_of_bracketed_map {inner key value : List Char}
    (h : bracketed inner = .ok (.map key value)) : value.length ≤ inner.length := by
  have ht := Text.length_trim_le inner
  unfold bracketed at h
  split at h
  · simp at h
  · split at h
    · simp at h
    · rename_i hp
      split at h
      · simp at h
      · rename_i k v _
        simp only [Except.ok.injEq, Form.map.injEq] at h
        have h1 := length_partsAt_le hp v (by simp)
        have h2 := Text.length_trim_le v
        rw [← h.2]
        omega
    · simp at h
    · simp at h

/-- The element of an array level is shorter than the level. -/
theorem length_lt_of_shape_array {text element : List Char} {optional : Bool}
    (h : shape text = .ok ⟨.array element, optional⟩) : element.length < text.length := by
  unfold shape at h
  simp only at h
  split at h
  · simp at h
  · rename_i inner hi
    cases hb : bracketed inner with
    | error e => simp [hb, Except.map] at h
    | ok form =>
      simp only [hb, Except.map, Except.ok.injEq, Shape.mk.injEq] at h
      have h1 := length_of_bracketed_array (h.1 ▸ hb)
      have h2 := length_inBrackets? hi
      have h3 := length_stripOptional_le text
      omega

/-- The value of a map level is shorter than the level. -/
theorem length_lt_of_shape_map {text key value : List Char} {optional : Bool}
    (h : shape text = .ok ⟨.map key value, optional⟩) : value.length < text.length := by
  unfold shape at h
  simp only at h
  split at h
  · simp at h
  · rename_i inner hi
    cases hb : bracketed inner with
    | error e => simp [hb, Except.map] at h
    | ok form =>
      simp only [hb, Except.map, Except.ok.injEq, Shape.mk.injEq] at h
      have h1 := length_of_bracketed_map (h.1 ▸ hb)
      have h2 := length_inBrackets? hi
      have h3 := length_stripOptional_le text
      omega

end ToolSchema.TypeExpr
