import ToolSchema.Proofs.TypeGrammar

/-! Levels by counting. A level is read with a depth that goes up and down along the text, and reading
stops at the first bracket that closes none. What comes of it needs no depth: brackets are out of balance
if some front of the text closes more than it opens, or the whole opens another number than it closes,
and a colon separates if the text before it opens as many as it closes. Both are carried along a text by
one equation, of the depths before and after a character; `shape_by_counts` says of every text which of
the seven outcomes it has. -/

namespace ToolSchema.TypeExpr

open Text (trim trim_trim)

/-! ### Counting -/

/-- Some front of the text closes more brackets than are open, or the whole leaves some open; `depth` of
them are open before the text. -/
def Unbalanced (depth : Nat) (text : List Char) : Prop :=
  (∃ front, front <+: text ∧ front.count '[' + depth < front.count ']') ∨
    text.count '[' + depth ≠ text.count ']'

/-- What stands before and after a colon outside all brackets. -/
def Separates (depth : Nat) (text before after : List Char) : Prop :=
  text = before ++ ':' :: after ∧ before.count '[' + depth = before.count ']'

variable {depth next : Nat} {c : Char} {rest before after : List Char}

theorem count_bracket_cons (bracket c : Char) (rest : List Char) :
    (c :: rest).count bracket = [c].count bracket + rest.count bracket := by
  rw [← List.singleton_append, List.count_append]

/-- A character takes one depth to the next, and what is unbalanced from the one depth on is so from the
other on. -/
theorem unbalanced_cons (h : [c].count '[' + depth = next + [c].count ']') :
    Unbalanced depth (c :: rest) ↔ Unbalanced next rest := by
  have hlt (front : List Char) : (c :: front).count '[' + depth < (c :: front).count ']' ↔
      front.count '[' + next < front.count ']' := by
    rw [count_bracket_cons '[', count_bracket_cons ']']
    omega
  have hne : (c :: rest).count '[' + depth ≠ (c :: rest).count ']' ↔
      rest.count '[' + next ≠ rest.count ']' := by
    rw [count_bracket_cons '[', count_bracket_cons ']']
    omega
  refine or_congr ⟨?_, ?_⟩ hne
  · rintro ⟨front, hf, h⟩
    rcases List.prefix_cons_iff.mp hf with rfl | ⟨tail, rfl, ht⟩
    · exact absurd h (Nat.not_lt_zero _)
    · exact ⟨tail, ht, (hlt tail).mp h⟩
  · rintro ⟨front, hf, h⟩
    exact ⟨c :: front, (List.prefix_cons_inj c).mpr hf, (hlt front).mpr h⟩

theorem separates_cons (h : [c].count '[' + depth = next + [c].count ']') :
    Separates depth (c :: rest) before after ↔
      (c = ':' ∧ depth = 0 ∧ before = [] ∧ after = rest) ∨
        ∃ tail, before = c :: tail ∧ Separates next rest tail after := by
  have hcount (tail : List Char) : (c :: tail).count '[' + depth = (c :: tail).count ']' ↔
      tail.count '[' + next = tail.count ']' := by
    rw [count_bracket_cons '[', count_bracket_cons ']']
    omega
  constructor
  · rintro ⟨he, hc⟩
    cases before with
    | nil =>
        obtain ⟨rfl, rfl⟩ := List.cons.inj he
        exact Or.inl ⟨rfl, (Nat.zero_add depth).symm.trans hc, rfl, rfl⟩
    | cons d tail =>
        obtain ⟨rfl, hrest⟩ := List.cons.inj he
        exact Or.inr ⟨tail, rfl, hrest, (hcount tail).mp hc⟩
  · rintro (⟨rfl, rfl, rfl, rfl⟩ | ⟨tail, rfl, he, hc⟩)
    · exact ⟨rfl, rfl⟩
    · exact ⟨congrArg (c :: ·) he, (hcount tail).mpr hc⟩

theorem partsAt_eq_none_iff (depth : Nat) (text : List Char) :
    partsAt depth text = none ↔ Unbalanced depth text := by
  fun_induction partsAt depth text with
  | case1 => simp [Unbalanced]
  | case2 depth => simp [Unbalanced]
  | case3 depth rest ih =>
      rw [Option.map_eq_none_iff, ih]
      exact (unbalanced_cons (Nat.add_comm 1 depth)).symm
  | case4 rest =>
      refine iff_of_true rfl (Or.inl ⟨[']'], ⟨rest, rfl⟩, by decide⟩)
  | case5 rest outer _ ih =>
      rw [Option.map_eq_none_iff, ih]
      exact (unbalanced_cons (Nat.zero_add _)).symm
  | case6 depth c rest ho hc hs ih =>
      rw [Option.map_eq_none_iff, ih]
      obtain ⟨rfl, rfl⟩ := hs
      exact (unbalanced_cons (by decide)).symm
  | case7 depth c rest ho hc hs ih =>
      rw [Option.map_eq_none_iff, ih]
      exact (unbalanced_cons (by simp [ho, hc])).symm

/-! ### Cuts between parts

A colon that separates is a place where the list of the parts can be cut in two. -/

def Cuts (parts : List (List Char)) (before after : List Char) : Prop :=
  ∃ front back, parts = front ++ back ∧ front ≠ [] ∧ back ≠ [] ∧
    before = [':'].intercalate front ∧ after = [':'].intercalate back

variable {found parts : List (List Char)}

theorem cuts_extendFirst (hne : found ≠ []) :
    Cuts (extendFirst c found) before after ↔
      ∃ tail, before = c :: tail ∧ Cuts found tail after := by
  obtain ⟨first, more, rfl⟩ := List.exists_cons_of_ne_nil hne
  constructor
  · rintro ⟨front, back, he, hf, hb, rfl, rfl⟩
    obtain ⟨head, tail, rfl⟩ := List.exists_cons_of_ne_nil hf
    obtain ⟨rfl, rfl⟩ := List.cons.inj he
    exact ⟨_, intercalate_extendFirst c (first :: tail), first :: tail, back, rfl,
      List.cons_ne_nil _ _, hb, rfl, rfl⟩
  · rintro ⟨_, rfl, front, back, he, hf, hb, rfl, rfl⟩
    obtain ⟨head, tail, rfl⟩ := List.exists_cons_of_ne_nil hf
    obtain ⟨rfl, rfl⟩ := List.cons.inj he
    exact ⟨(c :: first) :: tail, back, rfl, List.cons_ne_nil _ _, hb,
      (intercalate_extendFirst c (first :: tail)).symm, rfl⟩

theorem cuts_separator (hne : found ≠ []) :
    Cuts ([] :: found) before after ↔
      (before = [] ∧ after = [':'].intercalate found) ∨
        ∃ tail, before = ':' :: tail ∧ Cuts found tail after := by
  constructor
  · rintro ⟨front, back, he, hf, hb, rfl, rfl⟩
    obtain ⟨head, tail, rfl⟩ := List.exists_cons_of_ne_nil hf
    obtain ⟨rfl, rfl⟩ := List.cons.inj he
    cases tail with
    | nil => exact Or.inl ⟨rfl, rfl⟩
    | cons next more =>
        exact Or.inr ⟨_, rfl, next :: more, back, rfl, List.cons_ne_nil _ _, hb, rfl, rfl⟩
  · rintro (⟨rfl, rfl⟩ | ⟨_, rfl, front, back, rfl, hf, hb, rfl, rfl⟩)
    · exact ⟨[[]], found, rfl, List.cons_ne_nil _ _, hne, rfl, rfl⟩
    · obtain ⟨next, more, rfl⟩ := List.exists_cons_of_ne_nil hf
      exact ⟨[] :: next :: more, back, rfl, List.cons_ne_nil _ _, hb, rfl, rfl⟩

theorem cuts_single (part before after : List Char) : ¬Cuts [part] before after := by
  rintro ⟨front, back, he, hf, hb, -, -⟩
  rcases List.append_eq_singleton_iff.mp he.symm with ⟨rfl, -⟩ | ⟨-, rfl⟩
  · exact hf rfl
  · exact hb rfl

theorem cuts_pair {first second : List Char} :
    Cuts [first, second] before after ↔ before = first ∧ after = second := by
  constructor
  · rintro ⟨front, back, he, hf, hb, rfl, rfl⟩
    obtain ⟨head, tail, rfl⟩ := List.exists_cons_of_ne_nil hf
    obtain ⟨rfl, hsecond⟩ := List.cons.inj he
    rcases List.append_eq_singleton_iff.mp hsecond.symm with ⟨rfl, rfl⟩ | ⟨-, rfl⟩
    · exact ⟨List.intercalate_singleton, List.intercalate_singleton⟩
    · exact absurd rfl hb
  · rintro ⟨rfl, rfl⟩
    exact ⟨[before], [after], rfl, List.cons_ne_nil _ _, List.cons_ne_nil _ _,
      List.intercalate_singleton.symm, List.intercalate_singleton.symm⟩

theorem separates_extendFirst (hstep : [c].count '[' + depth = next + [c].count ']')
    (hs : ¬(c = ':' ∧ depth = 0)) (hne : found ≠ [])
    (h : ∀ tail, Separates next rest tail after ↔ Cuts found tail after) :
    Separates depth (c :: rest) before after ↔ Cuts (extendFirst c found) before after := by
  rw [separates_cons hstep, cuts_extendFirst hne]
  constructor
  · rintro (⟨hc, hd, -⟩ | ⟨tail, hb, ht⟩)
    · exact absurd ⟨hc, hd⟩ hs
    · exact ⟨tail, hb, (h tail).mp ht⟩
  · rintro ⟨tail, hb, ht⟩
    exact Or.inr ⟨tail, hb, (h tail).mpr ht⟩

/-- What separates a text are the places between its parts. -/
theorem separates_iff_cuts {text : List Char} (h : partsAt depth text = some parts) :
    Separates depth text before after ↔ Cuts parts before after := by
  fun_induction partsAt depth text generalizing parts before with
  | case1 =>
      cases h
      refine iff_of_false (fun hs => ?_) (cuts_single _ _ _)
      exact List.append_ne_nil_of_right_ne_nil _ (List.cons_ne_nil _ _) hs.1.symm
  | case2 => cases h
  | case3 depth rest ih =>
      obtain ⟨found, hf, rfl⟩ := Option.map_eq_some_iff.mp h
      exact separates_extendFirst (Nat.add_comm 1 depth) (by simp) (intercalate_partsAt hf).1
        fun _ => ih hf
  | case4 => cases h
  | case5 rest outer _ ih =>
      obtain ⟨found, hf, rfl⟩ := Option.map_eq_some_iff.mp h
      exact separates_extendFirst (Nat.zero_add _) (by simp) (intercalate_partsAt hf).1
        fun _ => ih hf
  | case6 depth c rest _ _ hs ih =>
      obtain ⟨found, hf, rfl⟩ := Option.map_eq_some_iff.mp h
      obtain ⟨rfl, rfl⟩ := hs
      obtain ⟨hne, hrest⟩ := intercalate_partsAt hf
      have hstep : [':'].count '[' + 0 = 0 + [':'].count ']' := by decide
      rw [separates_cons hstep, cuts_separator hne, hrest]
      simp [ih hf]
  | case7 depth c rest ho hc hs ih =>
      obtain ⟨found, hf, rfl⟩ := Option.map_eq_some_iff.mp h
      exact separates_extendFirst (by simp [ho, hc]) hs (intercalate_partsAt hf).1 fun _ => ih hf

/-! ### Colons that separate -/

/-- The colon before `after` separates the text, and no other does. -/
def SeparatesAlone (text before after : List Char) : Prop :=
  Separates 0 text before after ∧ ∀ front back, Separates 0 text front back → front = before

/-- More than one colon separates the text. -/
def SeparatesTwice (text : List Char) : Prop :=
  ∃ before after front back, Separates 0 text before after ∧ Separates 0 text front back ∧
    front ≠ before

theorem SeparatesAlone.iff {text key value : List Char} (h : SeparatesAlone text key value) :
    SeparatesAlone text before after ↔ before = key ∧ after = value := by
  constructor
  · intro ho
    have hkey := h.2 _ _ ho.1
    subst hkey
    exact ⟨rfl, (List.cons.inj (List.append_cancel_left (ho.1.1.symm.trans h.1.1))).2⟩
  · rintro ⟨rfl, rfl⟩
    exact h

theorem SeparatesTwice.not_alone {text : List Char} (h : SeparatesTwice text)
    (before after : List Char) : ¬SeparatesAlone text before after := by
  obtain ⟨_, _, _, _, hs, ho, hne⟩ := h
  exact fun ha => hne ((ha.2 _ _ ho).trans (ha.2 _ _ hs).symm)

/-- What the parts of a text say about its brackets and colons. -/
theorem partsAt_cases (text : List Char) :
    (Unbalanced 0 text ∧ partsAt 0 text = none) ∨
    ¬Unbalanced 0 text ∧
      ((∀ before after, ¬Separates 0 text before after) ∧ partsAt 0 text = some [text] ∨
      (∃ key value, SeparatesAlone text key value ∧ partsAt 0 text = some [key, value]) ∨
      SeparatesTwice text ∧ ∃ first second third more,
        partsAt 0 text = some (first :: second :: third :: more)) := by
  rw [← partsAt_eq_none_iff]
  cases hp : partsAt 0 text with
  | none => exact Or.inl ⟨rfl, rfl⟩
  | some parts =>
      refine Or.inr ⟨Option.some_ne_none _, ?_⟩
      obtain ⟨hne, htext⟩ := intercalate_partsAt hp
      have hcuts (before after : List Char) :
          Separates 0 text before after ↔ Cuts parts before after := separates_iff_cuts hp
      match parts, hne with
      | [part], _ =>
          refine Or.inl ⟨fun before after hs => cuts_single _ _ _ ((hcuts _ _).mp hs), ?_⟩
          rw [← htext, List.intercalate_singleton]
      | [key, value], _ =>
          refine Or.inr (Or.inl ⟨key, value, ⟨(hcuts _ _).mpr (cuts_pair.mpr ⟨rfl, rfl⟩), ?_⟩, rfl⟩)
          exact fun front back hs => (cuts_pair.mp ((hcuts _ _).mp hs)).1
      | first :: second :: third :: more, _ =>
          refine Or.inr (Or.inr ⟨?_, first, second, third, more, rfl⟩)
          refine ⟨_, _, _, _,
            (hcuts _ _).mpr ⟨[first], second :: third :: more, rfl, by simp, by simp, rfl, rfl⟩,
            (hcuts _ _).mpr ⟨[first, second], third :: more, rfl, by simp, by simp, rfl, rfl⟩, ?_⟩
          intro he
          have hl := congrArg List.length he
          simp [List.intercalate] at hl

/-! ### Levels -/

/-- Whether there is a question mark at the end. -/
def marked (text : List Char) : Bool := (trim text).getLast? = some '?'

/-- A level without its mark, trimmed before the mark is taken off and again after that. -/
def bare (text : List Char) : List Char :=
  trim (if marked text then (trim text).dropLast else trim text)

def Enclosed (outer : List Char) : Prop := outer.head? = some '[' ∧ outer.getLast? = some ']'

/-- What stands between the first character and the last. -/
def content (outer : List Char) : List Char := trim outer.tail.dropLast

/-- Brackets around something, in which the brackets balance. -/
def WellBracketed (outer : List Char) : Prop :=
  Enclosed outer ∧ content outer ≠ [] ∧ ¬Unbalanced 0 (content outer)

theorem stripOptional_eq (text : List Char) : stripOptional text = (bare text, marked text) := by
  unfold bare marked
  by_cases hl : (trim text).getLast? = some '?'
  · obtain ⟨before, hb⟩ := List.getLast?_eq_some_iff.mp hl
    rw [stripOptional_of_mark hb, decide_eq_true hl, if_pos rfl, hb, List.dropLast_concat]
  · rw [stripOptional_of_unmarked hl, decide_eq_false hl, if_neg Bool.false_ne_true, trim_trim]

theorem enclosed_iff {outer : List Char} :
    Enclosed outer ↔ outer = '[' :: outer.tail.dropLast ++ [']'] := by
  constructor
  · rintro ⟨hh, hl⟩
    obtain ⟨init, rfl⟩ := List.getLast?_eq_some_iff.mp hl
    cases init with
    | nil => exact absurd hh (by decide)
    | cons c tail =>
        cases hh
        rw [List.cons_append, List.tail_cons, List.dropLast_concat, List.cons_append]
  · intro h
    rw [h]
    exact ⟨rfl, List.getLast?_concat⟩

theorem shape_of_not_enclosed {text : List Char} (h : ¬Enclosed (bare text)) :
    shape text = .ok ⟨.named (bare text), marked text⟩ := by
  unfold shape
  rw [stripOptional_eq]
  dsimp only
  cases hi : inBrackets? (bare text) with
  | none => rfl
  | some inner =>
      have he := eq_of_inBrackets? hi
      refine absurd (enclosed_iff.mpr ?_) h
      rw [he, List.cons_append, List.tail_cons, List.dropLast_concat, List.cons_append]

theorem shape_of_enclosed {text : List Char} (h : Enclosed (bare text)) :
    shape text = (bracketed (bare text).tail.dropLast).map fun form => ⟨form, marked text⟩ := by
  have hi : inBrackets? (bare text) = some (bare text).tail.dropLast := by
    rw [congrArg inBrackets? (enclosed_iff.mp h), inBrackets?_brackets]
  unfold shape
  rw [stripOptional_eq]
  dsimp only
  rw [hi]

theorem bracketed_of_empty {inner : List Char} (h : trim inner = []) :
    bracketed inner = .error .emptyBrackets := by
  unfold bracketed
  rw [h]

theorem bracketed_of_none {inner : List Char} (hne : trim inner ≠ [])
    (hp : partsAt 0 (trim inner) = none) : bracketed inner = .error .unbalanced := by
  unfold bracketed
  split
  · rename_i he
    exact absurd he hne
  · rw [hp]

theorem bracketed_of_missing {inner key value : List Char} (hne : trim inner ≠ [])
    (hp : partsAt 0 (trim inner) = some [key, value]) (hm : trim key = [] ∨ trim value = []) :
    bracketed inner = .error .missingPart := by
  unfold bracketed
  split
  · rename_i he
    exact absurd he hne
  · rw [hp]
    exact if_pos hm

theorem bracketed_of_several {inner first second third : List Char} {more : List (List Char)}
    (hne : trim inner ≠ []) (hp : partsAt 0 (trim inner) = some (first :: second :: third :: more)) :
    bracketed inner = .error .tooManySeparators := by
  unfold bracketed
  split
  · rename_i he
    exact absurd he hne
  · rw [hp]

/-- A level is a name exactly when it has no brackets around it. In brackets it is refused for having
nothing in them, else for brackets out of balance; else it is an array if no colon separates, a map if
one does and has a part on either side, and refused if a part is missing or there are more colons. -/
theorem shape_by_counts (text : List Char) :
    (∀ name optional, shape text = .ok ⟨.named name, optional⟩ ↔
      ¬Enclosed (bare text) ∧ bare text = name ∧ marked text = optional) ∧
    (shape text = .error .emptyBrackets ↔ Enclosed (bare text) ∧ content (bare text) = []) ∧
    (shape text = .error .unbalanced ↔
      Enclosed (bare text) ∧ content (bare text) ≠ [] ∧ Unbalanced 0 (content (bare text))) ∧
    (∀ element optional, shape text = .ok ⟨.array element, optional⟩ ↔
      WellBracketed (bare text) ∧ (∀ before after, ¬Separates 0 (content (bare text)) before after) ∧
        content (bare text) = element ∧ marked text = optional) ∧
    (∀ key value optional, shape text = .ok ⟨.map key value, optional⟩ ↔
      WellBracketed (bare text) ∧ ∃ before after, SeparatesAlone (content (bare text)) before after ∧
        trim before ≠ [] ∧ trim after ≠ [] ∧
        trim before = key ∧ trim after = value ∧ marked text = optional) ∧
    (shape text = .error .missingPart ↔
      WellBracketed (bare text) ∧ ∃ before after, SeparatesAlone (content (bare text)) before after ∧
        (trim before = [] ∨ trim after = [])) ∧
    (shape text = .error .tooManySeparators ↔
      WellBracketed (bare text) ∧ SeparatesTwice (content (bare text))) := by
  -- Each case gives the level, and what it is in excludes the conditions of all others.
  by_cases henclosed : Enclosed (bare text)
  · have hshape := shape_of_enclosed henclosed
    by_cases hempty : content (bare text) = []
    · rw [bracketed_of_empty hempty] at hshape
      simp [hshape, Except.map, WellBracketed, henclosed, hempty]
    rcases partsAt_cases (content (bare text)) with ⟨hu, hp⟩ | ⟨hu, hparts⟩
    · rw [bracketed_of_none hempty hp] at hshape
      simp [hshape, Except.map, WellBracketed, henclosed, hempty, hu]
    have hb : WellBracketed (bare text) := ⟨henclosed, hempty, hu⟩
    rcases hparts with ⟨hnone, hp⟩ | ⟨key, value, halone, hp⟩ | ⟨htwice, first, second, third, more, hp⟩
    · have halone (before after : List Char) : ¬SeparatesAlone (content (bare text)) before after :=
        fun h => hnone _ _ h.1
      have htwice : ¬SeparatesTwice (content (bare text)) := fun ⟨_, _, _, _, h, _⟩ => hnone _ _ h
      rw [bracketed_of_part hempty hp] at hshape
      change shape text = .ok ⟨.array (content (bare text)), marked text⟩ at hshape
      simp [hshape, hb, henclosed, hempty, hu, hnone, halone, htwice]
    · have hsome : ¬∀ before after, ¬Separates 0 (content (bare text)) before after :=
        fun h => h _ _ halone.1
      have htwice : ¬SeparatesTwice (content (bare text)) := fun h => h.not_alone _ _ halone
      by_cases hm : trim key = [] ∨ trim value = []
      · rw [bracketed_of_missing hempty hp hm] at hshape
        rcases hm with hm | hm <;>
          simp [hshape, Except.map, hb, henclosed, hempty, hu, hsome, htwice, halone.iff, hm]
      · rw [not_or] at hm
        rw [bracketed_of_parts hempty hp hm.1 hm.2] at hshape
        change shape text = .ok ⟨.map (trim key) (trim value), marked text⟩ at hshape
        simp [hshape, hb, henclosed, hempty, hu, hsome, htwice, halone.iff, hm, and_assoc]
    · have hsome : ¬∀ before after, ¬Separates 0 (content (bare text)) before after := by
        obtain ⟨_, _, _, _, hs, -⟩ := htwice
        exact fun h => h _ _ hs
      rw [bracketed_of_several hempty hp] at hshape
      simp [hshape, Except.map, hb, henclosed, hempty, hu, hsome, htwice, htwice.not_alone]
  · have hb : ¬WellBracketed (bare text) := fun h => henclosed h.1
    simp [shape_of_not_enclosed henclosed, henclosed, hb]

end ToolSchema.TypeExpr
