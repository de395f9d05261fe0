import ToolSchema.Proofs.ReferenceGraph

/-! The language of type expressions. A type expression is a leaf name, an array of one in brackets, or
a map to one, and each of these may carry one question mark; blanks may stand around every part.
Reading goes level by level and knows nothing of this grammar: it trims, takes the mark off, looks for
brackets at the ends and counts depth. `Written` is the grammar, and the main statements here are that
a text is read down to a leaf name exactly when it is written by the grammar (`descend_of_written`,
`written_of_descend`), and so has a fragment exactly when its leaf name has one. -/

namespace ToolSchema.TypeExpr

open Text (Blank Padded Trimmed trim blank_nil padded_self padded_trim trim_of_padded trim_trim
  trimmed_trim)

/-- The names that may stand at the end of a type expression. -/
def IsLeafName (name : List Char) : Prop :=
  name ≠ [] ∧ (∀ c ∈ name, c ∉ ['[', ']', ':', '?']) ∧ Trimmed name

instance (name : List Char) : Decidable (IsLeafName name) :=
  @instDecidableAnd _ _ inferInstance
    (@instDecidableAnd _ _ (List.decidableBAll _ name) inferInstance)

/-- A body between blanks, or a body that is followed by a question mark, after blanks of its own. -/
def Framed (body text : List Char) : Prop :=
  Padded body text ∨ ∃ gap, Blank gap ∧ Padded (body ++ gap ++ ['?']) text

/-- A text, the levels it goes through and the leaf name at its end. -/
inductive Written : List Char → List Level → List Char → Prop
  | leaf {name text} (hn : IsLeafName name) (hf : Framed name text) : Written text [] name
  | array {inner text levels name} (h : Written inner levels name)
      (hf : Framed ('[' :: inner ++ [']']) text) : Written text (.array :: levels) name
  | map {key value text levels name} (hk : Padded keyType key) (h : Written value levels name)
      (hf : Framed ('[' :: (key ++ ':' :: value) ++ [']']) text) : Written text (.map :: levels) name

/-! ### The frame of a body

What a frame adds is what trimming and taking the mark off remove, as long as the body itself has no
blank and no mark at its ends. -/

structure IsBody (body : List Char) : Prop where
  ne_nil : body ≠ []
  trimmed : Trimmed body
  unmarked : body.getLast? ≠ some '?'

theorem IsLeafName.isBody {name : List Char} (h : IsLeafName name) : IsBody name := by
  refine ⟨h.1, h.2.2, fun hl => ?_⟩
  exact h.2.1 '?' (List.mem_of_getLast? hl) (by decide)

theorem isBody_brackets (inner : List Char) : IsBody ('[' :: inner ++ [']']) := by
  have hl : ('[' :: inner ++ [']']).getLast? = some ']' := List.getLast?_concat
  refine ⟨List.cons_ne_nil _ _, ⟨fun c hc => ?_, fun c hc => ?_⟩, ?_⟩
  · cases hc
    decide
  · rw [hl] at hc
    cases hc
    decide
  · rw [hl]
    decide

variable {body text other : List Char}

theorem trim_of_framed (hb : IsBody body) (hf : Framed body text) :
    trim text = body ∨ ∃ gap, Blank gap ∧ trim text = body ++ gap ++ ['?'] := by
  rcases hf with hp | ⟨gap, hg, hp⟩
  · exact Or.inl (trim_of_padded hb.trimmed hp)
  · refine Or.inr ⟨gap, hg, trim_of_padded ⟨fun c hc => ?_, fun c hc => ?_⟩ hp⟩
    · obtain ⟨first, rest, rfl⟩ := List.exists_cons_of_ne_nil hb.ne_nil
      exact hb.trimmed.1 c hc
    · rw [List.getLast?_concat] at hc
      cases hc
      decide

theorem Framed.trim (hb : IsBody body) (hf : Framed body text) : Framed body (trim text) := by
  rcases trim_of_framed hb hf with he | ⟨gap, hg, he⟩
  · rw [he]
    exact Or.inl (padded_self body)
  · rw [he]
    exact Or.inr ⟨gap, hg, padded_self _⟩

theorem Framed.padded (hf : Framed body text) (hp : Padded text other) : Framed body other := by
  rcases hf with h | ⟨gap, hg, h⟩
  · exact Or.inl (h.trans hp)
  · exact Or.inr ⟨gap, hg, h.trans hp⟩

theorem stripOptional_of_mark {before : List Char} (h : trim text = before ++ ['?']) :
    stripOptional text = (trim before, true) := by
  unfold stripOptional
  rw [h, List.reverse_append]
  change (trim before.reverse.reverse, true) = _
  rw [List.reverse_reverse]

theorem stripOptional_of_unmarked (h : (trim text).getLast? ≠ some '?') :
    stripOptional text = (trim text, false) := by
  unfold stripOptional
  split
  · rename_i before hr
    rw [← List.head?_reverse, hr] at h
    exact absurd rfl h
  · rfl

theorem stripOptional_congr (h : trim text = trim other) :
    stripOptional text = stripOptional other := by
  unfold stripOptional
  rw [h]

theorem stripOptional_of_framed (hb : IsBody body) (hf : Framed body text) :
    (stripOptional text).1 = body := by
  rcases trim_of_framed hb hf with he | ⟨gap, hg, he⟩
  · rw [stripOptional_of_unmarked (he ▸ hb.unmarked)]
    exact he
  · rw [stripOptional_of_mark he]
    exact trim_of_padded hb.trimmed ⟨[], gap, blank_nil, hg, rfl⟩

/-- Whatever a text is, it is what is left of it in a frame. -/
theorem framed_stripOptional (text : List Char) : Framed (stripOptional text).1 text := by
  have hp := padded_trim text
  by_cases hl : (trim text).getLast? = some '?'
  · obtain ⟨before, he⟩ := List.getLast?_eq_some_iff.mp hl
    obtain ⟨lead, gap, hb, hg, hbefore⟩ := padded_trim before
    rw [stripOptional_of_mark he]
    -- The blanks in front of the body are blanks in front of the whole.
    have hlead : Padded (trim before ++ gap ++ ['?']) (trim text) := by
      refine ⟨lead, [], hb, blank_nil, ?_⟩
      rw [he, List.append_nil, ← List.append_assoc, ← List.append_assoc, ← hbefore]
    exact Or.inr ⟨gap, hg, hlead.trans hp⟩
  · rw [stripOptional_of_unmarked hl]
    exact Or.inl hp

theorem inBrackets?_brackets (inner : List Char) :
    inBrackets? ('[' :: inner ++ [']']) = some inner := by
  rw [List.cons_append, inBrackets?, List.reverse_append]
  change some inner.reverse.reverse = some inner
  rw [List.reverse_reverse]

theorem eq_of_inBrackets? {inner : List Char} (h : inBrackets? body = some inner) :
    body = '[' :: inner ++ [']'] := by
  unfold inBrackets? at h
  split at h
  · rename_i rest
    split at h
    · rename_i before hr
      cases h
      rw [List.cons_append, ← List.reverse_cons, ← hr, List.reverse_reverse]
    · cases h
  · cases h

theorem IsLeafName.inBrackets?_eq_none {name : List Char} (h : IsLeafName name) :
    inBrackets? name = none := by
  cases hi : inBrackets? name with
  | none => rfl
  | some inner =>
      have hm : '[' ∈ name := by
        rw [eq_of_inBrackets? hi]
        exact List.mem_cons_self
      exact absurd (by decide) (h.2.1 '[' hm)

/-! ### Parts between separators

A text is whole at a depth if it leaves the depth as it is and is split nowhere: whatever follows is
split as it would be alone, and the text goes to the first part. -/

def Whole (depth : Nat) (text : List Char) : Prop :=
  ∀ rest, partsAt depth (text ++ rest) =
    (partsAt depth rest).map fun parts => text.foldr extendFirst parts

theorem partsAt_open (depth : Nat) (rest : List Char) :
    partsAt depth ('[' :: rest) = (partsAt (depth + 1) rest).map (extendFirst '[') := by
  cases depth <;> rfl

theorem partsAt_close (outer : Nat) (rest : List Char) :
    partsAt (outer + 1) (']' :: rest) = (partsAt outer rest).map (extendFirst ']') :=
  rfl

theorem partsAt_separator (rest : List Char) :
    partsAt 0 (':' :: rest) = (partsAt 0 rest).map ([] :: ·) := rfl

variable {depth : Nat}

theorem partsAt_plain {c : Char} (h : c ≠ '[' ∧ c ≠ ']' ∧ ¬(c = ':' ∧ depth = 0))
    (rest : List Char) : partsAt depth (c :: rest) = (partsAt depth rest).map (extendFirst c) := by
  obtain ⟨ho, hc, hs⟩ := h
  cases depth <;> rw [partsAt, if_neg ho, if_neg hc, if_neg hs]

theorem Whole.append {first second : List Char} (hf : Whole depth first)
    (hs : Whole depth second) : Whole depth (first ++ second) := by
  intro rest
  rw [List.append_assoc, hf, hs, Option.map_map]
  congr 1
  funext parts
  exact (List.foldr_append).symm

theorem whole_of_plain
    (h : ∀ c ∈ text, c ≠ '[' ∧ c ≠ ']' ∧ ¬(c = ':' ∧ depth = 0)) : Whole depth text := by
  intro rest
  induction text with
  | nil => exact (Option.map_id_apply).symm
  | cons c tail ih =>
      rw [List.cons_append, partsAt_plain (h c List.mem_cons_self),
        ih fun d hd => h d (List.mem_cons_of_mem c hd), Option.map_map]
      rfl

theorem whole_blank (h : Blank text) : Whole depth text := by
  refine whole_of_plain fun c hc => ?_
  have hb := h c hc
  refine ⟨?_, ?_, ?_⟩
  · rintro rfl
    exact absurd hb (by decide)
  · rintro rfl
    exact absurd hb (by decide)
  · rintro ⟨rfl, -⟩
    exact absurd hb (by decide)

theorem whole_brackets {inner : List Char} (h : Whole (depth + 1) inner) :
    Whole depth ('[' :: inner ++ [']']) := by
  intro rest
  rw [List.cons_append, List.cons_append, partsAt_open, List.append_assoc, h,
    List.singleton_append, partsAt_close, Option.map_map, Option.map_map]
  congr 1
  funext parts
  change _ = extendFirst '[' ((inner ++ [']']).foldr extendFirst parts)
  rw [List.foldr_append]
  rfl

theorem Whole.padded (h : Whole depth body) (hp : Padded body text) : Whole depth text := by
  obtain ⟨before, after, hb, ha, rfl⟩ := hp
  exact ((whole_blank hb).append h).append (whole_blank ha)

theorem Whole.framed (h : Whole depth body) (hf : Framed body text) : Whole depth text := by
  have hm : Whole depth ['?'] := whole_of_plain (by simp)
  rcases hf with hp | ⟨gap, hg, hp⟩
  · exact h.padded hp
  · exact ((h.append (whole_blank hg)).append hm).padded hp

theorem whole_keyType (depth : Nat) : Whole depth keyType :=
  whole_of_plain fun c hc => by
    have hk : keyType.all (fun c => c ≠ '[' ∧ c ≠ ']' ∧ c ≠ ':') = true := by decide
    obtain ⟨ho, hcl, hs⟩ := of_decide_eq_true (List.all_eq_true.mp hk c hc)
    exact ⟨ho, hcl, fun h => hs h.1⟩

theorem foldr_extendFirst (first : List Char) (part : List Char) (more : List (List Char)) :
    first.foldr extendFirst (part :: more) = (first ++ part) :: more := by
  induction first with
  | nil => rfl
  | cons c rest ih =>
      rw [List.foldr_cons, ih]
      rfl

/-- A text that is whole outside all brackets is its only part. -/
theorem Whole.partsAt_eq (h : Whole 0 text) : partsAt 0 text = some [text] := by
  have he := h []
  rw [List.append_nil] at he
  rw [he]
  change some (text.foldr extendFirst [[]]) = _
  rw [foldr_extendFirst, List.append_nil]

theorem Whole.partsAt_separated {key value : List Char} (hk : Whole 0 key) (hv : Whole 0 value) :
    partsAt 0 (key ++ ':' :: value) = some [key, value] := by
  rw [hk, partsAt_separator, hv.partsAt_eq]
  change some (key.foldr extendFirst [[], value]) = _
  rw [foldr_extendFirst, List.append_nil]

theorem intercalate_extendFirst (c : Char) (parts : List (List Char)) :
    [':'].intercalate (extendFirst c parts) = c :: [':'].intercalate parts := by
  cases parts with
  | nil => rfl
  | cons part more =>
      cases more with
      | nil => rfl
      | cons next more => rfl

/-- Nothing but the separators is lost between the parts. -/
theorem intercalate_partsAt {parts : List (List Char)} (h : partsAt depth text = some parts) :
    parts ≠ [] ∧ [':'].intercalate parts = text := by
  have hext (c : Char) (found : List (List Char)) : extendFirst c found ≠ [] := by
    cases found <;> exact List.cons_ne_nil _ _
  fun_induction partsAt depth text generalizing parts with
  | case1 =>
      cases h
      exact ⟨List.cons_ne_nil _ _, rfl⟩
  | case2 => cases h
  | case3 depth rest ih =>
      obtain ⟨found, hf, rfl⟩ := Option.map_eq_some_iff.mp h
      exact ⟨hext _ _, by rw [intercalate_extendFirst, (ih hf).2]⟩
  | case4 => cases h
  | case5 rest outer _ ih =>
      obtain ⟨found, hf, rfl⟩ := Option.map_eq_some_iff.mp h
      exact ⟨hext _ _, by rw [intercalate_extendFirst, (ih hf).2]⟩
  | case6 depth c rest _ _ hc ih =>
      obtain ⟨found, hf, rfl⟩ := Option.map_eq_some_iff.mp h
      obtain ⟨hne, hi⟩ := ih hf
      obtain ⟨part, more, rfl⟩ := List.exists_cons_of_ne_nil hne
      refine ⟨List.cons_ne_nil _ _, ?_⟩
      rw [← hi, hc.1]
      rfl
  | case7 depth c rest _ _ _ ih =>
      obtain ⟨found, hf, rfl⟩ := Option.map_eq_some_iff.mp h
      exact ⟨hext _ _, by rw [intercalate_extendFirst, (ih hf).2]⟩

/-! ### One level -/

theorem bracketed_of_part {inner part : List Char} (hne : trim inner ≠ [])
    (hp : partsAt 0 (trim inner) = some [part]) : bracketed inner = .ok (.array (trim inner)) := by
  unfold bracketed
  split
  · rename_i he
    exact absurd he hne
  · rw [hp]

theorem bracketed_of_parts {inner key value : List Char} (hne : trim inner ≠ [])
    (hp : partsAt 0 (trim inner) = some [key, value]) (hk : trim key ≠ []) (hv : trim value ≠ []) :
    bracketed inner = .ok (.map (trim key) (trim value)) := by
  unfold bracketed
  split
  · rename_i he
    exact absurd he hne
  · rw [hp]
    exact if_neg fun h => h.elim hk hv

theorem bracketed_cases {inner : List Char} {form : Form} (h : bracketed inner = .ok form) :
    form = .array (trim inner) ∨
      ∃ key value, partsAt 0 (trim inner) = some [key, value] ∧
        form = .map (trim key) (trim value) := by
  unfold bracketed at h
  split at h
  · cases h
  · split at h
    · cases h
    · rename_i key value hp
      split at h
      · cases h
      · cases h
        exact Or.inr ⟨key, value, hp, rfl⟩
    · cases h
    · cases h
      exact Or.inl rfl

theorem shape_of_named (hs : (stripOptional text).1 = body) (hi : inBrackets? body = none) :
    ∃ optional, shape text = .ok ⟨.named body, optional⟩ := by
  refine ⟨(stripOptional text).2, ?_⟩
  unfold shape
  dsimp only
  rw [hs, hi]

theorem shape_of_bracketed {inner : List Char} {form : Form}
    (hs : (stripOptional text).1 = '[' :: inner ++ [']']) (hb : bracketed inner = .ok form) :
    ∃ optional, shape text = .ok ⟨form, optional⟩ := by
  refine ⟨(stripOptional text).2, ?_⟩
  unfold shape
  dsimp only
  rw [hs, inBrackets?_brackets]
  dsimp only
  rw [hb]
  rfl

theorem shape_cases {form : Form} {optional : Bool} (h : shape text = .ok ⟨form, optional⟩) :
    form = .named (stripOptional text).1 ∨
      ∃ inner, (stripOptional text).1 = '[' :: inner ++ [']'] ∧ bracketed inner = .ok form := by
  unfold shape at h
  dsimp only at h
  split at h
  · cases h
    exact Or.inl rfl
  · rename_i inner hi
    cases hb : bracketed inner with
    | error why =>
        rw [hb] at h
        cases h
    | ok found =>
        rw [hb] at h
        cases h
        exact Or.inr ⟨inner, eq_of_inBrackets? hi, hb⟩

/-! ### All levels -/

section Written

variable {levels : List Level} {name : List Char}

theorem Written.padded (h : Written text levels name) (hp : Padded text other) :
    Written other levels name := by
  cases h with
  | leaf hn hf => exact .leaf hn (hf.padded hp)
  | array h hf => exact .array h (hf.padded hp)
  | map hk h hf => exact .map hk h (hf.padded hp)

theorem Written.trim (h : Written text levels name) : Written (trim text) levels name := by
  cases h with
  | leaf hn hf => exact .leaf hn (hf.trim hn.isBody)
  | array h hf => exact .array h (hf.trim (isBody_brackets _))
  | map hk h hf => exact .map hk h (hf.trim (isBody_brackets _))

theorem trim_ne_nil_of_framed (hb : IsBody body) (hf : Framed body text) : Text.trim text ≠ [] := by
  rcases trim_of_framed hb hf with he | ⟨gap, -, he⟩
  · exact he ▸ hb.ne_nil
  · rw [he]
    exact List.append_ne_nil_of_right_ne_nil _ (List.cons_ne_nil _ _)

theorem Written.trim_ne_nil (h : Written text levels name) : Text.trim text ≠ [] := by
  cases h with
  | leaf hn hf => exact trim_ne_nil_of_framed hn.isBody hf
  | array h hf => exact trim_ne_nil_of_framed (isBody_brackets _) hf
  | map hk h hf => exact trim_ne_nil_of_framed (isBody_brackets _) hf

/-- The brackets of a type expression balance, and its separators stand inside them. -/
theorem Written.whole (h : Written text levels name) (depth : Nat) : Whole depth text := by
  induction h generalizing depth with
  | leaf hn hf =>
      refine Whole.framed (whole_of_plain fun c hc => ?_) hf
      have hs := hn.2.1 c hc
      simp only [List.mem_cons, List.not_mem_nil, or_false, not_or] at hs
      exact ⟨hs.1, hs.2.1, fun h => hs.2.2.1 h.1⟩
  | array h hf ih => exact (whole_brackets (ih (depth + 1))).framed hf
  | map hk h hf ih =>
      have hs : Whole (depth + 1) [':'] := whole_of_plain (by simp)
      have hkey := (whole_keyType (depth + 1)).padded hk
      have hin := (hkey.append hs).append (ih (depth + 1))
      rw [List.append_assoc, List.singleton_append] at hin
      exact (whole_brackets hin).framed hf

theorem bracketed_of_written {inner : List Char} (h : Written inner levels name) :
    bracketed inner = .ok (.array (Text.trim inner)) :=
  bracketed_of_part h.trim_ne_nil (h.trim.whole 0).partsAt_eq

/-- Trimming the brackets' content takes the blanks before the key and after the value; those next to
the separator are trimmed with the parts. -/
theorem bracketed_of_written_value {key value : List Char} (hk : Padded keyType key)
    (h : Written value levels name) :
    bracketed (key ++ ':' :: value) = .ok (.map keyType (Text.trim value)) := by
  obtain ⟨before, gap, hb, hg, rfl⟩ := hk
  obtain ⟨lead, after, hl, ha, hv⟩ := padded_trim value
  have hne := h.trim_ne_nil
  have htrim : Text.trim (before ++ keyType ++ gap ++ ':' :: value) =
      keyType ++ gap ++ ':' :: (lead ++ Text.trim value) := by
    refine trim_of_padded ⟨fun c hc => ?_, fun c hc => ?_⟩ ⟨before, after, hb, ha, ?_⟩
    · cases hc
      decide
    · rw [← List.cons_append, ← List.append_assoc, List.getLast?_append_of_ne_nil _ hne] at hc
      exact (trimmed_trim value).2 c hc
    · nth_rewrite 1 [hv]
      simp only [List.append_assoc, List.cons_append]
  have hkey : Text.trim (keyType ++ gap) = keyType :=
    trim_of_padded (by decide) ⟨[], gap, blank_nil, hg, rfl⟩
  have hvalue : Text.trim (lead ++ Text.trim value) = Text.trim value :=
    trim_of_padded (trimmed_trim value) ⟨lead, [], hl, blank_nil, (List.append_nil _).symm⟩
  have hparts : partsAt 0 (Text.trim (before ++ keyType ++ gap ++ ':' :: value)) =
      some [keyType ++ gap, lead ++ Text.trim value] := by
    rw [htrim]
    exact ((whole_keyType 0).append (whole_blank hg)).partsAt_separated
      ((whole_blank hl).append (h.trim.whole 0))
  rw [bracketed_of_parts (by rw [htrim]; exact List.cons_ne_nil _ _) hparts
    (by rw [hkey]; decide) (by rw [hvalue]; exact hne), hkey, hvalue]

/-- Reading sees no blanks around a text, so what is written is read down to its leaf from any text
that trims to the same. -/
theorem descend_of_written (h : Written text levels name) (he : trim other = trim text) :
    ∃ written, descend other = .ok ⟨levels, written, name⟩ := by
  induction h generalizing other with
  | leaf hn hf =>
      have hs := stripOptional_of_framed hn.isBody hf
      rw [← stripOptional_congr he] at hs
      obtain ⟨optional, hshape⟩ := shape_of_named hs hn.inBrackets?_eq_none
      exact ⟨other, descend_of_named hshape⟩
  | array h hf ih =>
      have hs := stripOptional_of_framed (isBody_brackets _) hf
      rw [← stripOptional_congr he] at hs
      obtain ⟨optional, hshape⟩ := shape_of_bracketed hs (bracketed_of_written h)
      obtain ⟨written, hd⟩ := ih (trim_trim _)
      exact ⟨written, by rw [descend_of_array hshape, hd]; rfl⟩
  | map hk h hf ih =>
      have hs := stripOptional_of_framed (isBody_brackets _) hf
      rw [← stripOptional_congr he] at hs
      obtain ⟨optional, hshape⟩ := shape_of_bracketed hs (bracketed_of_written_value hk h)
      obtain ⟨written, hd⟩ := ih (trim_trim _)
      exact ⟨written, by rw [descend_of_map hshape, hd]; rfl⟩

theorem written_of_descend {leaf : Leaf} (h : descend text = .ok leaf) (hn : IsLeafName leaf.name) :
    Written text leaf.levels leaf.name := by
  fun_induction descend text generalizing leaf with
  | case1 => cases h
  | case2 text name optional hs =>
      cases h
      rcases shape_cases hs with he | ⟨inner, -, hb⟩
      · cases he
        exact .leaf hn (framed_stripOptional text)
      · rcases bracketed_cases hb with he | ⟨key, value, -, he⟩ <;> cases he
  | case3 text element optional hs _ ih =>
      obtain ⟨below, hd, rfl⟩ := eq_ok_of_map_eq_ok h
      rcases shape_cases hs with he | ⟨inner, hbody, hb⟩
      · cases he
      rcases bracketed_cases hb with he | ⟨key, value, -, he⟩
      · cases he
        have hw := ih hd hn
        exact .array (hw.padded (padded_trim inner)) (hbody ▸ framed_stripOptional text)
      · cases he
  | case4 text found optional hs _ ih =>
      obtain ⟨below, hd, rfl⟩ := eq_ok_of_map_eq_ok h
      rcases shape_cases hs with he | ⟨inner, hbody, hb⟩
      · cases he
      rcases bracketed_cases hb with he | ⟨key, value, hp, he⟩
      · cases he
      · rw [Form.map.injEq] at he
        obtain ⟨hkey, rfl⟩ := he
        have hw := ih hd hn
        have hj : key ++ ':' :: value = trim inner := by
          rw [← (intercalate_partsAt hp).2]
          simp only [List.intercalate_cons_cons, List.intercalate_singleton, List.append_assoc,
            List.singleton_append]
        obtain ⟨before, after, hbefore, hafter, hinner⟩ := padded_trim inner
        have hk : Padded keyType (before ++ key) := by
          have hlead : Padded key (before ++ key) :=
            ⟨before, [], hbefore, blank_nil, (List.append_nil _).symm⟩
          exact hkey ▸ (padded_trim key).trans hlead
        have hv : Padded value (value ++ after) := ⟨[], after, blank_nil, hafter, rfl⟩
        refine .map hk (hw.padded ((padded_trim value).trans hv)) ?_
        have hi : before ++ key ++ ':' :: (value ++ after) = inner := by
          rw [hinner, ← hj]
          simp only [List.append_assoc, List.cons_append]
        rw [hi, ← hbody]
        exact framed_stripOptional text
  | case5 => cases h

theorem Written.isLeafName (h : Written text levels name) : IsLeafName name := by
  induction h with
  | leaf hn _ => exact hn
  | array _ _ ih => exact ih
  | map _ _ _ ih => exact ih

end Written

end ToolSchema.TypeExpr

namespace ToolSchema

open Generator TypeExpr

namespace Expansion

variable {enums : Table Enumeration} {lookup : Lookup} {site : Site}

/-- The text in which a leaf is written tells in errors only. -/
theorem leaf_ok_of_ok {written name : List Char} {fragment : Json}
    (h : leaf enums lookup site written name = .ok fragment) (other : List Char) :
    leaf enums lookup site other name = .ok fragment := by
  unfold leaf at h ⊢
  cases hp : primitives.find? (String.ofList name) with
  | some p =>
      rw [hp] at h
      exact h
  | none =>
      rw [hp] at h
      cases he : enums.find? (String.ofList name) with
      | some enumeration =>
          rw [he] at h
          exact h
      | none =>
          rw [he] at h
          obtain ⟨found, hf, h⟩ := bind_eq_ok_iff.mp h
          refine bind_eq_ok_iff.mpr ⟨found, hf, ?_⟩
          cases found with
          | some components => exact h
          | none =>
              dsimp only at h
              split at h <;> cases h

theorem rawType_of_leafName {name : List Char} (hn : IsLeafName name) {inner : Json} :
    rawType enums lookup site name = .ok inner ↔ leaf enums lookup site name name = .ok inner := by
  obtain ⟨written, hd⟩ := descend_of_written (.leaf hn (Or.inl (Text.padded_self name))) rfl
  rw [rawType_eq_ok_iff]
  constructor
  · rintro ⟨found, value, hd', hl, rfl⟩
    rw [hd] at hd'
    cases hd'
    exact leaf_ok_of_ok hl name
  · intro hl
    exact ⟨_, inner, hd, leaf_ok_of_ok hl written, rfl⟩

/-- Where only leaf names mean anything, what has a fragment is what is written by the grammar. -/
theorem rawType_ok_iff_written (hm : ∀ name, Meant enums lookup name → IsLeafName name.toList)
    {text : List Char} {fragment : Json} :
    rawType enums lookup site text = .ok fragment ↔
      ∃ levels name inner, Written text levels name ∧
        rawType enums lookup site name = .ok inner ∧ fragment = Fragment.wrap levels inner := by
  rw [rawType_eq_ok_iff]
  constructor
  · rintro ⟨found, inner, hd, hl, rfl⟩
    have hn := hm _ ((leaf_ok_iff site found.written found.name).mp ⟨inner, hl⟩)
    rw [String.toList_ofList] at hn
    exact ⟨found.levels, found.name, inner, written_of_descend hd hn,
      (rawType_of_leafName hn).mpr (leaf_ok_of_ok hl found.name), rfl⟩
  · rintro ⟨levels, name, inner, hw, hl, rfl⟩
    obtain ⟨written, hd⟩ := descend_of_written hw rfl
    exact ⟨_, inner, hd, leaf_ok_of_ok ((rawType_of_leafName hw.isLeafName).mp hl) written, rfl⟩

end Expansion

/-- What a fresh generator maps is what is written by the grammar with a leaf name that it maps alone,
and the fragment is that of the leaf name inside the levels. -/
theorem mapType_ok_iff_written {records : List Record} {enums : Table Enumeration} {g : Generator}
    (hg : ofBatch records enums = .ok g)
    (hr : ∀ record ∈ records, IsLeafName record.name.toList)
    (he : ∀ name ∈ enums.keys, IsLeafName name.toList) (site : Site) (rawType : String)
    (fragment : Json) :
    (g.step (.mapType rawType site)).answer = .ok (.fragment fragment) ↔
      ∃ (levels : List Level) (name : String) (inner : Json),
        Written rawType.toList levels name.toList ∧
        (g.step (.mapType name site)).answer = .ok (.fragment inner) ∧
        fragment = Fragment.wrap levels inner := by
  have hinj : Function.Injective Answer.fragment := fun _ _ h => Answer.fragment.inj h
  have hstep (text : String) (value : Json) :
      (g.step (.mapType text site)).answer = .ok (.fragment value) ↔
        Expansion.rawType enums (Expansion.target ⟨records, enums⟩ []) site text.toList =
          .ok value := by
    rw [fresh_answer_eq (s := .mapType text site) hg trivial trivial]
    exact reply_eq_ok_iff hinj
  have hm : ∀ name, Expansion.Meant enums (Expansion.target ⟨records, enums⟩ []) name →
      IsLeafName name.toList := by
    rintro name (hp | hn | hc)
    · have hprim : ∀ name ∈ primitives.keys, IsLeafName name.toList := by decide
      exact hprim name hp
    · exact he name hn
    · obtain ⟨found, ht, -⟩ := Expansion.target_ok_iff.mp hc
      obtain ⟨hmem, rfl⟩ := Generation.Scope.target?_eq_some ht
      exact hr found hmem
  rw [hstep, Expansion.rawType_ok_iff_written hm]
  constructor
  · rintro ⟨levels, name, inner, hw, hl, hf⟩
    refine ⟨levels, String.ofList name, inner, ?_, ?_, hf⟩
    · rwa [String.toList_ofList]
    · rwa [hstep, String.toList_ofList]
  · rintro ⟨levels, name, inner, hw, hl, hf⟩
    exact ⟨levels, name.toList, inner, hw, (hstep name inner).mp hl, hf⟩

/-- A map to optional arrays of places, with blanks in every place where they may stand. -/
theorem journey_ok_iff_written :
    ofBatch (journey "[Place]") modes =
        .ok ⟨journey "[Place]", journey "[Place]", modes, [], by decide⟩ ∧
      (∀ record ∈ journey "[Place]", IsLeafName record.name.toList) ∧
      (∀ name ∈ modes.keys, IsLeafName name.toList) ∧
      (Generator.step ⟨journey "[Place]", journey "[Place]", modes, [], by decide⟩
        (.mapType " [ String :[ Place?]\t? ] ?" ⟨"Trip", "stops"⟩)).answer =
          .ok (.fragment (Fragment.wrap [.map, .array]
            (Fragment.record ⟨[("x", Fragment.primitive ⟨"number", none⟩)], ["x"]⟩))) := by
  have hg : ofBatch (journey "[Place]") modes = .ok _ := ofBatch_of_nodup modes (by decide)
  have hr : ∀ record ∈ journey "[Place]", IsLeafName record.name.toList := by decide
  have he : ∀ name ∈ modes.keys, IsLeafName name.toList := by decide
  have hplace : Written " Place?".toList [] "Place".toList :=
    .leaf (by decide) (Or.inr ⟨[], by decide, [' '], [], by decide, by decide, rfl⟩)
  have harray : Written "[ Place?]\t? ".toList [.array] "Place".toList :=
    .array hplace (Or.inr ⟨['\t'], by decide, [], [' '], by decide, by decide, rfl⟩)
  have hmap : Written " [ String :[ Place?]\t? ] ?".toList [.map, .array] "Place".toList :=
    .map ⟨[' '], [' '], by decide, by decide, rfl⟩ harray
      (Or.inr ⟨[' '], by decide, [' '], [], by decide, by decide, rfl⟩)
  have hleaf : (Generator.step ⟨journey "[Place]", journey "[Place]", modes, [], by decide⟩
      (.mapType "Place" ⟨"Trip", "stops"⟩)).answer = .ok (.fragment
        (Fragment.record ⟨[("x", Fragment.primitive ⟨"number", none⟩)], ["x"]⟩)) := by
    cbv
  exact ⟨hg, hr, he,
    (mapType_ok_iff_written hg hr he _ _ _).mpr ⟨_, "Place", _, hmap, hleaf, rfl⟩⟩

end ToolSchema
