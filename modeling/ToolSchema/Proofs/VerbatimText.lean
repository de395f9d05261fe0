import ToolSchema.Proofs.StyledLines

/-! Texts that are shown as they are. What is put into a line of markup unescaped is read as markup. In a
text without tags nothing stands against the line but half a character (`legible_of_tagless`), and if
besides there is nothing in the text to be left out or replaced, the line shows it as far as it fits
(`plain_verbatim`), and character for character if it does (`plain_of_fits`). -/

namespace ToolSchema

namespace Console

variable {text lead rest : List Char}

/-! ### Text before a tag -/

theorem scan_plain_append (h : ∀ c ∈ lead, c ≠ '[' ∧ c ≠ '\\') :
    Markup.scan (lead ++ rest) = lead.foldr prepend (Markup.scan rest) := by
  induction lead with
  | nil => rfl
  | cons c tail ih =>
      obtain ⟨hc, htail⟩ := List.forall_mem_cons.mp h
      rw [List.cons_append, scan_of_no_tag (tagAt_of_plain hc _), ih htail]
      rfl

theorem foldr_prepend_tag (hne : lead ≠ []) (backslashes : Nat) (content : List Char)
    (items : List Markup) :
    lead.foldr prepend (.tag backslashes content :: items) =
      .run lead :: .tag backslashes content :: items := by
  induction lead with
  | nil => exact absurd rfl hne
  | cons c tail ih =>
      cases tail with
      | nil => rfl
      | cons d more => rw [List.foldr_cons, ih (List.cons_ne_nil d more), prepend]

/-- Text before a tag is written, whether there is any or not. -/
theorem extend_text (position : Nat) (display : Display) (lead : List Char) (backslashes : Nat)
    (content : List Char) (items : List Markup) :
    Display.extend position display (lead.foldr prepend (.tag backslashes content :: items)) =
      Display.extend (position + lead.length) (display.write (shownRun lead))
        (.tag backslashes content :: items) := by
  cases lead with
  | nil =>
      have hempty : shownRun [] = [] := rfl
      have hw : display.write (shownRun []) = display := by
        rw [hempty, Display.write, List.append_nil]
      rw [hw]
      rfl
  | cons c tail => rw [foldr_prepend_tag (List.cons_ne_nil c tail), Display.extend]

/-! ### Texts without tags -/

/-- A text in which no tag begins. -/
def IsTagless : List Char → Prop
  | [] => True
  | c :: rest => tagAt (c :: rest) = none ∧ IsTagless rest

instance IsTagless.decidable : (text : List Char) → Decidable (IsTagless text)
  | [] => inferInstanceAs (Decidable True)
  | c :: rest =>
    have := IsTagless.decidable rest
    inferInstanceAs (Decidable (tagAt (c :: rest) = none ∧ IsTagless rest))

theorem isTagless_of_forall (h : ∀ c ∈ text, c ≠ '[' ∧ c ≠ '\\') : IsTagless text := by
  induction text with
  | nil => trivial
  | cons c rest ih =>
      obtain ⟨hc, hrest⟩ := List.forall_mem_cons.mp h
      exact ⟨tagAt_of_plain hc rest, ih hrest⟩

theorem IsTagless.escapeChars_eq (h : IsTagless text) : escapeChars text = text := by
  induction text with
  | nil => exact escapeChars_nil
  | cons c rest ih => rw [escapeChars_of_no_tag h.1, ih h.2]

/-- No backslash at the end takes away the meaning of the closing tag. -/
theorem IsTagless.scan_closing (h : IsTagless text) (hl : text.getLast? ≠ some '\\') :
    Markup.scan (text ++ closing 0) = text.foldr prepend [.tag 0 ['/']] := by
  induction text with
  | nil =>
      rw [List.nil_append, scan_of_tag (tagAt_closing 0), Markup.scan]
      rfl
  | cons c rest ih =>
      have hc : tagAt (c :: rest ++ closing 0) = none := by
        have hescaped := tagAt_escaped h.1 0
        rw [h.escapeChars_eq] at hescaped
        rcases hescaped with hn | ⟨count, hcount⟩
        · exact hn
        · refine absurd ?_ hl
          have hall : c :: rest = List.replicate count '\\' := List.append_cancel_right hcount
          have hpos : count ≠ 0 := by
            rintro rfl
            cases hall
          rw [hall, List.getLast?_replicate, if_neg hpos]
      have hrest : rest.getLast? ≠ some '\\' := by
        intro hb
        rw [List.getLast?_cons, hb] at hl
        exact hl rfl
      rw [List.cons_append] at hc ⊢
      rw [scan_of_no_tag hc, ih h.2 hrest]
      rfl

/-! ### Words in a style -/

/-- The display after some words and the tag that opens a style. -/
def Display.within (lead : List Char) (description : String) : Display where
  text := shownRun lead
  opened := [⟨(shownRun lead).length, description, none⟩]

section Styled

variable {description before words : String} {width : Nat}

theorem extend_styled (hs : IsStyle description) (hl : ∀ c ∈ lead, c ≠ '[' ∧ c ≠ '\\')
    (rest : List Char) :
    Display.extend 0 {} (Markup.scan (lead ++ '[' :: (description.toList ++ ']' :: rest))) =
      Display.extend (0 + lead.length + description.toList.length + 2)
        (Display.within lead description) (Markup.scan rest) := by
  have htag := tagAt_of_head (c := '[') (by decide) (description.toList ++ ']' :: rest)
  rw [bareTag_of_some hs.bareTag] at htag
  rw [scan_plain_append hl, scan_of_tag htag, extend_text, extend_of_follow (hs.follow_eq _ _)]
  rfl

theorem toList_styled (before description words : String) :
    (before ++ "[" ++ description ++ "]" ++ words ++ "[/]").toList =
      before.toList ++ '[' :: (description.toList ++ ']' :: (words.toList ++ closing 0)) := by
  simp [String.toList_append, closing]

theorem forall_of_isPlain (h : isPlain before = true) : ∀ c ∈ before.toList, c ≠ '[' ∧ c ≠ '\\' :=
  fun c hc => of_decide_eq_true (List.all_eq_true.mp h c hc)

theorem readable_of_isStyle (hs : IsStyle description) (start : Nat) :
    (Style.ofDescription (OpenTag.description ⟨start, description, none⟩)).isOk = true := by
  have hd : OpenTag.description ⟨start, description, none⟩ = description.toList :=
    List.append_nil _
  rw [hd]
  exact hs.readable

/-- What is shown of words without a tag, if the style is closed behind them. -/
theorem plain_of_tagless (hs : IsStyle description) (hb : isPlain before = true)
    (hw : IsTagless words.toList) (hl : words.toList.getLast? ≠ some '\\') :
    plain width (before ++ "[" ++ description ++ "]" ++ words ++ "[/]") =
      if Text.holdsHalf (shownRun before.toList ++ shownRun words.toList) then .error .unencodable
      else .ok (String.ofList
        (Laid.text (layOut width (shownRun before.toList ++ shownRun words.toList)) ++ ['\n'])) := by
  let styled := (Display.within before.toList description).write (shownRun words.toList)
  let closed : Display :=
    { styled with
      opened := []
      spans := [styled.spanOf ⟨(shownRun before.toList).length, description, none⟩] }
  have hfollow (position : Nat) : styled.follow position ['/'] = .ok closed :=
    Display.follow_closing rfl (decide_eq_false hs.noHandler) position
  have hextend : Display.extend 0 {} (Markup.scan
      (before ++ "[" ++ description ++ "]" ++ words ++ "[/]").toList) = .ok closed := by
    rw [toList_styled, extend_styled hs (forall_of_isPlain hb), hw.scan_closing hl, extend_text,
      extend_of_follow (hfollow _)]
    rfl
  have hreadable : closed.isReadable = true :=
    isReadable_of_single (Or.inr ⟨rfl, _, rfl, rfl⟩) (readable_of_isStyle hs _)
  have htext : closed.text = shownRun before.toList ++ shownRun words.toList := rfl
  rw [plain_of_extend hextend hreadable, htext]

/-! ### Words as they are -/

/-- A text that a line of markup shows as it is, if the line fits: no tag begins in it, it does not end in
a backslash, and it holds no tab, no half of a character and nothing that is left out or replaced, as
escaped brackets and emoji codes are. -/
structure IsVerbatim (text : List Char) : Prop where
  tagless : IsTagless text
  getLast? : text.getLast? ≠ some '\\'
  shownRun : shownRun text = text
  noTab : '\t' ∉ text
  whole : Text.halfSign ∉ text

instance IsVerbatim.decidable (text : List Char) : Decidable (IsVerbatim text) :=
  decidable_of_iff (IsTagless text ∧ text.getLast? ≠ some '\\' ∧ Console.shownRun text = text ∧
      '\t' ∉ text ∧ Text.halfSign ∉ text)
    ⟨fun ⟨ht, hl, hr, hn, hw⟩ => ⟨ht, hl, hr, hn, hw⟩,
      fun h => ⟨h.tagless, h.getLast?, h.shownRun, h.noTab, h.whole⟩⟩

/-- Nothing happens to characters that mean nothing anywhere. -/
theorem IsVerbatim.of_forall
    (h : ∀ c ∈ text, c ∉ ['[', '\\', ':', '\t', Text.halfSign] ∧ isDropped c = false) :
    IsVerbatim text where
  tagless := isTagless_of_forall fun c hc =>
    ⟨fun he => (h c hc).1 (by simp [he]), fun he => (h c hc).1 (by simp [he])⟩
  getLast? hl := (h _ (List.mem_of_getLast? hl)).1 (by simp)
  shownRun := by
    have hunescape : unescapeBrackets text = text := by
      fun_induction unescapeBrackets text with
      | case1 => exact absurd (h _ List.mem_cons_self).1 (by simp)
      | case2 c rest _ ih => rw [ih (List.forall_mem_cons.mp h).2]
      | case3 => rfl
    have hcolon : ':' ∉ text := fun hm => (h _ hm).1 (by simp)
    have hemoji : replaceEmoji text = text :=
      replaceEmoji_of_count_le (by simp [List.count_eq_zero_of_not_mem hcolon])
    rw [Console.shownRun, hunescape, hemoji]
    exact List.filter_eq_self.mpr fun c hc => by simp [(h c hc).2]
  noTab hm := (h _ hm).1 (by simp)
  whole hm := (h _ hm).1 (by simp)

theorem isVerbatim_digits (count : Nat) : IsVerbatim (toString count).toList := by
  refine .of_forall fun c hc => ?_
  have hd := isDigit_of_mem_digits hc
  constructor
  · intro hm
    simp only [List.mem_cons, List.not_mem_nil, or_false] at hm
    rcases hm with rfl | rfl | rfl | rfl | rfl <;> exact absurd hd (by decide)
  · have hlow : '0'.toNat ≤ c.toNat :=
      UInt32.le_iff_toNat_le.mp (of_decide_eq_true (Bool.and_eq_true_iff.mp hd).1)
    have hzero : '0'.toNat = 48 := rfl
    simp [isDropped]
    omega

/-- Such words are shown, in lines of the console's width. -/
theorem plain_verbatim (hs : IsStyle description) (hp : isPlain before = true)
    (hb : IsVerbatim before.toList) (hw : IsVerbatim words.toList) :
    plain width (before ++ "[" ++ description ++ "]" ++ words ++ "[/]") =
      .ok (String.ofList (Laid.text (layOut width (before ++ words).toList) ++ ['\n'])) := by
  have hwhole : Text.holdsHalf (before ++ words).toList = false := by
    refine Text.holdsHalf_of_not_mem ?_
    simp [hb.whole, hw.whole]
  rw [plain_of_tagless hs hp hw.tagless hw.getLast?, hb.shownRun, hw.shownRun, ← String.toList_append,
    hwhole, if_neg Bool.false_ne_true]

end Styled

end Console

end ToolSchema
