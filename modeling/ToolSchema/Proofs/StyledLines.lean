import ToolSchema.Proofs.EncodableMarkup

/-! Lines with words in styles. A description that names a style opens it wherever it stands, and the next
closing tag closes it. So a line that is put together from plain words and from words in such styles can
be shown as far as it can be encoded, whatever these words are. -/

namespace ToolSchema.Console

/-- A description that names a style, without an event or a parameter in it. -/
structure IsStyle (description : String) : Prop where
  bareTag : bareTag ('[' :: (description.toList ++ [']'])) = some (description.toList, [])
  noParameters : '=' ∉ description.toList
  noClosing : description.toList.head? ≠ some '/'
  noHandler : description.toList.head? ≠ some '@'
  named : (Style.ofDescription description.toList).toOption.map Style.name = some description

namespace IsStyle

variable {description : String}

theorem readable (h : IsStyle description) :
    (Style.ofDescription description.toList).isOk = true := by
  have hn := h.named
  cases hs : Style.ofDescription description.toList with
  | ok style => rfl
  | error error =>
      rw [hs] at hn
      cases hn

theorem canonicalStyle_eq (h : IsStyle description) :
    canonicalStyle description.toList = .ok description := by
  have hn := h.named
  unfold canonicalStyle
  cases hs : Style.ofDescription description.toList with
  | ok style =>
      rw [hs] at hn
      exact congrArg Except.ok (Option.some.inj hn)
  | error error =>
      rw [hs] at hn
      cases hn

/-- The tag opens the style from the text that is there. -/
theorem follow_eq (h : IsStyle description) (display : Display) (position : Nat) :
    display.follow position description.toList =
      .ok { display with
        opened := ⟨display.text.length, description, none⟩ :: display.opened } := by
  have hne : ∀ c ∈ description.toList, decide (c ≠ '=') = true := fun c hc =>
    decide_eq_true fun he => h.noParameters (he ▸ hc)
  have htake : description.toList.takeWhile (fun c => decide (c ≠ '=')) = description.toList :=
    List.takeWhile_eq_self_iff.mpr hne
  have hdrop : description.toList.dropWhile (fun c => decide (c ≠ '=')) = [] :=
    List.dropWhile_eq_nil_iff.mpr hne
  have hcut : Text.cut? '=' description.toList = none := by rw [Text.cut?, hdrop]
  unfold Display.follow
  rw [hcut, htake]
  split
  · rename_i closed hc
    exact absurd (congrArg List.head? hc) h.noClosing
  · rw [h.canonicalStyle_eq]
    rfl

theorem opens (h : IsStyle description) : Opens description ⟨0, description, none⟩ where
  bareTag := h.bareTag
  follow := h.follow_eq {} 0
  notHandler := decide_eq_false h.noHandler
  readable := by
    have hd : OpenTag.description ⟨0, description, none⟩ = description.toList := List.append_nil _
    rw [hd]
    exact h.readable

end IsStyle

/-- The styles that lines of the program have. -/
theorem isStyle_of_mem {description : String}
    (h : description ∈ ["bold red", "yellow", "bold green", "cyan", "bold yellow"]) :
    IsStyle description := by
  have hnamed : ["bold red", "yellow", "bold green", "cyan", "bold yellow"].all (fun description =>
      (Style.ofDescription description.toList).toOption.map Style.name = some description) = true := by
    decide +kernel
  refine ⟨?_, ?_, ?_, ?_, of_decide_eq_true (List.all_eq_true.mp hnamed _ h)⟩
  all_goals
    clear hnamed
    revert description
    decide

theorem red_opens : Opens "bold red" ⟨0, "bold red", none⟩ := (isStyle_of_mem (by decide)).opens

/-- Markup whose styles are closed one after another, where one may be open already. -/
inductive Styled : Option String → List Markup → Prop
  | nil : Styled none []
  | run {inside text items} (h : Styled inside items) : Styled inside (.run text :: items)
  | opening {description items} (hs : IsStyle description) (h : Styled (some description) items) :
      Styled none (.tag 0 description.toList :: items)
  | closing {description items} (h : Styled none items) :
      Styled (some description) (.tag 0 ['/'] :: items)

theorem Styled.prepend {inside : Option String} {items : List Markup} (h : Styled inside items)
    (c : Char) : Styled inside (prepend c items) := by
  cases h with
  | nil => exact .run .nil
  | run h => exact .run h
  | opening hs h => exact .run (.opening hs h)
  | closing h => exact .run (.closing h)

/-- A display in which one style may be open, and all others are closed and can be read. -/
structure Display.Inside (display : Display) (inside : Option String) : Prop where
  opened : ∃ start, display.opened = inside.toList.map fun description => ⟨start, description, none⟩
  isStyle : ∀ description ∈ inside, IsStyle description
  spans : ∀ span ∈ display.spans, (Style.ofDescription span.description).isOk = true

theorem Display.Inside.write {display : Display} {inside : Option String} (h : display.Inside inside)
    (text : List Char) : (display.write text).Inside inside :=
  ⟨h.opened, h.isStyle, h.spans⟩

/-- Such markup leaves no style open, and every style that it closes can be read. -/
theorem Styled.extend {inside : Option String} {items : List Markup} (h : Styled inside items)
    {display : Display} (hd : display.Inside inside) (position : Nat) :
    ∃ after, Display.extend position display items = .ok after ∧ after.Inside none := by
  induction h generalizing display position with
  | nil => exact ⟨display, rfl, hd⟩
  | run h ih =>
      rw [Display.extend]
      exact ih (hd.write _) _
  | @opening description items hs h ih =>
      obtain ⟨start, hopened⟩ := hd.opened
      have hw : display.write (List.replicate (0 / 2) '\\') = display := by simp [Display.write]
      rw [Display.extend, if_neg (by decide), hw, hs.follow_eq]
      apply ih
      refine ⟨⟨display.text.length, ?_⟩, fun other ho => ?_, hd.spans⟩
      · rw [hopened]
        rfl
      · cases ho
        exact hs
  | @closing description items h ih =>
      obtain ⟨start, hopened⟩ := hd.opened
      have hs : IsStyle description := hd.isStyle description rfl
      have hw : display.write (List.replicate (0 / 2) '\\') = display := by simp [Display.write]
      have hhandler : OpenTag.isHandler ⟨start, description, none⟩ = false :=
        decide_eq_false hs.noHandler
      rw [Display.extend, if_neg (by decide), hw, Display.follow_closing hopened hhandler]
      apply ih
      refine ⟨⟨start, rfl⟩, fun other ho => ?_, List.forall_mem_cons.mpr ⟨?_, hd.spans⟩⟩
      · cases ho
      · have hspan : (display.spanOf ⟨start, description, none⟩).description = description.toList :=
          List.append_nil _
        rw [hspan]
        exact hs.readable

variable {width : Nat}

theorem legible_of_styled {markup : String} (h : Styled none (Markup.scan markup.toList)) :
    Legible width markup := by
  have hinside : ({} : Display).Inside none :=
    ⟨⟨0, rfl⟩, fun _ ho => absurd ho (Option.not_mem_none _), List.forall_mem_nil _⟩
  obtain ⟨display, hextend, hd⟩ := h.extend hinside 0
  obtain ⟨start, hopened⟩ := hd.opened
  refine legible_of_extend hextend ?_
  rw [Display.isReadable, Display.stretches, hopened]
  exact List.all_eq_true.mpr hd.spans

/-! ### Texts with styles -/

/-- A text that goes from inside of one style, or of none, to inside of another. -/
def Passes (inside outside : Option String) (text : List Char) : Prop :=
  ∀ rest, Styled outside (Markup.scan rest) → Styled inside (Markup.scan (text ++ rest))

theorem Passes.append {first second third : Option String} {text more : List Char}
    (h : Passes first second text) (hm : Passes second third more) :
    Passes first third (text ++ more) := by
  intro rest hr
  rw [List.append_assoc]
  exact h _ (hm rest hr)

theorem passes_plain {words : String} (h : isPlain words = true) (inside : Option String) :
    Passes inside inside words.toList := by
  have hall : ∀ c ∈ words.toList, c ≠ '[' ∧ c ≠ '\\' := fun c hc =>
    of_decide_eq_true (List.all_eq_true.mp h c hc)
  intro rest hr
  generalize words.toList = text at hall
  induction text with
  | nil => exact hr
  | cons c tail ih =>
      obtain ⟨hc, htail⟩ := List.forall_mem_cons.mp hall
      rw [List.cons_append, scan_of_no_tag (tagAt_of_plain hc _)]
      exact (ih htail).prepend c

theorem passes_opening {description : String} (hs : IsStyle description) :
    Passes none (some description) ('[' :: (description.toList ++ [']'])) := by
  intro rest hr
  have htag := tagAt_of_head (c := '[') (by decide) (description.toList ++ ']' :: rest)
  rw [bareTag_of_some hs.bareTag] at htag
  rw [List.cons_append, List.append_assoc, List.singleton_append, scan_of_tag htag]
  exact .opening hs hr

theorem passes_closing (description : String) : Passes (some description) none ['[', '/', ']'] := by
  intro rest hr
  have hbare : bareTag ['[', '/', ']'] = some (['/'], []) := by decide
  have htag := tagAt_of_head (c := '[') (by decide) (['/'] ++ ']' :: rest)
  rw [bareTag_of_some hbare] at htag
  change Styled (some description) (Markup.scan ('[' :: (['/'] ++ ']' :: rest)))
  rw [scan_of_tag htag]
  exact .closing hr

/-- Words in a style among plain words. -/
theorem passes_within {before description words after : String} (hs : IsStyle description)
    (hb : isPlain before = true) (hw : isPlain words = true) (ha : isPlain after = true) :
    Passes none none (before ++ "[" ++ description ++ "]" ++ words ++ "[/]" ++ after).toList := by
  have hlist : (before ++ "[" ++ description ++ "]" ++ words ++ "[/]" ++ after).toList =
      before.toList ++ ('[' :: (description.toList ++ [']']) ++
        (words.toList ++ (['[', '/', ']'] ++ after.toList))) := by
    simp [String.toList_append]
  rw [hlist]
  exact (passes_plain hb none).append ((passes_opening hs).append
    ((passes_plain hw _).append ((passes_closing description).append (passes_plain ha none))))

theorem isDigit_of_mem_digits {count : Nat} {c : Char} (h : c ∈ (toString count).toList) :
    c.isDigit = true := by
  have hchars : (toString count).toList = Nat.toDigits 10 count := Nat.toList_repr
  exact Nat.isDigit_of_mem_toDigits (by decide) (by decide) (hchars ▸ h)

theorem isPlain_digits (count : Nat) : isPlain (toString count) = true := by
  refine List.all_eq_true.mpr fun c hc => decide_eq_true ?_
  have hd := isDigit_of_mem_digits hc
  constructor
  · rintro rfl
    exact absurd hd (by decide)
  · rintro rfl
    exact absurd hd (by decide)

theorem legible_of_passes {markup : String} (h : Passes none none markup.toList) :
    Legible width markup := by
  have hend : Styled none (Markup.scan []) := by
    rw [Markup.scan]
    exact .nil
  refine legible_of_styled ?_
  have hall := h [] hend
  rwa [List.append_nil] at hall

end ToolSchema.Console
