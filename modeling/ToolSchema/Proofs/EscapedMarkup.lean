import Mathlib.Data.List.TakeWhile
import ToolSchema.Console.Display

/-! An escaped text inside a style. Before every tag of an escaped text stands an odd number of
backslashes, so none of them means anything, whatever the text was and whatever stands before it. Only
the tag that closes the style is left, and it closes it. So a line of this form can be shown as far as it
can be encoded. -/

namespace ToolSchema.Console

/-- The characters of a text with every tag made meaningless. -/
def escapeChars (text : List Char) : List Char := (Markup.scan text).flatMap Markup.escaped

/-- The tag that closes a style, after some backslashes. -/
def closing (backslashes : Nat) : List Char := List.replicate backslashes '\\' ++ ['[', '/', ']']

/-- Markup in which no tag means anything but the last, which closes a style. -/
inductive Closes : List Markup → Prop
  | run {text items} (h : Closes items) : Closes (.run text :: items)
  | shown {backslashes content items} (ho : backslashes % 2 = 1) (h : Closes items) :
      Closes (.tag backslashes content :: items)
  | last {backslashes} : Closes [.tag backslashes ['/']]

/-! ### Tags -/

variable {text rest content : List Char} {backslashes : Nat}

theorem scan_of_tag {first : Markup} (h : tagAt text = some (first, rest)) :
    Markup.scan text = first :: Markup.scan rest := by
  cases text with
  | nil => cases h
  | cons c tail =>
      rw [Markup.scan]
      split
      · rename_i hf
        cases h.symm.trans hf
        rfl
      · rename_i hn
        cases h.symm.trans hn

theorem scan_of_no_tag {c : Char} (h : tagAt (c :: rest) = none) :
    Markup.scan (c :: rest) = prepend c (Markup.scan rest) := by
  rw [Markup.scan]
  split
  · rename_i hf
    cases h.symm.trans hf
  · rfl

theorem upToBracket_of_some {inside : List Char} (h : upToBracket text = some (inside, rest))
    (other : List Char) : upToBracket (inside ++ ']' :: other) = some (inside, other) := by
  induction text generalizing inside with
  | nil => cases h
  | cons c tail ih =>
      unfold upToBracket at h
      split at h
      · cases h
        rfl
      · split at h
        · cases h
        · rename_i hc ho
          obtain ⟨⟨before, after⟩, hf, he⟩ := Option.map_eq_some_iff.mp h
          cases he
          rw [List.cons_append, upToBracket, if_neg hc, if_neg ho, ih hf]
          rfl

/-- What is a tag somewhere is one wherever it stands. -/
theorem bareTag_of_some (h : bareTag text = some (content, rest)) (other : List Char) :
    bareTag ('[' :: (content ++ ']' :: other)) = some (content, other) := by
  unfold bareTag at h
  split at h
  · split at h
    · rename_i hc
      obtain ⟨⟨before, after⟩, hf, he⟩ := Option.map_eq_some_iff.mp h
      cases he
      rw [List.cons_append, bareTag, if_pos hc, upToBracket_of_some hf]
      rfl
    · cases h
  · cases h

theorem bareTag_of_ne {c : Char} (h : c ≠ '[') (rest : List Char) : bareTag (c :: rest) = none := by
  unfold bareTag
  split
  · rename_i he
    exact absurd (List.cons.inj he).1 h
  · rfl

theorem bareTag_of_not_startsTag {c : Char} (h : startsTag c = false) (rest : List Char) :
    bareTag ('[' :: c :: rest) = none := by
  rw [bareTag, h]
  rfl

theorem tagAt_backslashes (h : text.head? ≠ some '\\') (backslashes : Nat) :
    tagAt (List.replicate backslashes '\\' ++ text) =
      (bareTag text).map fun found => (.tag backslashes found.1, found.2) := by
  have hnone : text.dropWhile (· = '\\') = text ∧ text.takeWhile (· = '\\') = [] := by
    cases text with
    | nil => exact ⟨rfl, rfl⟩
    | cons c tail =>
        have hc : c ≠ '\\' := fun he => h (congrArg some he)
        simp [hc]
  have hd : (List.replicate backslashes '\\' ++ text).dropWhile (· = '\\') = text := by
    rw [List.dropWhile_append_of_pos (by simp), hnone.1]
  have ht : (List.replicate backslashes '\\' ++ text).takeWhile (· = '\\') =
      List.replicate backslashes '\\' := by
    rw [List.takeWhile_append_of_pos (by simp), hnone.2, List.append_nil]
  rw [tagAt, hd, ht, List.length_replicate]

theorem tagAt_closing (backslashes : Nat) :
    tagAt (closing backslashes) = some (.tag backslashes ['/'], []) :=
  tagAt_backslashes (by decide) backslashes

/-! ### What escaping leaves of a text -/

theorem escapeChars_nil : escapeChars [] = [] := by
  rw [escapeChars, Markup.scan]
  rfl

theorem escapeChars_of_tag (h : tagAt text = some (.tag backslashes content, rest)) :
    escapeChars text = List.replicate (2 * backslashes + 1) '\\' ++
      '[' :: (content ++ ']' :: escapeChars rest) := by
  rw [escapeChars, scan_of_tag h, List.flatMap_cons]
  simp [Markup.escaped, Markup.written, escapeChars]

theorem flatMap_prepend (c : Char) (items : List Markup) :
    (prepend c items).flatMap Markup.escaped = c :: items.flatMap Markup.escaped := by
  cases items with
  | nil => rfl
  | cons first others => cases first <;> rfl

theorem escapeChars_of_no_tag {c : Char} (h : tagAt (c :: rest) = none) :
    escapeChars (c :: rest) = c :: escapeChars rest := by
  rw [escapeChars, scan_of_no_tag h, flatMap_prepend]
  rfl

theorem bareTag_of_tagAt (h : tagAt text = some (.tag backslashes content, rest)) :
    ∃ inner, bareTag inner = some (content, rest) := by
  obtain ⟨found, hf, he⟩ := Option.map_eq_some_iff.mp h
  cases he
  exact ⟨_, hf⟩

theorem exists_tag {first : Markup} (h : tagAt text = some (first, rest)) :
    ∃ backslashes content, first = .tag backslashes content := by
  obtain ⟨found, -, he⟩ := Option.map_eq_some_iff.mp h
  cases he
  exact ⟨_, _, rfl⟩

/-- Nothing but a backslash can come to stand before an escaped text. -/
theorem head_escapeChars (c : Char) (rest : List Char) :
    ∃ tail, escapeChars (c :: rest) = c :: tail ∨ escapeChars (c :: rest) = '\\' :: tail := by
  cases h : tagAt (c :: rest) with
  | none => exact ⟨_, Or.inl (escapeChars_of_no_tag h)⟩
  | some found =>
      obtain ⟨first, after⟩ := found
      obtain ⟨backslashes, content, rfl⟩ := exists_tag h
      exact ⟨_, Or.inr (by rw [escapeChars_of_tag h, List.replicate_succ, List.cons_append])⟩

theorem tagAt_of_head {c : Char} (hc : c ≠ '\\') (rest : List Char) :
    tagAt (c :: rest) = (bareTag (c :: rest)).map fun found => (.tag 0 found.1, found.2) := by
  have hh : (c :: rest).head? ≠ some '\\' := fun h => hc (Option.some.inj h)
  exact tagAt_backslashes hh 0

theorem tagAt_of_plain {c : Char} (h : c ≠ '[' ∧ c ≠ '\\') (rest : List Char) :
    tagAt (c :: rest) = none := by
  rw [tagAt_of_head h.2, bareTag_of_ne h.1]
  rfl

/-- Backslashes that no tag follows stay as they are. -/
theorem escapeChars_backslashes (hh : text.head? ≠ some '\\') (hn : bareTag text = none)
    (backslashes : Nat) :
    escapeChars (List.replicate backslashes '\\' ++ text) =
      List.replicate backslashes '\\' ++ escapeChars text := by
  induction backslashes with
  | zero => rfl
  | succ n ih =>
      have ht : tagAt ('\\' :: (List.replicate n '\\' ++ text)) = none := by
        have h := tagAt_backslashes hh (n + 1)
        rw [hn, List.replicate_succ] at h
        exact h
      rw [List.replicate_succ, List.cons_append, escapeChars_of_no_tag ht, ih]
      rfl

/-! ### An escaped text before a closing tag -/

theorem upToBracket_backslashes (backslashes : Nat) (rest : List Char) :
    upToBracket (List.replicate backslashes '\\' ++ '[' :: rest) = none := by
  induction backslashes with
  | zero => rfl
  | succ n ih =>
      rw [List.replicate_succ, List.cons_append, upToBracket, if_neg (by decide),
        if_neg (by decide), ih]
      rfl

theorem upToBracket_escaped (h : upToBracket text = none) (backslashes : Nat) :
    upToBracket (escapeChars text ++ closing backslashes) = none := by
  induction text with
  | nil =>
      rw [escapeChars_nil]
      exact upToBracket_backslashes backslashes _
  | cons c rest ih =>
      cases ht : tagAt (c :: rest) with
      | some found =>
          obtain ⟨first, after⟩ := found
          obtain ⟨count, content, rfl⟩ := exists_tag ht
          rw [escapeChars_of_tag ht, List.append_assoc]
          exact upToBracket_backslashes _ _
      | none =>
          rw [escapeChars_of_no_tag ht, List.cons_append, upToBracket]
          rw [upToBracket] at h
          split at h
          · cases h
          · rename_i hc
            rw [if_neg hc]
            split
            · rfl
            · rename_i ho
              rw [if_neg ho] at h
              rw [ih (Option.map_eq_none_iff.mp h)]
              rfl

/-- Escaping makes no tag where there was none, also not with the closing tag after it. -/
theorem bareTag_escaped {c : Char} (hc : c ≠ '\\') (h : bareTag (c :: rest) = none)
    (backslashes : Nat) :
    bareTag (escapeChars (c :: rest) ++ closing backslashes) = none := by
  have hn : tagAt (c :: rest) = none := by rw [tagAt_of_head hc, h]; rfl
  rw [escapeChars_of_no_tag hn, List.cons_append]
  by_cases ho : c = '['
  · subst ho
    cases rest with
    | nil =>
        rw [escapeChars_nil]
        cases backslashes with
        | zero => exact bareTag_of_not_startsTag (c := '[') (by decide) _
        | succ n => exact bareTag_of_not_startsTag (c := '\\') (by decide) _
    | cons d tail =>
        cases hd : startsTag d with
        | false =>
            obtain ⟨more, he | he⟩ := head_escapeChars d tail
            · rw [he]
              exact bareTag_of_not_startsTag hd _
            · rw [he]
              exact bareTag_of_not_startsTag (c := '\\') (by decide) _
        | true =>
            rw [bareTag, hd, if_pos rfl] at h
            have hopen : d ≠ '[' := by
              rintro rfl
              exact absurd hd (by decide)
            have hback : d ≠ '\\' := by
              rintro rfl
              exact absurd hd (by decide)
            have hnext : tagAt (d :: tail) = none := by
              rw [tagAt_of_head hback, bareTag_of_ne hopen]
              rfl
            rw [escapeChars_of_no_tag hnext, List.cons_append, bareTag, hd, if_pos rfl,
              upToBracket_escaped (Option.map_eq_none_iff.mp h)]
            rfl
  · exact bareTag_of_ne ho _

/-- Where a text has no tag, the escaped text before the closing tag has none, or it is that tag. -/
theorem tagAt_escaped (h : tagAt text = none) (backslashes : Nat) :
    tagAt (escapeChars text ++ closing backslashes) = none ∨
      ∃ count, escapeChars text ++ closing backslashes = closing count := by
  -- The text after its first backslashes decides: it is empty, or it begins with something else.
  let count := (text.takeWhile (· = '\\')).length
  have hsplit : text = List.replicate count '\\' ++ text.dropWhile (· = '\\') := by
    have ht : text.takeWhile (· = '\\') = List.replicate count '\\' :=
      List.eq_replicate_iff.mpr ⟨rfl, fun c hc => by simpa using List.mem_takeWhile_imp hc⟩
    rw [← ht, List.takeWhile_append_dropWhile]
  have hhead : (text.dropWhile (· = '\\')).head? ≠ some '\\' := by
    intro hb
    have hn := List.head?_dropWhile_not (fun c => decide (c = '\\')) text
    rw [hb] at hn
    exact absurd hn (by decide)
  have hbare : bareTag (text.dropWhile (· = '\\')) = none := Option.map_eq_none_iff.mp h
  rw [hsplit, escapeChars_backslashes hhead hbare]
  cases hr : text.dropWhile (· = '\\') with
  | nil =>
      refine Or.inr ⟨count + backslashes, ?_⟩
      rw [escapeChars_nil, List.append_nil, closing, closing, ← List.append_assoc,
        List.replicate_append_replicate]
  | cons c rest =>
      rw [hr] at hhead hbare
      have hc : c ≠ '\\' := fun he => hhead (congrArg some he)
      have hn : tagAt (c :: rest) = none := by
        rw [tagAt_of_head hc, hbare]
        rfl
      left
      rw [List.append_assoc, tagAt_backslashes, bareTag_escaped hc hbare]
      · rfl
      · rw [escapeChars_of_no_tag hn]
        exact hhead

theorem Closes.prepend {items : List Markup} (h : Closes items) (c : Char) :
    Closes (prepend c items) := by
  cases h with
  | run h => exact .run h
  | shown ho h => exact .run (.shown ho h)
  | last => exact .run .last

theorem closes_closing (backslashes : Nat) : Closes (Markup.scan (closing backslashes)) := by
  rw [scan_of_tag (tagAt_closing backslashes), Markup.scan]
  exact .last

theorem closes_escaped (text : List Char) (backslashes : Nat) :
    Closes (Markup.scan (escapeChars text ++ closing backslashes)) := by
  induction hn : text.length using Nat.strongRecOn generalizing text with
  | _ n ih =>
      subst hn
      cases text with
      | nil =>
          rw [escapeChars_nil]
          exact closes_closing backslashes
      | cons c rest =>
          cases ht : tagAt (c :: rest) with
          | some found =>
              obtain ⟨first, after⟩ := found
              obtain ⟨count, content, rfl⟩ := exists_tag ht
              obtain ⟨inner, hbare⟩ := bareTag_of_tagAt ht
              have hh : ('[' :: (content ++ ']' :: (escapeChars after ++
                  closing backslashes))).head? ≠ some '\\' := by simp
              have hnext := tagAt_backslashes hh (2 * count + 1)
              rw [bareTag_of_some hbare] at hnext
              rw [escapeChars_of_tag ht, List.append_assoc, List.cons_append, List.append_assoc,
                List.cons_append, scan_of_tag hnext]
              exact .shown (by omega) (ih after.length (length_tagAt ht) after rfl)
          | none =>
              rcases tagAt_escaped ht backslashes with h | ⟨count, h⟩
              · rw [escapeChars_of_no_tag ht, List.cons_append] at h ⊢
                rw [scan_of_no_tag h]
                exact (ih rest.length (Nat.lt_succ_self _) rest rfl).prepend c
              · rw [h]
                exact closes_closing count

/-- Plain characters before such markup change nothing. -/
theorem closes_append {lead : List Char} (hl : ∀ c ∈ lead, c ≠ '[' ∧ c ≠ '\\')
    (h : Closes (Markup.scan text)) : Closes (Markup.scan (lead ++ text)) := by
  induction lead with
  | nil => exact h
  | cons c tail ih =>
      obtain ⟨hc, htail⟩ := List.forall_mem_cons.mp hl
      rw [List.cons_append, scan_of_no_tag (tagAt_of_plain hc _)]
      exact (ih htail).prepend c

theorem toList_escape (text : String) :
    ∃ backslashes, (escape text).toList =
      escapeChars text.toList ++ List.replicate backslashes '\\' := by
  unfold escape
  dsimp only
  split
  · exact ⟨0, by simp [escapeChars]⟩
  · exact ⟨1, by simp [escapeChars]⟩
  · exact ⟨0, by simp [escapeChars]⟩

/-! ### What is shown -/

theorem Display.follow_closing {display : Display} {tag : OpenTag} (ho : display.opened = [tag])
    (ht : tag.isHandler = false) (position : Nat) :
    display.follow position ['/'] =
      .ok { display with opened := [], spans := display.spanOf tag :: display.spans } := by
  have hname : ['/'].takeWhile (· ≠ '=') = ['/'] := by decide
  have htrim : Text.trim [] = [] := by decide
  unfold Display.follow
  rw [hname]
  split
  · rename_i closed hc
    cases hc
    rw [if_pos htrim, ho]
    dsimp only
    rw [Display.close, ht, ho]
    simp only [List.erase_cons_head]
    rfl
  · rename_i hopened
    exact absurd rfl (hopened [])

/-- Inside one style such markup leaves it open or closes it, and meets no error. -/
theorem Closes.extend {items : List Markup} (h : Closes items) {display : Display} {tag : OpenTag}
    (ho : display.opened = [tag]) (hs : display.spans = []) (ht : tag.isHandler = false)
    (position : Nat) :
    ∃ after, Display.extend position display items = .ok after ∧
      ((after.opened = [tag] ∧ after.spans = []) ∨
        (after.opened = [] ∧ ∃ span, after.spans = [span] ∧ span.description = tag.description)) := by
  induction h generalizing display position with
  | @run text items h ih =>
      have hw : (display.write (shownRun text)).opened = [tag] := ho
      rw [Display.extend]
      exact ih hw hs _
  | @shown backslashes content items hodd h ih =>
      have hw : ((display.write (List.replicate (backslashes / 2) '\\')).write
          (shownRun ('[' :: content ++ [']']))).opened = [tag] := ho
      rw [Display.extend, if_pos hodd]
      exact ih hw hs _
  | @last backslashes =>
      have hw : (display.write (List.replicate (backslashes / 2) '\\')).opened = [tag] := ho
      rw [Display.extend]
      split
      · exact ⟨_, rfl, Or.inl ⟨ho, hs⟩⟩
      · rw [Display.follow_closing hw ht]
        exact ⟨_, rfl, Or.inr ⟨rfl, _, congrArg _ hs, rfl⟩⟩

/-- The stretches of all styles before they are put in order. -/
def Display.stretches (display : Display) : List Span :=
  display.opened.foldl (fun spans tag => display.spanOf tag :: spans) display.spans

def Display.isReadable (display : Display) : Bool :=
  display.stretches.all fun span => (Style.ofDescription span.description).isOk

/-- Where every style can be read, neither the order of the stretches nor the lines matter. -/
theorem colorError?_of_isReadable {display : Display} (h : display.isReadable = true)
    (lines : List (List Laid)) : display.colorError? lines = none := by
  refine List.findSome?_eq_none_iff.mpr fun span hm => ?_
  have hspan : span ∈ display.stretches := List.mem_mergeSort.mp (List.mem_filter.mp hm).1
  have hok := List.all_eq_true.mp h span hspan
  cases hs : Style.ofDescription span.description with
  | ok style => rfl
  | error error =>
      rw [hs] at hok
      cases hok

theorem isReadable_of_single {display : Display} {tag : OpenTag}
    (h : (display.opened = [tag] ∧ display.spans = []) ∨
      (display.opened = [] ∧
        ∃ span, display.spans = [span] ∧ span.description = tag.description))
    (ht : (Style.ofDescription tag.description).isOk = true) : display.isReadable = true := by
  rcases h with ⟨ho, hs⟩ | ⟨ho, span, hs, hd⟩
  · have hspan : (display.spanOf tag).description = tag.description := rfl
    simpa [Display.isReadable, Display.stretches, ho, hs, hspan] using ht
  · simpa [Display.isReadable, Display.stretches, ho, hs, hd] using ht

/-- Markup that can be shown. -/
def Showable (width : Nat) (markup : String) : Prop := ∃ text, plain width markup = .ok text

/-- Markup that can be shown unless its text cannot be encoded. -/
def Legible (width : Nat) (markup : String) : Prop :=
  ∀ error, plain width markup = .error error → error = .unencodable

variable {width : Nat}

/-- What is shown of markup whose styles can all be read. -/
theorem plain_of_extend {markup : String} {display : Display}
    (h : Display.extend 0 {} (Markup.scan markup.toList) = .ok display)
    (hr : display.isReadable = true) :
    plain width markup =
      if Text.holdsHalf display.text then .error .unencodable
      else .ok (String.ofList (Laid.text (layOut width display.text) ++ ['\n'])) := by
  simp only [plain, h, bind, Except.bind, colorError?_of_isReadable hr]
  rfl

theorem legible_of_extend {markup : String} {display : Display}
    (h : Display.extend 0 {} (Markup.scan markup.toList) = .ok display)
    (hr : display.isReadable = true) : Legible width markup := by
  intro error herror
  rw [plain_of_extend h hr] at herror
  split at herror <;> cases herror
  rfl

/-- The tag of a description opens a style that can be read. -/
structure Opens (description : String) (tag : OpenTag) : Prop where
  bareTag : bareTag ('[' :: (description.toList ++ [']'])) = some (description.toList, [])
  follow : Display.follow {} 0 description.toList = .ok { opened := [tag] }
  notHandler : tag.isHandler = false
  readable : (Style.ofDescription tag.description).isOk = true

theorem extend_of_follow {display inner : Display} {position : Nat} {items : List Markup}
    (h : display.follow position content = .ok inner) :
    Display.extend position display (.tag 0 content :: items) =
      Display.extend (position + content.length + 2) inner items := by
  have hw : display.write (List.replicate (0 / 2) '\\') = display := by simp [Display.write]
  rw [Display.extend, if_neg (by decide), hw, Nat.add_zero, h]

/-- Words in which no tag begins. -/
def isPlain (words : String) : Bool := words.toList.all fun c => c ≠ '[' ∧ c ≠ '\\'

/-- A text after plain words in one style only has to be encoded, whatever it is. -/
theorem legible_in_style {description lead : String} {tag : OpenTag} (ho : Opens description tag)
    (hl : isPlain lead = true) (text : String) :
    Legible width ("[" ++ description ++ "]" ++ lead ++ escape text ++ "[/]") := by
  obtain ⟨backslashes, htext⟩ := toList_escape text
  have hlist : ("[" ++ description ++ "]" ++ lead ++ escape text ++ "[/]").toList =
      '[' :: (description.toList ++ ']' ::
        (lead.toList ++ (escapeChars text.toList ++ closing backslashes))) := by
    simp [String.toList_append, htext, closing]
  have htag := tagAt_of_head (c := '[') (by decide) (description.toList ++ ']' ::
    (lead.toList ++ (escapeChars text.toList ++ closing backslashes)))
  rw [bareTag_of_some ho.bareTag] at htag
  have hlead : ∀ c ∈ lead.toList, c ≠ '[' ∧ c ≠ '\\' := fun c hc =>
    of_decide_eq_true (List.all_eq_true.mp hl c hc)
  have hcloses := closes_append hlead (closes_escaped text.toList backslashes)
  have hstyled : ({ opened := [tag] } : Display).opened = [tag] := rfl
  obtain ⟨display, hextend, hopened⟩ := hcloses.extend hstyled rfl ho.notHandler
    (0 + description.toList.length + 2)
  have hreadable : display.isReadable = true := isReadable_of_single hopened ho.readable
  have hshown : Display.extend 0 {} (Markup.scan
      ("[" ++ description ++ "]" ++ lead ++ escape text ++ "[/]").toList) = .ok display := by
    rw [hlist, scan_of_tag htag, extend_of_follow ho.follow, hextend]
  exact legible_of_extend hshown hreadable

end ToolSchema.Console
