import ToolSchema.Proofs.EscapedMarkup
import ToolSchema.Proofs.LaidOutLines

/-! Markup that can be encoded. Scanning loses nothing of a text (`flatMap_written_scan`), and what is shown
of markup is a part of it unless an emoji takes the place of its code (`Display.extend_sublist`). So where
no half of a character is written, none is shown, and markup that only has to be encoded can be shown
(`Legible.showable`). -/

namespace ToolSchema

/-! ### Halves -/

theorem Text.holdsHalf_of_not_mem {text : List Char} (h : halfSign ∉ text) : holdsHalf text = false := by
  fun_induction holdsHalf text with
  | case1 sign told rest ih =>
      obtain ⟨hsign, hrest⟩ := not_or.mp fun hm => h (List.mem_cons.mpr hm)
      rw [ih hrest, halfUnit?, if_neg fun hs => hsign hs.1.symm]
      rfl
  | case2 => rfl

namespace Console

variable {text inside rest content : List Char} {backslashes : Nat}

/-! ### Markup as it was written -/

theorem upToBracket_eq (h : upToBracket text = some (inside, rest)) : text = inside ++ ']' :: rest := by
  induction text generalizing inside with
  | nil => cases h
  | cons c tail ih =>
      unfold upToBracket at h
      split at h
      · rename_i hc
        cases h
        rw [hc, List.nil_append]
      · split at h
        · cases h
        · obtain ⟨⟨before, after⟩, hf, he⟩ := Option.map_eq_some_iff.mp h
          cases he
          rw [ih hf, List.cons_append]

theorem bareTag_eq (h : bareTag text = some (content, rest)) :
    text = '[' :: (content ++ ']' :: rest) := by
  unfold bareTag at h
  split at h
  · split at h
    · obtain ⟨⟨before, after⟩, hf, he⟩ := Option.map_eq_some_iff.mp h
      cases he
      rw [upToBracket_eq hf, List.cons_append]
    · cases h
  · cases h

theorem tagAt_eq {first : Markup} (h : tagAt text = some (first, rest)) :
    text = first.written ++ rest := by
  obtain ⟨⟨content, after⟩, hf, he⟩ := Option.map_eq_some_iff.mp h
  cases he
  have hback : text.takeWhile (· = '\\') = List.replicate (text.takeWhile (· = '\\')).length '\\' :=
    List.eq_replicate_of_mem fun c hc =>
      of_decide_eq_true (List.all_eq_true.mp List.all_takeWhile c hc)
  have hsplit : text.takeWhile (· = '\\') ++ text.dropWhile (· = '\\') = text :=
    List.takeWhile_append_dropWhile
  rw [bareTag_eq hf, hback] at hsplit
  simp only [Markup.written, List.append_assoc, List.cons_append]
  exact hsplit.symm

theorem written_prepend (c : Char) (items : List Markup) :
    (prepend c items).flatMap Markup.written = c :: items.flatMap Markup.written := by
  cases items with
  | nil => rfl
  | cons first others => cases first <;> rfl

/-- Scanning loses nothing of a text. -/
theorem flatMap_written_scan (text : List Char) : (Markup.scan text).flatMap Markup.written = text := by
  fun_induction Markup.scan text with
  | case1 => rfl
  | case2 c rest first after h hlt ih => rw [List.flatMap_cons, ih, ← tagAt_eq h]
  | case3 c rest h ih => rw [written_prepend, ih]

/-! ### What is shown of a run -/

theorem unescapeBrackets_sublist (text : List Char) : (unescapeBrackets text).Sublist text := by
  fun_induction unescapeBrackets text with
  | case1 rest ih => exact (ih.cons_cons '[').cons '\\'
  | case2 c rest _ ih => exact ih.cons_cons c
  | case3 => exact List.Sublist.refl []

/-- It takes two colons to write the code of an emoji. -/
theorem replaceEmoji_of_count_le (h : text.count ':' ≤ 1) : replaceEmoji text = text := by
  have hparts := Text.intercalate_splitOn ':' text
  have hlength : (Text.splitOn ':' text).length = text.count ':' + 1 := by
    rw [Text.splitOn, Text.length_splitWhere, List.count]
    exact congrArg (· + 1) (List.countP_congr fun c _ => by simp)
  unfold replaceEmoji
  rcases hs : Text.splitOn ':' text with _ | ⟨first, _ | ⟨second, _ | ⟨third, others⟩⟩⟩
  · exact absurd hs (Text.splitWhere_ne_nil _ text)
  · rw [hs] at hparts
    simpa [replaceParts] using hparts
  · rw [hs] at hparts
    simpa [replaceParts, List.intercalate_cons_cons] using hparts
  · rw [hs, List.length_cons, List.length_cons, List.length_cons] at hlength
    omega

theorem shownRun_sublist (h : text.count ':' ≤ 1) : (shownRun text).Sublist text := by
  have hunescape := unescapeBrackets_sublist text
  have hcount : (unescapeBrackets text).count ':' ≤ 1 := Nat.le_trans (hunescape.count_le ':') h
  rw [shownRun, replaceEmoji_of_count_le hcount]
  exact List.filter_sublist.trans hunescape

/-! ### What is shown of markup -/

namespace Display

variable {display inner after : Display} {position : Nat} {tag : OpenTag} {items : List Markup}
  {error : MarkupError}

theorem close_text (h : display.close tag = .ok inner) : inner.text = display.text := by
  unfold close at h
  dsimp only at h
  split at h
  · cases hc : checkHandler (tag.parameters.getD []) with
    | error error =>
        rw [hc] at h
        cases h
    | ok value =>
        rw [hc] at h
        cases h
        rfl
  · cases h
    rfl

/-- A tag shows nothing. -/
theorem follow_text (h : display.follow position content = .ok inner) : inner.text = display.text := by
  unfold follow at h
  dsimp only at h
  split at h
  · rename_i closed _
    split at h
    · split at h
      · cases h
      · exact close_text h
    · cases hs : canonicalStyle (Text.trim closed) with
      | error error =>
          rw [hs] at h
          cases h
      | ok style =>
          rw [hs] at h
          dsimp only [Except.mapError, bind, Except.bind] at h
          split at h
          · exact close_text h
          · cases h
  · rename_i opened _
    cases hs : canonicalStyle (content.takeWhile fun c => decide (c ≠ '=')) with
    | error error =>
        rw [hs] at h
        cases h
    | ok style =>
        rw [hs] at h
        cases h
        rfl

theorem close_refuses (h : display.close tag = .error error) : error ≠ .unencodable := by
  unfold close at h
  dsimp only at h
  split at h
  · cases hc : checkHandler (tag.parameters.getD []) with
    | error refusal =>
        rw [hc] at h
        cases h
        exact MarkupError.noConfusion
    | ok value =>
        rw [hc] at h
        cases h
  · cases h

/-- A tag is refused for what it says, not for how it would be encoded. -/
theorem follow_refuses (h : display.follow position content = .error error) :
    error ≠ .unencodable := by
  unfold follow at h
  dsimp only at h
  split at h
  · rename_i closed _
    split at h
    · split at h
      · cases h
        exact MarkupError.noConfusion
      · exact close_refuses h
    · cases hs : canonicalStyle (Text.trim closed) with
      | error refusal =>
          rw [hs] at h
          cases h
          exact MarkupError.noConfusion
      | ok style =>
          rw [hs] at h
          dsimp only [Except.mapError, bind, Except.bind] at h
          split at h
          · exact close_refuses h
          · cases h
            exact MarkupError.noConfusion
  · cases hs : canonicalStyle (content.takeWhile fun c => decide (c ≠ '=')) with
    | error refusal =>
        rw [hs] at h
        cases h
        exact MarkupError.noConfusion
    | ok style =>
        rw [hs] at h
        cases h

theorem extend_refuses (h : Display.extend position display items = .error error) :
    error ≠ .unencodable := by
  induction items generalizing display position with
  | nil => cases h
  | cons item rest ih =>
      cases item with
      | run text =>
          rw [Display.extend] at h
          exact ih h
      | tag backslashes content =>
          rw [Display.extend] at h
          split at h
          · exact ih h
          · split at h
            · rename_i refusal hrefusal
              cases h
              exact follow_refuses hrefusal
            · exact ih h

/-- What markup shows is a part of what was written. -/
theorem extend_sublist (hc : (items.flatMap Markup.written).count ':' ≤ 1)
    (h : Display.extend position display items = .ok after) :
    after.text.Sublist (display.text ++ items.flatMap Markup.written) := by
  induction items generalizing display position with
  | nil =>
      cases h
      rw [List.flatMap_nil, List.append_nil]
  | cons item rest ih =>
      rw [List.flatMap_cons, List.count_append] at hc
      have hitem : item.written.count ':' ≤ 1 := by omega
      have hrest : (rest.flatMap Markup.written).count ':' ≤ 1 := by omega
      -- Whatever is shown of the item itself, the rest of the markup goes on behind it.
      have hgoes {middle : Display} {next : Nat} (hm : middle.text.Sublist (display.text ++ item.written))
          (hn : Display.extend next middle rest = .ok after) :
          after.text.Sublist (display.text ++ (item :: rest).flatMap Markup.written) := by
        rw [List.flatMap_cons, ← List.append_assoc]
        exact (ih hrest hn).trans (hm.append_right _)
      cases item with
      | run text =>
          rw [Display.extend] at h
          exact hgoes ((shownRun_sublist hitem).append_left _) h
      | tag backslashes content =>
          have hback : (List.replicate (backslashes / 2) '\\').Sublist
              (List.replicate backslashes '\\') :=
            (List.replicate_sublist_replicate _).mpr (Nat.div_le_self _ _)
          have hbare : (List.replicate backslashes '\\' ++ ('[' :: content ++ [']'])).Sublist
              (Markup.tag backslashes content).written := by
            simp [Markup.written]
          rw [Display.extend] at h
          split at h
          · have hcount : ('[' :: content ++ [']']).count ':' ≤ 1 :=
              Nat.le_trans (((List.sublist_append_right _ _).trans hbare).count_le ':') hitem
            refine hgoes ?_ h
            rw [write, write, List.append_assoc]
            exact ((hback.append (shownRun_sublist hcount)).trans hbare).append_left _
          · split at h
            · cases h
            · rename_i inner hinner
              refine hgoes ?_ h
              rw [follow_text hinner, write]
              exact (hback.trans ((List.sublist_append_left _ _).trans hbare)).append_left _

end Display

/-! ### Markup that can be shown -/

variable {width : Nat} {markup : String}

/-- The console stops at its encoding for half a character alone. -/
theorem holdsHalf_of_unencodable (h : plain width markup = .error .unencodable) :
    ∃ display, Display.extend 0 {} (Markup.scan markup.toList) = .ok display ∧
      Text.holdsHalf display.text = true := by
  unfold plain at h
  cases hextend : Display.extend 0 {} (Markup.scan markup.toList) with
  | error error =>
      rw [hextend] at h
      cases h
      exact absurd rfl (Display.extend_refuses hextend)
  | ok display =>
      rw [hextend] at h
      dsimp only [bind, Except.bind] at h
      split at h
      · cases h
      · split at h
        · exact ⟨display, rfl, ‹_›⟩
        · cases h

/-- Where no half of a character is written, none is shown, unless an emoji holds one. -/
theorem Legible.showable (h : Legible width markup) (hw : Text.halfSign ∉ markup.toList)
    (hc : markup.toList.count ':' ≤ 1) : Showable width markup := by
  cases hp : plain width markup with
  | ok text => exact ⟨text, hp⟩
  | error error =>
      cases h error hp
      obtain ⟨display, hextend, hhalf⟩ := holdsHalf_of_unencodable hp
      have hsub := Display.extend_sublist (by rwa [flatMap_written_scan]) hextend
      rw [flatMap_written_scan, List.nil_append] at hsub
      rw [Text.holdsHalf_of_not_mem fun hm => hw (hsub.subset hm)] at hhalf
      cases hhalf

end Console

end ToolSchema
