import ToolSchema.Schema.Fragment

/-! Lines that list cases. A description may hold line breaks of any kind; where it is put on the line of
its case, a break at its very end is gone and every other break is a blank (`Text.joinedLines_eq`). So
none of these lines holds a break, and what is read back from the listing line by line is one line for
each documented case, whatever the descriptions are (`Enumeration.summary_lists_cases`). -/

namespace ToolSchema

namespace Text

/-- A text without a line break. -/
def Unbroken (text : List Char) : Prop := ∀ c ∈ text, isLineBreak c = false

instance (text : List Char) : Decidable (Unbroken text) := List.decidableBAll _ text

/-- A text whose last line break is gone where nothing follows it, and where a blank stands for every
other. A carriage return and the line feed after it are one break. -/
def unbreak : List Char → List Char
  | [] => []
  | '\r' :: '\n' :: rest => if rest = [] then [] else ' ' :: unbreak rest
  | c :: rest =>
    if isLineBreak c then if rest = [] then [] else ' ' :: unbreak rest
    else c :: unbreak rest

variable {text line rest : List Char}

theorem Unbroken.append (hl : Unbroken line) (hr : Unbroken rest) : Unbroken (line ++ rest) :=
  fun c hc => (List.mem_append.mp hc).elim (hl c) (hr c)

theorem lines_eq_nil_iff : lines text = [] ↔ text = [] := by
  fun_cases lines text <;> simp_all

/-- What stands between two breaks is written out, and each break is a blank. -/
theorem intercalate_lines (text : List Char) : [' '].intercalate (lines text) = unbreak text := by
  have hbreak (rest : List Char) (ih : [' '].intercalate (lines rest) = unbreak rest) :
      [' '].intercalate ([] :: lines rest) = if rest = [] then [] else ' ' :: unbreak rest := by
    cases hl : lines rest with
    | nil => simp [lines_eq_nil_iff.mp hl]
    | cons line more =>
        have hne : rest ≠ [] := fun h => by simp [h, lines] at hl
        rw [List.intercalate_cons_cons, ← hl, ih, if_neg hne]
        rfl
  fun_induction lines text with
  | case1 => rfl
  | case2 rest ih => rw [hbreak rest ih, unbreak]
  | case3 c rest hpair hc ih => rw [hbreak rest ih, unbreak.eq_3 _ _ hpair, if_pos hc]
  | case4 c rest hpair hc hl ih =>
      rw [unbreak.eq_3 _ _ hpair, if_neg hc, lines_eq_nil_iff.mp hl]
      rfl
  | case5 c rest hpair hc line more hl ih =>
      rw [unbreak.eq_3 _ _ hpair, if_neg hc, ← ih, hl]
      cases more with
      | nil => simp
      | cons next others => simp [List.intercalate_cons_cons]

theorem joinedLines_eq (text : String) : joinedLines text = String.ofList (unbreak text.toList) := by
  rw [← String.toList_inj, joinedLines, String.toList_intercalate, String.toList_ofList, List.map_map,
    ← intercalate_lines]
  simp [Function.comp_def]

theorem unbroken_unbreak (text : List Char) : Unbroken (unbreak text) := by
  have hblank : isLineBreak ' ' = false := by decide
  fun_induction unbreak text <;> simp_all [Unbroken]

/-! ### Reading lines back -/

theorem lines_extend {c : Char} {more : List (List Char)} (hc : isLineBreak c = false)
    (h : lines text = line :: more) : lines (c :: text) = (c :: line) :: more := by
  have hpair : ∀ rest, c = '\r' → text = '\n' :: rest → False := by
    rintro rest rfl
    cases hc
  rw [lines.eq_3 c text hpair, if_neg (by simp [hc]), h]

theorem lines_append_break (hl : Unbroken line) (rest : List Char) :
    lines (line ++ '\n' :: rest) = line :: lines rest := by
  induction line with
  | nil => rfl
  | cons c tail ih =>
      obtain ⟨hc, ht⟩ := List.forall_mem_cons.mp hl
      exact lines_extend hc (ih ht)

theorem lines_of_unbroken (hl : Unbroken line) (hne : line ≠ []) : lines line = [line] := by
  induction line with
  | nil => exact absurd rfl hne
  | cons c tail ih =>
      obtain ⟨hc, ht⟩ := List.forall_mem_cons.mp hl
      cases tail with
      | nil =>
          rw [lines, if_neg (by simp [hc])]
          · rfl
          · nofun
      | cons d more => exact lines_extend hc (ih ht (List.cons_ne_nil d more))

/-- Lines that are not empty are read back as they were put together. -/
theorem lines_intercalate {items : List (List Char)}
    (h : ∀ line ∈ items, Unbroken line ∧ line ≠ []) : lines (['\n'].intercalate items) = items := by
  induction items with
  | nil => rfl
  | cons line rest ih =>
      obtain ⟨⟨hl, hne⟩, hrest⟩ := List.forall_mem_cons.mp h
      cases rest with
      | nil => rw [List.intercalate_singleton, lines_of_unbroken hl hne]
      | cons next more =>
          rw [List.intercalate_cons_cons, List.append_assoc, List.singleton_append,
            lines_append_break hl, ih hrest]

end Text

namespace Enumeration

variable {enumeration : Enumeration}

/-- The cases with a description that says something, and what it says. -/
def documented (enumeration : Enumeration) : List (String × String) :=
  enumeration.cases.filterMap fun entry =>
    (spoken? entry.description).map fun text => (entry.name, text)

/-- The line of a documented case. -/
def caseLine (entry : String × String) : List Char :=
  "  - ".toList ++ entry.1.toList ++ ": ".toList ++ Text.unbreak entry.2.toList

/-- The header and one line for each documented case. -/
def listing (enumeration : Enumeration) : List (List Char) :=
  "Possible values:".toList :: enumeration.documented.map caseLine

theorem caseLine_mk (name text : String) :
    caseLine (name, text) =
      "  - ".toList ++ name.toList ++ ": ".toList ++ Text.unbreak text.toList := by
  delta caseLine
  rfl

theorem bullet_eq (name text : String) :
    s!"  - {name}: {Text.joinedLines text}" = String.ofList (caseLine (name, text)) := by
  rw [Text.joinedLines_eq, caseLine_mk, ← String.toList_inj]
  simp only [toString, String.toList_append, String.toList_ofList]

theorem bullets_eq (enumeration : Enumeration) :
    enumeration.bullets = enumeration.documented.map fun entry => String.ofList (caseLine entry) := by
  rw [bullets, documented, List.map_filterMap]
  congr 1
  funext entry
  rw [Option.map_map]
  exact Option.map_congr fun text _ => bullet_eq entry.name text

theorem unbroken_listing (h : ∀ entry ∈ enumeration.cases, Text.Unbroken entry.name.toList) :
    ∀ line ∈ enumeration.listing, Text.Unbroken line ∧ line ≠ [] := by
  refine List.forall_mem_cons.mpr ⟨by decide, fun line hm => ?_⟩
  obtain ⟨⟨name, text⟩, hd, rfl⟩ := List.mem_map.mp hm
  obtain ⟨entry, he, hs⟩ := List.mem_filterMap.mp hd
  obtain ⟨_, -, hpair⟩ := Option.map_eq_some_iff.mp hs
  have hname : Text.Unbroken name.toList := by
    cases hpair
    exact h entry he
  have hbullet : Text.Unbroken "  - ".toList := by decide
  have hcolon : Text.Unbroken ": ".toList := by decide
  rw [caseLine_mk]
  refine ⟨((hbullet.append hname).append hcolon).append (Text.unbroken_unbreak _), ?_⟩
  simp

theorem ne_empty_of_spoken {text : String} {description : Option String}
    (h : spoken? description = some text) : text ≠ "" := by
  have ht := (Option.filter_eq_some_iff.mp h).2
  simpa using ht

theorem summary_of_undocumented (h : enumeration.documented = []) :
    enumeration.summary? = spoken? enumeration.description := by
  have hb : enumeration.bullets = [] := by rw [bullets_eq, h, List.map_nil]
  rw [summary?, hb]
  cases hs : spoken? enumeration.description with
  | none => rfl
  | some text => simpa [spoken?] using ne_empty_of_spoken hs

theorem summary_of_documented (h : enumeration.documented ≠ []) :
    enumeration.summary? = some ((spoken? enumeration.description).elim "" (· ++ "\n\n") ++
      String.ofList (['\n'].intercalate enumeration.listing)) := by
  obtain ⟨first, rest, hd⟩ := List.exists_cons_of_ne_nil h
  have hb : enumeration.bullets.isEmpty = false := by rw [bullets_eq, hd]; rfl
  have hblock : String.ofList (['\n'].intercalate enumeration.listing) =
      "Possible values:\n" ++ "\n".intercalate enumeration.bullets := by
    rw [← String.toList_inj, String.toList_append, String.toList_intercalate, bullets_eq, listing, hd]
    simp [List.intercalate_cons_cons, Function.comp_def]
  rw [summary?, hb, hblock]
  cases hs : spoken? enumeration.description with
  | none => simp [spoken?]
  | some text =>
      have ht := ne_empty_of_spoken hs
      simp [spoken?, ht, ← String.toList_inj]

/-- The summary of an enumeration is its description and a blank line, if it has one, and then a listing
that is read back as its header and one line for each documented case, in the order of the cases. Where
no case is documented, the summary is the description. -/
theorem summary_lists_cases (enumeration : Enumeration) :
    (enumeration.documented = [] → enumeration.summary? = spoken? enumeration.description) ∧
    (enumeration.documented ≠ [] →
      (∀ entry ∈ enumeration.cases, Text.Unbroken entry.name.toList) →
      ∃ block, enumeration.summary? =
          some ((spoken? enumeration.description).elim "" (· ++ "\n\n") ++ block) ∧
        Text.lines block.toList = "Possible values:".toList :: enumeration.documented.map caseLine) := by
  refine ⟨summary_of_undocumented, fun hd hn => ⟨_, summary_of_documented hd, ?_⟩⟩
  rw [String.toList_ofList]
  exact Text.lines_intercalate (unbroken_listing hn)

/-- Ways over the water, with descriptions on several lines. -/
def ferry : Enumeration where
  name := "Ferry"
  description := some "How one crosses"
  cases := [⟨"boat", some "By sail,\r\n  - swim: or oar\n"⟩, ⟨"bridge", some ""⟩,
    ⟨"tunnel", some "\u2028Below"⟩]

theorem ferry_lists_cases :
    (∀ entry ∈ ferry.cases, Text.Unbroken entry.name.toList) ∧
      ∃ block, ferry.summary? = some ("How one crosses\n\n" ++ block) ∧
        Text.lines block.toList = ["Possible values:".toList,
          "  - boat: By sail,   - swim: or oar".toList, "  - tunnel:  Below".toList] := by
  have hnames : ∀ entry ∈ ferry.cases, Text.Unbroken entry.name.toList := by decide +kernel
  have hlead : (spoken? ferry.description).elim "" (· ++ "\n\n") = "How one crosses\n\n" := by
    decide
  have hlines : "Possible values:".toList :: ferry.documented.map caseLine =
      ["Possible values:".toList, "  - boat: By sail,   - swim: or oar".toList,
        "  - tunnel:  Below".toList] := by decide +kernel
  have hsummary := (summary_lists_cases ferry).2 (by decide) hnames
  rw [hlead, hlines] at hsummary
  exact ⟨hnames, hsummary⟩

end Enumeration

end ToolSchema
