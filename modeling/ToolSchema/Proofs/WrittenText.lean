import Mathlib.Data.List.Nodup
import ToolSchema.Json.Encoding
import ToolSchema.Json.Reader

/-! Reading back what is written. A value is a sequence of words whatever its layout is (`words`), and
its text in a layout spells these words: blanks separate them or nothing does, and a string is escaped
so that it ends where it was closed. A value whose members have names of their own is what its words are
read as, as long as there is room for all the containers that are open at once. So the text of a value
of texts, flags and null is read as the value (`readWithin_write`). -/

namespace ToolSchema.Json

/-- Values of texts, flags and null, in arrays and under names of which none comes twice. -/
inductive Textual : Json → Prop
  | null : Textual .null
  | bool (flag : Bool) : Textual (.bool flag)
  | str (text : String) : Textual (.str text)
  | arr {items} (h : ∀ item ∈ items, Textual item) : Textual (.arr items)
  | obj {members} (hd : (Table.keys members).Nodup) (h : ∀ entry ∈ members, Textual entry.2) :
      Textual (.obj members)

mutual

def isTextual : Json → Bool
  | .null | .bool _ | .str _ => true
  | .int _ | .float _ => false
  | .arr items => areTextual items
  | .obj members => decide (Table.keys members).Nodup && haveTextual members

def areTextual : List Json → Bool
  | [] => true
  | item :: rest => item.isTextual && areTextual rest

def haveTextual : List (String × Json) → Bool
  | [] => true
  | (_, value) :: rest => value.isTextual && haveTextual rest

end

mutual

theorem textual_of_isTextual : ∀ {value : Json}, value.isTextual = true → value.Textual
  | .null, _ => .null
  | .bool flag, _ => .bool flag
  | .str text, _ => .str text
  | .int _, h => absurd h Bool.false_ne_true
  | .float _, h => absurd h Bool.false_ne_true
  | .arr _, h => .arr (textual_of_areTextual h)
  | .obj _, h =>
      have hboth := (Bool.and_eq_true _ _).mp h
      .obj (of_decide_eq_true hboth.1) (textual_of_haveTextual hboth.2)

theorem textual_of_areTextual : ∀ {items : List Json}, areTextual items = true →
    ∀ item ∈ items, item.Textual
  | [], _ => List.forall_mem_nil _
  | _ :: _, h =>
      have hboth := (Bool.and_eq_true _ _).mp h
      List.forall_mem_cons.mpr ⟨textual_of_isTextual hboth.1, textual_of_areTextual hboth.2⟩

theorem textual_of_haveTextual : ∀ {members : List (String × Json)}, haveTextual members = true →
    ∀ entry ∈ members, entry.2.Textual
  | [], _ => List.forall_mem_nil _
  | (_, _) :: _, h =>
      have hboth := (Bool.and_eq_true _ _).mp h
      List.forall_mem_cons.mpr ⟨textual_of_isTextual hboth.1, textual_of_haveTextual hboth.2⟩

end

/-! ### Characters of a string -/

theorem hexUnit?_control : ∀ n < 32,
    Token.hexUnit? '0' '0' (hexDigit (n / 16)) (hexDigit (n % 16)) = some n := by decide

namespace Token

/-- A character that is neither a quote nor a backslash nor a control character stands for itself. -/
theorem scanUnits_plain {c : Char} (hq : c ≠ '"') (hb : c ≠ '\\') (hc : ¬c.toNat < 0x20)
    (rest : List Char) :
    scanUnits (c :: rest) = (scanUnits rest).map fun found => (c.toNat :: found.1, found.2) := by
  rw [scanUnits, if_neg (not_or.mpr ⟨hc, hb⟩)]
  · cases scanUnits rest <;> rfl
  · exact hq
  · exact fun _ _ _ _ _ he _ => hb he
  · exact fun _ _ he _ => hb he

theorem scanUnits_short {c e : Char} (he : e ≠ 'u') (hs : shortEscape? e = some c)
    (rest : List Char) :
    scanUnits ('\\' :: e :: rest) =
      (scanUnits rest).map fun found => (c.toNat :: found.1, found.2) := by
  rw [scanUnits, hs]
  · cases scanUnits rest <;> rfl
  · exact fun _ _ _ _ _ hu _ => he hu

/-- Every character is escaped as one unit of a string. -/
theorem scanUnits_escaped (c : Char) (rest : List Char) :
    scanUnits (escaped c ++ rest) =
      (scanUnits rest).map fun found => (c.toNat :: found.1, found.2) := by
  unfold escaped
  split_ifs with hq hb hn hr ht hf hk hc
  · subst hq
    exact scanUnits_short (by decide) rfl rest
  · subst hb
    exact scanUnits_short (by decide) rfl rest
  · subst hn
    exact scanUnits_short (by decide) rfl rest
  · subst hr
    exact scanUnits_short (by decide) rfl rest
  · subst ht
    exact scanUnits_short (by decide) rfl rest
  · subst hf
    exact scanUnits_short (by decide) rfl rest
  · subst hk
    exact scanUnits_short (by decide) rfl rest
  · change scanUnits ('\\' :: 'u' :: '0' :: '0' :: hexDigit (c.toNat / 16) ::
      hexDigit (c.toNat % 16) :: rest) = _
    rw [scanUnits, hexUnit?_control c.toNat hc]
    cases scanUnits rest <;> rfl
  · exact scanUnits_plain hq hb hc rest

theorem scanUnits_stringChars (text rest : List Char) :
    scanUnits (text.flatMap escaped ++ '"' :: rest) = some (text.map Char.toNat, rest) := by
  induction text with
  | nil => rw [List.flatMap_nil, List.nil_append, scanUnits, List.map_nil]
  | cons c text ih =>
      rw [List.flatMap_cons, List.append_assoc, scanUnits_escaped, ih]
      rfl

/-- No character is half of a pair. -/
theorem ofUnit_toNat (c : Char) : Text.ofUnit c.toNat = [c] := by
  have hvalid : c.toNat < 0xD800 ∨ 0xDFFF < c.toNat ∧ c.toNat < 0x110000 := c.valid
  have hc : Text.isHalfUnit c.toNat = false := by
    simp only [Text.isHalfUnit, Bool.and_eq_false_iff, decide_eq_false_iff_not]
    omega
  rw [Text.ofUnit, hc, if_neg Bool.false_ne_true, Char.ofNat_toNat]

theorem joinUnits_map_toNat (text : List Char) : joinUnits (text.map Char.toNat) = text := by
  induction text with
  | nil => rfl
  | cons c text ih =>
      cases text with
      | nil => rw [List.map_cons, List.map_nil, joinUnits, ofUnit_toNat]
      | cons d text =>
          have hvalid : c.toNat < 0xD800 ∨ 0xDFFF < c.toNat ∧ c.toNat < 0x110000 := c.valid
          have hhigh : ¬(0xD800 ≤ c.toNat ∧ c.toNat < 0xDC00 ∧ 0xDC00 ≤ d.toNat ∧
              d.toNat < 0xE000) := by omega
          rw [List.map_cons, List.map_cons, joinUnits, if_neg hhigh, ofUnit_toNat]
          exact congrArg (c :: ·) ih

theorem scanString_stringChars (text : String) (rest : List Char) :
    scanString (text.toList.flatMap escaped ++ '"' :: rest) = some (text, rest) := by
  rw [scanString, scanUnits_stringChars]
  simp only [Option.map_some, joinUnits_map_toNat, String.ofList_toList]

/-! ### Texts and the words they spell -/

/-- A text spells words, whatever text comes after it. -/
def Spells (text : List Char) (words : List Token) : Prop :=
  ∀ rest, scan (text ++ rest) = words ++ scan rest

theorem Spells.nil : Spells [] [] := fun _ => rfl

theorem Spells.append {text more : List Char} {words others : List Token} (h : Spells text words)
    (hm : Spells more others) : Spells (text ++ more) (words ++ others) := by
  intro rest
  rw [List.append_assoc, h, hm, List.append_assoc]

theorem scan_of_first? {c : Char} {text rest : List Char} {token : Token} (hc : isBlank c = false)
    (h : first? (c :: text) = some (token, rest)) : scan (c :: text) = token :: scan rest := by
  rw [scan, if_neg (hc ▸ Bool.false_ne_true)]
  split
  · rename_i hn
    rw [h] at hn
    cases hn
  · rename_i hs
    rw [h] at hs
    cases hs
    rfl

/-- A word that is recognised by what it begins with. -/
theorem spells_of_first? {c : Char} {text : List Char} {token : Token} (hc : isBlank c = false)
    (h : ∀ rest, first? (c :: (text ++ rest)) = some (token, rest)) :
    Spells (c :: text) [token] :=
  fun rest => scan_of_first? hc (h rest)

theorem spells_blank {text : List Char} (h : ∀ c ∈ text, isBlank c = true) : Spells text [] := by
  induction text with
  | nil => exact .nil
  | cons c text ih =>
      obtain ⟨hc, ht⟩ := List.forall_mem_cons.mp h
      intro rest
      rw [List.cons_append, scan, if_pos hc]
      exact ih ht rest

theorem spells_separated {separator : List Char} {between : List Token}
    (hs : Spells separator between) {texts : List (List Char)} {words : List (List Token)}
    (h : List.Forall₂ Spells texts words) :
    Spells (separated separator texts) (between.intercalate words) := by
  induction h with
  | nil => exact .nil
  | @cons text word texts words ht hr ih =>
      cases hr with
      | nil =>
          rw [separated, List.intercalate_singleton]
          exact ht
      | cons _ _ =>
          rw [separated, List.intercalate_cons_cons]
          · exact (ht.append hs).append ih
          · nofun

theorem spells_stringChars (text : String) : Spells (stringChars text) [.str text] := by
  rw [stringChars, List.cons_append]
  refine spells_of_first? (by decide) fun rest => ?_
  rw [List.append_assoc, first?, List.singleton_append, scanString_stringChars]
  rfl

end Token

/-! ### The words of a value -/

mutual

/-- The words of a value, whatever its layout is. -/
def words : Json → List Token
  | .str text => [.str text]
  | .arr items => .openBracket :: List.intercalate [.comma] (itemWords items) ++ [.closeBracket]
  | .obj members => .openBrace :: List.intercalate [.comma] (memberWords members) ++ [.closeBrace]
  | value => [.scalar value]

def itemWords : List Json → List (List Token)
  | [] => []
  | item :: rest => words item :: itemWords rest

def memberWords : List (String × Json) → List (List Token)
  | [] => []
  | (name, value) :: rest => (.str name :: .colon :: words value) :: memberWords rest

end

/-- A layout puts nothing but blanks between the words. -/
structure Layout.Blank (layout : Layout) : Prop where
  comma : Token.Spells layout.comma [.comma]
  colon : Token.Spells layout.colon [.colon]
  lineBreak : ∀ depth, Token.Spells (layout.lineBreak depth) []

theorem spells_comma : Token.Spells [','] [.comma] :=
  Token.spells_of_first? (by decide) fun _ => rfl

theorem spells_colon : Token.Spells [':'] [.colon] :=
  Token.spells_of_first? (by decide) fun _ => rfl

theorem spells_space : Token.Spells [' '] [] :=
  Token.spells_blank (List.forall_mem_singleton.mpr rfl)

theorem Layout.compact_blank : Layout.compact.Blank :=
  ⟨spells_comma, spells_colon, fun _ => .nil⟩

theorem Layout.spaced_blank : Layout.spaced.Blank :=
  ⟨spells_comma.append spells_space, spells_colon.append spells_space, fun _ => .nil⟩

theorem Layout.indented_blank {unit : List Char} (h : ∀ c ∈ unit, Token.isBlank c = true) :
    (Layout.indented unit).Blank := by
  refine ⟨spells_comma, spells_colon.append spells_space, fun depth => Token.spells_blank ?_⟩
  refine List.forall_mem_cons.mpr ⟨by decide, fun c hc => ?_⟩
  obtain ⟨part, hpart, hc⟩ := List.mem_flatten.mp hc
  exact h c ((List.mem_replicate.mp hpart).2 ▸ hc)

section Spelling

variable {layout : Layout}

/-- The brackets of a container stand around parts that only blanks set apart. -/
theorem spells_container (hl : layout.Blank) {opening closing : Char} {first last : Token}
    (ho : Token.Spells [opening] [first]) (hc : Token.Spells [closing] [last]) (depth : Nat)
    {texts : List (List Char)} {parts : List (List Token)}
    (hp : List.Forall₂ Token.Spells texts parts) :
    Token.Spells
      (opening :: layout.lineBreak (depth + 1) ++
        separated (layout.comma ++ layout.lineBreak (depth + 1)) texts ++
        layout.lineBreak depth ++ [closing])
      (first :: List.intercalate [.comma] parts ++ [last]) := by
  have hcomma : Token.Spells (layout.comma ++ layout.lineBreak (depth + 1)) [.comma] :=
    hl.comma.append (hl.lineBreak _)
  have hopen := (ho.append (hl.lineBreak (depth + 1))).append (Token.spells_separated hcomma hp)
  have hall := (hopen.append (hl.lineBreak depth)).append hc
  rwa [List.append_nil, List.append_nil] at hall

theorem forall₂_itemChars {depth : Nat} {items : List Json}
    (h : ∀ item ∈ items, Token.Spells (chars layout depth item) (words item)) :
    List.Forall₂ Token.Spells (itemChars layout depth items) (itemWords items) := by
  induction items with
  | nil => exact .nil
  | cons item rest ih =>
      obtain ⟨hi, hr⟩ := List.forall_mem_cons.mp h
      exact .cons hi (ih hr)

theorem forall₂_memberChars (hl : layout.Blank) {depth : Nat} {members : List (String × Json)}
    (h : ∀ entry ∈ members, Token.Spells (chars layout depth entry.2) (words entry.2)) :
    List.Forall₂ Token.Spells (memberChars layout depth members) (memberWords members) := by
  induction members with
  | nil => exact .nil
  | cons entry rest ih =>
      obtain ⟨he, hr⟩ := List.forall_mem_cons.mp h
      exact .cons (((Token.spells_stringChars entry.1).append hl.colon).append he) (ih hr)

/-- The text of a value spells its words in every layout. -/
theorem spells_chars (hl : layout.Blank) {value : Json} (h : value.Textual) :
    ∀ depth, Token.Spells (chars layout depth value) (words value) := by
  induction h with
  | null => exact fun _ => Token.spells_of_first? (by decide) fun _ => rfl
  | bool flag =>
      intro depth
      cases flag with
      | true => exact Token.spells_of_first? (by decide) fun _ => rfl
      | false => exact Token.spells_of_first? (by decide) fun _ => rfl
  | str text => exact fun _ => Token.spells_stringChars text
  | @arr items _ ih =>
      intro depth
      have ho : Token.Spells ['['] [.openBracket] := Token.spells_of_first? (by decide) fun _ => rfl
      have hc : Token.Spells [']'] [.closeBracket] := Token.spells_of_first? (by decide) fun _ => rfl
      cases items with
      | nil => exact ho.append hc
      | cons first rest =>
          exact spells_container hl ho hc depth
            (forall₂_itemChars fun item hi => ih item hi (depth + 1))
  | @obj members _ _ ih =>
      intro depth
      have ho : Token.Spells ['\x7b'] [.openBrace] := Token.spells_of_first? (by decide) fun _ => rfl
      have hc : Token.Spells ['\x7d'] [.closeBrace] := Token.spells_of_first? (by decide) fun _ => rfl
      cases members with
      | nil => exact ho.append hc
      | cons first rest =>
          exact spells_container hl ho hc depth
            (forall₂_memberChars hl fun entry he => ih entry he (depth + 1))

end Spelling

/-! ### Open containers -/

mutual

/-- How many containers of a value are open at once where it is deepest. -/
def depth : Json → Nat
  | .arr items => itemsDepth items + 1
  | .obj members => membersDepth members + 1
  | _ => 0

def itemsDepth : List Json → Nat
  | [] => 0
  | item :: rest => max item.depth (itemsDepth rest)

def membersDepth : List (String × Json) → Nat
  | [] => 0
  | (_, value) :: rest => max value.depth (membersDepth rest)

end

theorem itemsDepth_le_iff {items : List Json} {bound : Nat} :
    itemsDepth items ≤ bound ↔ ∀ item ∈ items, item.depth ≤ bound := by
  induction items with
  | nil => simp [itemsDepth]
  | cons item rest ih => simp only [itemsDepth, Nat.max_le, ih, List.forall_mem_cons]

theorem membersDepth_le_iff {members : List (String × Json)} {bound : Nat} :
    membersDepth members ≤ bound ↔ ∀ entry ∈ members, entry.2.depth ≤ bound := by
  induction members with
  | nil => simp [membersDepth]
  | cons entry rest ih => simp only [membersDepth, Nat.max_le, ih, List.forall_mem_cons]

theorem depth_arr_le_iff {items : List Json} {bound : Nat} :
    (arr items).depth ≤ bound + 1 ↔ ∀ item ∈ items, item.depth ≤ bound := by
  rw [depth, Nat.add_le_add_iff_right, itemsDepth_le_iff]

theorem depth_obj_le_iff {members : List (String × Json)} {bound : Nat} :
    (obj members).depth ≤ bound + 1 ↔ ∀ entry ∈ members, entry.2.depth ≤ bound := by
  rw [depth, Nat.add_le_add_iff_right, membersDepth_le_iff]

namespace ReadState

/-- A machine with room for so many open containers does what one without bounds does, unless a
container is one too many. -/
theorem runWithin_cases (nesting : Nat) (state : ReadState) (tokens : List Token) :
    runWithin nesting state tokens = run state tokens ∨
      ∃ kind, runWithin nesting state tokens = .error (.overdeep kind) := by
  induction tokens generalizing state with
  | nil => exact Or.inl rfl
  | cons token rest ih =>
      rw [runWithin, run]
      cases state.step token with
      | error error => exact Or.inl rfl
      | ok next =>
          dsimp only
          cases next.overdeep? nesting with
          | some kind => exact Or.inr ⟨kind, rfl⟩
          | none => exact ih next

theorem run_of_runWithin {nesting : Nat} {state : ReadState} {tokens : List Token} {value : Json}
    (h : runWithin nesting state tokens = .ok value) : run state tokens = .ok value := by
  rcases runWithin_cases nesting state tokens with he | ⟨kind, he⟩
  · rw [← he, h]
  · rw [h] at he
    cases he

/-! ### Reading the words -/

variable {nesting : Nat}

/-- A state reads words as a value: it takes them as they stand before any others, if there is room for
the containers that are open then, and goes on behind the value. -/
def Takes (nesting : Nat) (words : List Token) (value : Json) : Prop :=
  ∀ frames rest, frames.length + value.depth ≤ nesting →
    runWithin nesting ⟨.value, frames⟩ (words ++ rest) =
      runWithin nesting (completed frames value) rest

theorem runWithin_opened {state : ReadState} (next : ReadState) {token : Token} {rest : List Token}
    (hs : state.step token = .ok next) (h : next.frames.length < nesting) :
    runWithin nesting state (token :: rest) = runWithin nesting next rest := by
  have hroom : next.overdeep? nesting = none := by
    rw [overdeep?, Option.filter_eq_none_iff]
    intro kind _
    simpa using h
  rw [runWithin, hs]
  dsimp only
  rw [hroom]

/-- Where an array has just been opened, a value begins its first item. -/
theorem run_firstItem (value : Json) (frames : List Frame) (rest : List Token) :
    runWithin nesting ⟨.firstItem, frames⟩ (words value ++ rest) =
      runWithin nesting ⟨.value, .items [] :: frames⟩ (words value ++ rest) := by
  cases value <;> rfl

theorem intercalate_itemWords (item next : Json) (more : List Json) (rest : List Token) :
    List.intercalate [.comma] (itemWords (item :: next :: more)) ++ rest =
      words item ++ .comma :: (List.intercalate [.comma] (itemWords (next :: more)) ++ rest) := by
  rw [itemWords, itemWords, List.intercalate_cons_cons, List.append_assoc, List.append_assoc]
  rfl

theorem intercalate_memberWords (name : String) (value : Json) (next : String × Json)
    (more : List (String × Json)) (rest : List Token) :
    List.intercalate [.comma] (memberWords ((name, value) :: next :: more)) ++ rest =
      .str name :: .colon :: (words value ++
        .comma :: (List.intercalate [.comma] (memberWords (next :: more)) ++ rest)) := by
  rw [memberWords, memberWords, List.intercalate_cons_cons, List.append_assoc, List.append_assoc]
  rfl

/-- Items after those that are done. -/
theorem run_items {items : List Json} (hne : items ≠ [])
    (h : ∀ item ∈ items, Takes nesting (words item) item) (done : List Json) {outer : List Frame}
    (hroom : ∀ item ∈ items, outer.length + 1 + item.depth ≤ nesting) (rest : List Token) :
    runWithin nesting ⟨.value, .items done :: outer⟩
        (List.intercalate [.comma] (itemWords items) ++ .closeBracket :: rest) =
      runWithin nesting (completed outer (.arr (done.reverse ++ items))) rest := by
  induction items generalizing done with
  | nil => exact absurd rfl hne
  | cons item more ih =>
      obtain ⟨hi, hm⟩ := List.forall_mem_cons.mp h
      obtain ⟨hr, hmore⟩ := List.forall_mem_cons.mp hroom
      cases more with
      | nil =>
          rw [itemWords, itemWords, List.intercalate_singleton, hi (.items done :: outer) _ hr]
          change runWithin nesting (completed outer (.arr (item :: done).reverse)) rest = _
          rw [List.reverse_cons]
      | cons next more =>
          rw [intercalate_itemWords, hi (.items done :: outer) _ hr]
          change runWithin nesting ⟨.value, .items (item :: done) :: outer⟩ _ = _
          rw [ih (List.cons_ne_nil _ _) hm _ hmore, List.reverse_cons, List.append_assoc,
            List.singleton_append]

/-- Members after those that are done. -/
theorem run_members {members : List (String × Json)} (hne : members ≠ [])
    (h : ∀ entry ∈ members, Takes nesting (words entry.2) entry.2) (done : Table Json)
    (hd : (Table.keys (done ++ members)).Nodup) {outer : List Frame}
    (hroom : ∀ entry ∈ members, outer.length + 1 + entry.2.depth ≤ nesting) (rest : List Token) :
    runWithin nesting ⟨.key done, outer⟩
        (List.intercalate [.comma] (memberWords members) ++ .closeBrace :: rest) =
      runWithin nesting (completed outer (.obj (done ++ members))) rest := by
  induction members generalizing done with
  | nil => exact absurd rfl hne
  | cons entry more ih =>
      obtain ⟨name, value⟩ := entry
      obtain ⟨hv, hm⟩ := List.forall_mem_cons.mp h
      obtain ⟨hr, hmore⟩ := List.forall_mem_cons.mp hroom
      have hnew : name ∉ done.keys := by
        rw [Table.keys, List.map_append, List.map_cons] at hd
        exact fun hn => (List.nodup_append.mp hd).2.2 name hn name List.mem_cons_self rfl
      cases more with
      | nil =>
          rw [memberWords, memberWords, List.intercalate_singleton]
          change runWithin nesting ⟨.value, .members done name :: outer⟩
            (words value ++ .closeBrace :: rest) = _
          rw [hv (.members done name :: outer) _ hr]
          change runWithin nesting (completed outer (.obj (done.put name value))) rest = _
          rw [Table.put_of_not_mem hnew]
      | cons next more =>
          rw [intercalate_memberWords]
          change runWithin nesting ⟨.value, .members done name :: outer⟩ (words value ++ _) = _
          rw [hv (.members done name :: outer) _ hr]
          change runWithin nesting ⟨.key (done.put name value), outer⟩ _ = _
          rw [List.append_cons done] at hd ⊢
          rw [Table.put_of_not_mem hnew, ih (List.cons_ne_nil _ _) hm _ hd hmore]

/-- The words of a value are read as the value. -/
theorem takes_words {value : Json} (h : value.Textual) : Takes nesting (words value) value := by
  induction h with
  | null => exact fun _ _ _ => rfl
  | bool flag => exact fun _ _ _ => rfl
  | str text => exact fun _ _ _ => rfl
  | @arr items _ ih =>
      intro frames rest hroom
      rw [depth] at hroom
      have hopened : frames.length < nesting := by omega
      have hdepth : ∀ item ∈ items, frames.length + 1 + item.depth ≤ nesting := by
        intro item hi
        have := itemsDepth_le_iff.mp (Nat.le_refl _) item hi
        omega
      rw [words, List.cons_append, List.cons_append, List.append_assoc,
        runWithin_opened ⟨.firstItem, frames⟩ rfl hopened]
      cases items with
      | nil => rfl
      | cons item more =>
          have hfirst : runWithin nesting ⟨.firstItem, frames⟩
              (List.intercalate [.comma] (itemWords (item :: more)) ++ .closeBracket :: rest) =
                runWithin nesting ⟨.value, .items [] :: frames⟩
                  (List.intercalate [.comma] (itemWords (item :: more)) ++ .closeBracket :: rest) := by
            cases more with
            | nil =>
                rw [itemWords, itemWords, List.intercalate_singleton]
                exact run_firstItem item frames _
            | cons next more =>
                rw [intercalate_itemWords]
                exact run_firstItem item frames _
          exact hfirst.trans (run_items (List.cons_ne_nil item more) ih [] hdepth rest)
  | @obj members hd _ ih =>
      intro frames rest hroom
      rw [depth] at hroom
      have hopened : frames.length < nesting := by omega
      have hdepth : ∀ entry ∈ members, frames.length + 1 + entry.2.depth ≤ nesting := by
        intro entry he
        have := membersDepth_le_iff.mp (Nat.le_refl _) entry he
        omega
      rw [words, List.cons_append, List.cons_append, List.append_assoc,
        runWithin_opened ⟨.firstKey, frames⟩ rfl hopened]
      cases members with
      | nil => rfl
      | cons entry more =>
          have hfirst : runWithin nesting ⟨.firstKey, frames⟩
              (List.intercalate [.comma] (memberWords (entry :: more)) ++ .closeBrace :: rest) =
                runWithin nesting ⟨.key [], frames⟩
                  (List.intercalate [.comma] (memberWords (entry :: more)) ++ .closeBrace :: rest) := by
            cases more with
            | nil =>
                rw [memberWords, memberWords, List.intercalate_singleton]
                rfl
            | cons next more =>
                rw [intercalate_memberWords]
                rfl
          exact hfirst.trans (run_members (List.cons_ne_nil entry more) ih [] hd hdepth rest)

end ReadState

/-- What is read with room for so many open containers is read without bounds. -/
theorem read_of_readWithin {nesting : Nat} {text : String} {value : Json}
    (h : readWithin nesting text = .ok value) : read text = .ok value :=
  ReadState.run_of_runWithin h

/-- A text that spells the words of a value is read as the value, if there is room for the containers
that are open at once. -/
theorem readWithin_of_spells {nesting : Nat} {text : String} {value : Json} (h : value.Textual)
    (hs : Token.Spells text.toList (words value)) (hroom : value.depth ≤ nesting) :
    readWithin nesting text = .ok value := by
  have hnil : Token.scan [] = [] := by rw [Token.scan]
  have hscan := hs []
  rw [List.append_nil, hnil] at hscan
  rw [readWithin, hscan]
  exact ReadState.takes_words h [] [] (by rwa [List.length_nil, Nat.zero_add])

theorem spells_write {layout : Layout} (hl : layout.Blank) {value : Json} (h : value.Textual) :
    Token.Spells (value.write layout).toList (words value) := by
  rw [write, String.toList_ofList]
  exact spells_chars hl h 0

/-- A line feed after it changes nothing. -/
theorem spells_line {layout : Layout} (hl : layout.Blank) {value : Json} (h : value.Textual) :
    Token.Spells (value.write layout ++ "\n").toList (words value) := by
  have hend : Token.Spells ['\n'] [] := Token.spells_blank (List.forall_mem_singleton.mpr rfl)
  have hall := (spells_write hl h).append hend
  rw [List.append_nil] at hall
  rwa [String.toList_append]

/-- What is written in a layout is read as it was. -/
theorem readWithin_write {nesting : Nat} {layout : Layout} (hl : layout.Blank) {value : Json}
    (h : value.Textual) (hroom : value.depth ≤ nesting) :
    readWithin nesting (value.write layout) = .ok value :=
  readWithin_of_spells h (spells_write hl h) hroom

/-! ### Order of members -/

theorem sortedItems_eq (items : List Json) : sortedItems items = items.map sorted := by
  induction items with
  | nil => rfl
  | cons item rest ih => rw [sortedItems, ih, List.map_cons]

theorem sortedMembers_eq (members : List (String × Json)) :
    sortedMembers members = members.map fun entry => (entry.1, entry.2.sorted) := by
  induction members with
  | nil => rfl
  | cons entry rest ih => rw [sortedMembers, ih, List.map_cons]

/-- The members of an object in the order of their names are its members. -/
theorem perm_sorted (members : List (String × Json)) :
    ((sortedMembers members).mergeSort fun a b => decide (a.1 ≤ b.1)).Perm
      (members.map fun entry => (entry.1, entry.2.sorted)) :=
  sortedMembers_eq members ▸ List.mergeSort_perm _ _

theorem Textual.sorted {value : Json} (h : value.Textual) : value.sorted.Textual := by
  induction h with
  | null => exact .null
  | bool flag => exact .bool flag
  | str text => exact .str text
  | arr _ ih =>
      rw [Json.sorted, sortedItems_eq]
      exact .arr (List.forall_mem_map.mpr ih)
  | @obj members hd _ ih =>
      have hp := perm_sorted members
      rw [Json.sorted]
      refine .obj ?_ fun entry he => ?_
      · have hkeys := hp.map Prod.fst
        rw [← Table.keys, ← Table.keys, Table.keys_map] at hkeys
        exact hkeys.nodup_iff.mpr hd
      · obtain ⟨found, hf, rfl⟩ := List.mem_map.mp (hp.mem_iff.mp he)
        exact ih found hf

/-- Order makes nothing deeper. -/
theorem Textual.depth_sorted_le {value : Json} (h : value.Textual) :
    value.sorted.depth ≤ value.depth := by
  induction h with
  | null => exact Nat.le_refl _
  | bool flag => exact Nat.le_refl _
  | str text => exact Nat.le_refl _
  | arr _ ih =>
      rw [Json.sorted, sortedItems_eq, depth, depth, Nat.add_le_add_iff_right, itemsDepth_le_iff]
      refine List.forall_mem_map.mpr fun item hi => ?_
      exact Nat.le_trans (ih item hi) (itemsDepth_le_iff.mp (Nat.le_refl _) item hi)
  | @obj members _ _ ih =>
      rw [Json.sorted, depth, depth, Nat.add_le_add_iff_right, membersDepth_le_iff]
      intro entry he
      obtain ⟨found, hf, rfl⟩ := List.mem_map.mp ((perm_sorted members).mem_iff.mp he)
      exact Nat.le_trans (ih found hf) (membersDepth_le_iff.mp (Nat.le_refl _) found hf)

/-! ### Encodings -/

/-- The width is a number of 64 bits, and there is memory for as many blanks. -/
def Indent.Fits (memory : Nat) (width : Int) : Prop :=
  -widthLimit ≤ width ∧ width < widthLimit ∧ width < memory

theorem Indent.error?_blanks_iff {memory : Nat} {width : Int} :
    (Indent.blanks width).error? memory = Option.none ↔ Fits memory width := by
  rw [error?, Fits]
  by_cases hword : width < -widthLimit ∨ widthLimit ≤ width
  · rw [if_pos (by simpa using hword)]
    constructor
    · intro h
      cases h
    · intro h
      omega
  · rw [if_neg (by simpa using hword)]
    by_cases hmemory : memory ≤ width
    · rw [if_pos hmemory]
      constructor
      · intro h
        cases h
      · intro h
        omega
    · rw [if_neg hmemory]
      refine ⟨fun _ => ?_, fun _ => rfl⟩
      omega

namespace Encoding

variable {memory : Nat} {encoding : Encoding} {width : Int} {value : Json}

theorem layout_blank (h : encoding.indent = .blanks width) : encoding.layout.Blank := by
  rw [layout, h]
  split
  · refine Layout.indented_blank fun c hc => ?_
    rw [(List.mem_replicate.mp hc).2]
    rfl
  · exact Layout.compact_blank

theorem arrange_textual (encoding : Encoding) (h : value.Textual) :
    (encoding.arrange value).Textual := by
  unfold arrange
  split
  · exact h.sorted
  · exact h

/-- A document has a text as long as nothing speaks against its layout. -/
theorem exists_encode_iff_error? :
    (∃ text, encoding.encode memory value = .ok text) ↔ encoding.error? memory value = none := by
  rw [encode]
  cases encoding.error? memory value with
  | none => exact ⟨fun _ => rfl, fun _ => ⟨_, rfl⟩⟩
  | some error =>
      constructor
      · rintro ⟨_, he⟩
        cases he
      · intro he
        cases he

/-- A layout on one line has no width, and the others have a text as long as the width fits. -/
theorem exists_encode_iff (h : encoding.indent = .blanks width) (hk : value.kind ≠ .str) :
    (∃ text, encoding.encode memory value = .ok text) ↔
      (encoding.pretty = true → Indent.Fits memory width) := by
  have hkind : (value.kind != .str) = true := bne_iff_ne.mpr hk
  rw [← Indent.error?_blanks_iff, exists_encode_iff_error?, error?, h, hkind, Bool.and_true]
  cases encoding.pretty with
  | false => exact ⟨fun _ h => absurd h Bool.false_ne_true, fun _ => rfl⟩
  | true => exact ⟨fun he _ => he, fun he => he rfl⟩

theorem depth_arrange_le (encoding : Encoding) (h : value.Textual) :
    (encoding.arrange value).depth ≤ value.depth := by
  unfold arrange
  split
  · exact h.depth_sorted_le
  · exact Nat.le_refl _

/-- An encoded document is read as the document, in the order in which its members are written. -/
theorem readWithin_of_encode {nesting : Nat} (hl : encoding.layout.Blank) (hv : value.Textual)
    {text : String} (he : encoding.encode memory value = .ok text) (hroom : value.depth ≤ nesting) :
    readWithin nesting text = .ok (encoding.arrange value) := by
  rw [encode] at he
  split at he
  · cases he
  · cases he
    have htextual := encoding.arrange_textual hv
    exact readWithin_of_spells htextual (spells_line hl htextual)
      (Nat.le_trans (encoding.depth_arrange_le hv) hroom)

theorem read_of_encode (hl : encoding.layout.Blank) (hv : value.Textual) {text : String}
    (he : encoding.encode memory value = .ok text) : read text = .ok (encoding.arrange value) :=
  read_of_readWithin (readWithin_of_encode hl hv he (Nat.le_refl _))

theorem read_encode (h : encoding.indent = .blanks width) (hv : value.Textual) {text : String}
    (he : encoding.encode memory value = .ok text) : read text = .ok (encoding.arrange value) :=
  read_of_encode (layout_blank h) hv he

end Encoding

end ToolSchema.Json
