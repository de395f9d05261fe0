import ToolSchema.Proofs.FragmentGrammar
import ToolSchema.Proofs.WrittenDescriptors

/-! Documents and their texts. A document that is encoded has a text as long as its indentation fits, and
the text is read as the same document up to the order of members, in the order they had unless they were
put in order. On one line the line feed at the end is the only one, since strings have theirs escaped.
The documents that dialects make of generated components are of this kind: fragments of the grammar hold
texts, lists and members under distinct names, and so does a declaration of them. -/

namespace ToolSchema

namespace Json

/-- The same value up to the order of members, at any depth. -/
inductive Alike : Json → Json → Prop
  | null : Alike .null .null
  | bool (flag : Bool) : Alike (.bool flag) (.bool flag)
  | int (n : Int) : Alike (.int n) (.int n)
  | float (x : Float) : Alike (.float x) (.float x)
  | str (text : String) : Alike (.str text) (.str text)
  | arr {items others} (hl : items.length = others.length)
      (h : ∀ item other, (item, other) ∈ items.zip others → Alike item other) :
      Alike (.arr items) (.arr others)
  | obj {members others} (hk : (Table.keys members).Perm (Table.keys others))
      (h : ∀ name value other, (name, value) ∈ members → (name, other) ∈ others →
        Alike value other) :
      Alike (.obj members) (.obj others)

theorem Textual.alike_self {value : Json} (h : value.Textual) : value.Alike value := by
  induction h with
  | null => exact .null
  | bool flag => exact .bool flag
  | str text => exact .str text
  | @arr items _ ih =>
      refine .arr rfl fun item other hm => ?_
      obtain ⟨i, hi, he⟩ := List.getElem_of_mem hm
      rw [List.getElem_zip] at he
      cases he
      exact ih _ (List.getElem_mem _)
  | @obj members hd _ ih =>
      refine .obj (List.Perm.refl _) fun name value other hv ho => ?_
      have hsame := (Table.find?_of_mem hd hv).symm.trans (Table.find?_of_mem hd ho)
      cases hsame
      exact ih _ hv

/-- A value whose members are put in order is still the same but for their order. -/
theorem Textual.alike_sorted {value : Json} (h : value.Textual) : value.Alike value.sorted := by
  induction h with
  | null => exact .null
  | bool flag => exact .bool flag
  | str text => exact .str text
  | @arr items _ ih =>
      rw [Json.sorted, sortedItems_eq]
      refine .arr (List.length_map _).symm fun item other hm => ?_
      rw [← List.map_prod_left_eq_zip] at hm
      obtain ⟨found, hf, he⟩ := List.mem_map.mp hm
      cases he
      exact ih _ hf
  | @obj members hd _ ih =>
      have hp := perm_sorted members
      rw [Json.sorted]
      refine .obj ?_ fun name value other hv ho => ?_
      · have hkeys := hp.map Prod.fst
        rw [← Table.keys, ← Table.keys, Table.keys_map] at hkeys
        exact hkeys.symm
      · obtain ⟨⟨_, found⟩, hf, he⟩ := List.mem_map.mp (hp.mem_iff.mp ho)
        cases he
        have hsame := (Table.find?_of_mem hd hv).symm.trans (Table.find?_of_mem hd hf)
        cases hsame
        exact ih _ hv

theorem Textual.alike_arrange {value : Json} (h : value.Textual) (encoding : Encoding) :
    value.Alike (encoding.arrange value) := by
  unfold Encoding.arrange
  split
  · exact h.alike_sorted
  · exact h.alike_self

/-! ### Texts on one line -/

theorem newline_not_mem_control : ∀ n < 32,
    '\n' ∉ ['\\', 'u', '0', '0', hexDigit (n / 16), hexDigit (n % 16)] := by decide

/-- Whatever a character is, it is written without a line feed. -/
theorem newline_not_mem_escaped (c : Char) : '\n' ∉ escaped c := by
  unfold escaped
  split_ifs with hq hb hn hr ht hf hk hc
  · decide
  · decide
  · decide
  · decide
  · decide
  · decide
  · decide
  · exact newline_not_mem_control c.toNat hc
  · exact fun hm => hn (List.mem_singleton.mp hm).symm

theorem newline_not_mem_stringChars (text : String) : '\n' ∉ stringChars text := by
  have hbody : '\n' ∉ text.toList.flatMap escaped := by
    intro hm
    obtain ⟨c, -, hc⟩ := List.mem_flatMap.mp hm
    exact newline_not_mem_escaped c hc
  simp [stringChars, hbody]

theorem not_mem_separated {c : Char} {separator : List Char} (hs : c ∉ separator)
    {texts : List (List Char)} (h : ∀ text ∈ texts, c ∉ text) : c ∉ separated separator texts := by
  fun_induction separated separator texts with
  | case1 => exact List.not_mem_nil
  | case2 text => exact h text List.mem_cons_self
  | case3 text rest _ ih =>
      obtain ⟨htext, hrest⟩ := List.forall_mem_cons.mp h
      simp [htext, hs, ih hrest]

theorem newline_not_mem_itemChars {depth : Nat} {items : List Json}
    (h : ∀ item ∈ items, '\n' ∉ chars .compact depth item) :
    ∀ text ∈ itemChars .compact depth items, '\n' ∉ text := by
  induction items with
  | nil => exact List.forall_mem_nil _
  | cons item rest ih =>
      obtain ⟨hi, hr⟩ := List.forall_mem_cons.mp h
      exact List.forall_mem_cons.mpr ⟨hi, ih hr⟩

theorem newline_not_mem_memberChars {depth : Nat} {members : List (String × Json)}
    (h : ∀ entry ∈ members, '\n' ∉ chars .compact depth entry.2) :
    ∀ text ∈ memberChars .compact depth members, '\n' ∉ text := by
  induction members with
  | nil => exact List.forall_mem_nil _
  | cons entry rest ih =>
      obtain ⟨he, hr⟩ := List.forall_mem_cons.mp h
      have hcolon : '\n' ∉ Layout.compact.colon := by decide
      refine List.forall_mem_cons.mpr ⟨?_, ih hr⟩
      simp [newline_not_mem_stringChars, hcolon, he]

/-- On one line there is no line feed. -/
theorem newline_not_mem_chars {value : Json} (h : value.Textual) :
    ∀ depth, '\n' ∉ chars .compact depth value := by
  have hcomma : '\n' ∉ Layout.compact.comma ++ [] := by decide
  induction h with
  | null => exact fun _ => by simp [chars]
  | bool flag =>
      intro depth
      cases flag <;> simp [chars]
  | str text => exact fun _ => newline_not_mem_stringChars text
  | @arr items _ ih =>
      intro depth
      cases items with
      | nil => simp [chars]
      | cons first rest =>
          have hparts := not_mem_separated hcomma
            (newline_not_mem_itemChars fun item hi => ih item hi (depth + 1))
          simpa [chars, Layout.lineBreak, Layout.compact] using hparts
  | @obj members _ _ ih =>
      intro depth
      cases members with
      | nil => simp [chars]
      | cons first rest =>
          have hparts := not_mem_separated hcomma
            (newline_not_mem_memberChars fun entry he => ih entry he (depth + 1))
          simpa [chars, Layout.lineBreak, Layout.compact] using hparts

namespace Encoding

variable {encoding : Encoding} {memory : Nat} {value : Json} {text : String}

/-- The indentation of a number of blanks, or of none. -/
theorem layout_of_width (pretty sortKeys : Bool) (indent : Option Int) :
    (Encoding.mk pretty (indent.elim .none .blanks) sortKeys).layout.Blank := by
  cases indent with
  | some width => exact layout_blank rfl
  | none =>
      cases pretty with
      | true => exact Layout.spaced_blank
      | false => exact Layout.compact_blank

theorem error?_of_width {pretty sortKeys : Bool} {indent : Option Int} :
    (Encoding.mk pretty (indent.elim .none .blanks) sortKeys).error? memory value = none ↔
      (pretty = true → value.kind ≠ .str → ∀ width ∈ indent, Indent.Fits memory width) := by
  cases indent with
  | none => simp [error?, Indent.error?]
  | some width =>
      rw [error?]
      split
      · rename_i h
        obtain ⟨hp, hk⟩ := (Bool.and_eq_true _ _).mp h
        rw [Option.elim_some, Indent.error?_blanks_iff]
        exact ⟨fun hf _ _ _ hw => Option.some.inj hw ▸ hf, fun h => h hp (bne_iff_ne.mp hk) _ rfl⟩
      · rename_i h
        refine ⟨fun _ hp hk => absurd ((Bool.and_eq_true _ _).mpr ⟨hp, bne_iff_ne.mpr hk⟩) h,
          fun _ => rfl⟩

/-- On one line a text has one line feed, at the end. -/
theorem count_newline (hp : encoding.pretty = false) (hv : value.Textual)
    (he : encoding.encode memory value = .ok text) :
    text.toList.count '\n' = 1 ∧ text.toList.getLast? = some '\n' := by
  have hlayout : encoding.layout = .compact := by
    rw [layout, hp]
    rfl
  rw [encode] at he
  split at he
  · cases he
  · cases he
    have hline := newline_not_mem_chars (encoding.arrange_textual hv) 0
    rw [write, hlayout, String.toList_append, String.toList_ofList]
    constructor
    · rw [List.count_append, List.count_eq_zero_of_not_mem hline]
      rfl
    · exact List.getLast?_append

end Encoding

/-! ### Documents of components -/

theorem geminiMembers_eq (members : List (String × Json)) :
    geminiMembers members =
      (members.filter fun entry => entry.1 ≠ "format").map
        fun entry => (entry.1, geminiMember entry.1 entry.2) := by
  induction members with
  | nil => rfl
  | cons entry rest ih =>
      obtain ⟨name, value⟩ := entry
      rw [geminiMembers]
      by_cases hf : name = "format"
      · rw [if_pos hf, List.filter_cons_of_neg (by simpa using hf), ih]
      · rw [if_neg hf, List.filter_cons_of_pos (by simpa using hf), List.map_cons, ih]

/-- A textual value stays one in the third dialect, as a schema and as the value of a member. -/
theorem Textual.gemini {value : Json} (h : value.Textual) :
    (Dialect.gemini.schema value).Textual ∧ ∀ key, (geminiMember key value).Textual := by
  induction h with
  | null => exact ⟨.null, fun _ => .null⟩
  | bool flag => exact ⟨.bool flag, fun _ => .bool flag⟩
  | str text => exact ⟨.str text, fun _ => .str _⟩
  | arr h _ => exact ⟨.arr h, fun _ => .arr h⟩
  | @obj members hd h ih =>
      have hmembers : (Json.obj (geminiMembers members)).Textual := by
        rw [geminiMembers_eq]
        refine .obj ?_ fun entry he => ?_
        · rw [Table.keys, List.map_map]
          exact hd.sublist (List.filter_sublist.map Prod.fst)
        · obtain ⟨found, hf, rfl⟩ := List.mem_map.mp he
          exact (ih found (List.mem_of_mem_filter hf)).2 _
      refine ⟨hmembers, fun key => ?_⟩
      rw [geminiMember]
      split
      · exact hmembers
      · split
        · rw [Dialect.geminiProperties_eq_map]
          refine .obj ?_ (List.forall_mem_map.mpr fun entry he => (ih entry he).1)
          rw [Table.keys_map]
          exact hd
        · exact .obj hd h

end Json

namespace Fragment

variable {declared : List Enumeration} {form : Form} {own : Option String}
  {members : List (String × Json)} {property : Bool} {fragment : Json}

theorem nodup_keys_body {Inner : Bool → Json → Prop} (h : Body declared Inner form own members) :
    (Table.keys members).Nodup := by
  cases h with
  | @primitive name p h => cases p.format <;> simp
  | enumeration h => simp
  | array h => simp
  | map h => simp
  | record hn hp hr => simp

theorem names_textual (items : List String) : (names items).Textual :=
  .arr_map fun text => .str text

theorem body_textual
    (h : Body declared (fun property value => Shaped declared property value ∧ value.Textual)
      form own members) : ∀ entry ∈ members, entry.2.Textual := by
  refine List.forall_iff_forall_mem.mp ?_
  cases h with
  | @primitive name p h =>
      cases p.format with
      | none => exact .str _
      | some format => exact ⟨.str _, .str _⟩
  | enumeration h => exact ⟨.str _, names_textual _⟩
  | array h => exact ⟨.str _, h.2⟩
  | map h => exact ⟨.str _, h.2⟩
  | record hn hp hr =>
      exact ⟨.str _, .obj hn fun entry he => (hp entry.1 entry.2 he).2, names_textual _⟩

/-- Fragments of the grammar hold texts, lists and members under distinct names. -/
theorem Shaped.textual (h : Shaped declared property fragment) : fragment.Textual := by
  refine Shaped.induct (motive := fun _ value => value.Textual) (fun hb hs => ?_) h
  rename_i property form own shown members
  cases shown with
  | none =>
      rw [noted, List.append_nil]
      exact .obj (nodup_keys_body hb) (body_textual hb)
  | some text =>
      refine .obj ?_ fun entry he => ?_
      · have hkeys := (nodup_keys_body hb).concat (description_not_mem hb)
        rw [List.concat_eq_append] at hkeys
        rw [Table.keys, List.map_append]
        exact hkeys
      · rcases List.mem_append.mp he with he | he
        · exact body_textual hb entry he
        · rw [List.mem_singleton.mp he]
          exact .str text

end Fragment

theorem Components.Shaped.schematic {declared : List Enumeration} {components : Components}
    (h : components.Shaped declared) : components.Schematic := by
  intro name value hm
  cases h.fragments name value hm
  exact ⟨_, rfl⟩

theorem Dialect.declare_textual (dialect : Dialect) (record : Record) {components : Components}
    (h : (Fragment.record components).Textual) : (dialect.declare record components).Textual := by
  have htool : (toolEntry record components.parameters).Textual := by
    unfold toolEntry
    refine .obj_of_forall (by simp) ⟨.str _, ?_⟩
    cases spoken? record.description with
    | none => exact .obj_of_forall (by simp) ⟨.str _, h⟩
    | some text => exact .obj_of_forall (by simp) ⟨.str _, .str _, h⟩
  cases dialect with
  | openai => exact htool
  | grok => exact htool
  | gemini => exact .obj_of_forall (by simp) ⟨.str _, .str _, h.gemini.1⟩

/-- A document is made of declarations of the components that are there. -/
theorem declarations_of_formatSchemas {components : Table Components} {records : List Record}
    {format : String} {entries : List Json}
    (hs : ∀ name found, components.find? name = some found → found.Schematic)
    (h : formatSchemas records (Components.table components) format = .ok entries) :
    ∀ entry ∈ entries, ∃ dialect : Dialect, ∃ record found,
      components.find? record.name = some found ∧ entry = dialect.declare record found := by
  intro entry he
  unfold formatSchemas at h
  split at h
  · cases h
  · rename_i dialect _
    obtain ⟨pairs, hpairs, hentries⟩ := Expansion.bind_eq_ok_iff.mp h
    obtain ⟨pair, hm, hentry⟩ := exists_of_mem_mapM (mapError_eq_ok_iff.mp hentries) he
    obtain ⟨record, -, hpair⟩ := exists_of_mem_mapM hpairs hm
    unfold Dialect.pair Components.table at hpair
    rw [Table.find?_map] at hpair
    cases hf : components.find? record.name with
    | none =>
        rw [hf] at hpair
        cases hpair
    | some found =>
        rw [hf] at hpair
        cases hpair
        rw [dialect.entry_eq record (hs _ found hf)] at hentry
        exact ⟨dialect, record, found, hf, (Except.ok.inj hentry).symm⟩

open Generator

/-- The documents that dialects make of what a session has generated, be it the cache or a batch. -/
theorem Generator.formatted_textual {records : List Record} {enums : Table Enumeration}
    {g : Generator} (hg : ofBatch records enums = .ok g) (earlier : List Step) (s : Step)
    {components : Table Components}
    (hc : components = ((g.after earlier).step s).generator.cache ∨
      ((g.after earlier).step s).answer = .ok (.batch components))
    {others : List Record} {format : String} {entries : List Json}
    (hf : formatSchemas others (Components.table components) format = .ok entries) :
    (Json.arr entries).Textual := by
  obtain ⟨hafter, hanswer⟩ := step_keepsTo_shaped hg earlier s
  have hshaped : ∀ name found, components.find? name = some found →
      found.Shaped (declaredIn enums (earlier ++ [s])) := by
    rcases hc with rfl | hc
    · exact hafter.cache
    · exact hanswer _ hc
  refine .arr fun entry he => ?_
  obtain ⟨dialect, record, found, hfound, rfl⟩ := declarations_of_formatSchemas
    (fun name found hfound => (hshaped name found hfound).schematic) hf entry he
  have hrecord : Fragment.Shaped (declaredIn enums (earlier ++ [s])) false (Fragment.record found) :=
    Fragment.shaped_record (hshaped _ found hfound)
  exact dialect.declare_textual record hrecord.textual

/-- A document of texts, flags and null has a text in every layout on one line and in every other whose
indentation fits, a string alone in any. The text is read as the same value up to the order of members,
and as the document itself unless its members are put in order; on one line it has one line feed, at the
end. Every document that a dialect makes of generated components is of this kind. -/
theorem encoded_documents_read_alike (memory : Nat) (pretty sortKeys : Bool) (indent : Option Int) :
    let encoding : Json.Encoding := ⟨pretty, indent.elim .none .blanks, sortKeys⟩
    (∀ document : Json, document.Textual →
      ((∃ text, encoding.encode memory document = .ok text) ↔
        (pretty = true → document.kind ≠ .str → ∀ width ∈ indent, Json.Indent.Fits memory width)) ∧
      ∀ text, encoding.encode memory document = .ok text →
        (∃ value, Json.read text = .ok value ∧ document.Alike value ∧
          (sortKeys = false → value = document)) ∧
        (pretty = false → text.toList.count '\n' = 1 ∧ text.toList.getLast? = some '\n')) ∧
    ∀ {records enums g}, ofBatch records enums = .ok g → ∀ earlier s components,
      components = ((g.after earlier).step s).generator.cache ∨
        ((g.after earlier).step s).answer = .ok (.batch components) →
      ∀ others format entries,
        formatSchemas others (Components.table components) format = .ok entries →
        (Json.arr entries).Textual := by
  intro encoding
  refine ⟨fun document h => ⟨?_, fun text he => ⟨?_, fun hp => ?_⟩⟩, ?_⟩
  · exact Json.Encoding.exists_encode_iff_error?.trans Json.Encoding.error?_of_width
  · have hlayout := Json.Encoding.layout_of_width pretty sortKeys indent
    refine ⟨_, Json.Encoding.read_of_encode hlayout h he, h.alike_arrange encoding, fun hk => ?_⟩
    rw [Json.Encoding.arrange, if_neg]
    rw [show encoding.sortKeys = false from hk]
    exact Bool.false_ne_true
  · exact Json.Encoding.count_newline hp h he
  · intro records enums g hg earlier s components hc others format entries hf
    exact formatted_textual hg earlier s hc hf

/-- The declarations of the journey, in order and with line breaks. -/
theorem traveller_declarations_read_alike :
    ∃ entries text value,
      formatSchemas (journey "[Place]") (Components.table (traveller.step .generate).generator.cache)
        "gemini" = .ok entries ∧
      (Json.arr entries).Textual ∧
      (Json.Encoding.mk true (.blanks 2) true).encode Machine.usual.memory (.arr entries) = .ok text ∧
      Json.read text = .ok value ∧ (Json.arr entries).Alike value := by
  have hg : ofBatch (journey "[Place]") modes = .ok traveller := ofBatch_of_nodup modes (by decide)
  have hok : (formatSchemas (journey "[Place]")
      (Components.table (traveller.step .generate).generator.cache) "gemini").isOk = true := by
    decide +kernel
  obtain ⟨entries, hf⟩ := Expansion.exists_of_isOk hok
  obtain ⟨hread, hgenerated⟩ := encoded_documents_read_alike Machine.usual.memory true true (some 2)
  have htextual := hgenerated hg [] .generate _ (Or.inl rfl) _ _ entries hf
  obtain ⟨hencode, hlossless⟩ := hread (.arr entries) htextual
  have hfits : ∀ width ∈ some (2 : Int), Json.Indent.Fits Machine.usual.memory width := by
    intro width hw
    cases hw
    exact ⟨by decide, by decide⟩
  obtain ⟨text, htext⟩ := hencode.mpr fun _ _ => hfits
  obtain ⟨⟨value, hvalue, halike, -⟩, -⟩ := hlossless text htext
  exact ⟨entries, text, value, hf, htextual, htext, hvalue, halike⟩

/-- Not even an empty list is written with an indentation that is no number of 64 bits. -/
theorem empty_list_unwritten :
    (Json.arr []).Textual ∧
      (Json.Encoding.mk true (.blanks 9223372036854775808) true).encode Machine.usual.memory (.arr []) =
        .error .oversizedIndent :=
  ⟨.arr (List.forall_mem_nil _), rfl⟩

end ToolSchema
