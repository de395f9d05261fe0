import ToolSchema.Json.Shown
import ToolSchema.Proofs.DialectImage
import ToolSchema.Proofs.Selections

/-! Formatting records. Whether records can be formatted is settled before any of them is: the format has to
name a dialect, and then every name among the records has to have components. Repetitions do not matter to
either, since the first record of a name stands for all. What is left is one entry for each name. -/

namespace ToolSchema

/-! ### Formats -/

theorem not_isLower_of_isDigit {c : Char} (h : c.isDigit = true) : c.isLower = false := by
  refine Bool.eq_false_iff.mpr fun hl => ?_
  have hdigit : c.val ≤ '9'.val := of_decide_eq_true (Bool.and_eq_true_iff.mp h).2
  have hlower : 'a'.val ≤ c.val := of_decide_eq_true (Bool.and_eq_true_iff.mp hl).1
  exact absurd (UInt32.le_trans hlower hdigit) (by decide)

theorem Decimal.exists_digit (n : Nat) : ∃ c ∈ digitChars n, c.isLower = false := by
  obtain ⟨c, hc⟩ := List.exists_mem_of_ne_nil (digitChars n) Nat.toDigits_ne_nil
  exact ⟨c, hc, not_isLower_of_isDigit (Nat.isDigit_of_mem_toDigits (by decide) (by decide) hc)⟩

theorem Decimal.Style.exists_mark (style : Style) (number : Scaled) :
    ∃ c ∈ style.render number, c.isLower = false := by
  unfold render
  dsimp only
  split
  · split
    · exact ⟨'.', by simp, rfl⟩
    · split <;> exact ⟨'.', by simp, rfl⟩
  · refine ⟨_, List.mem_append_right _ (List.mem_cons_of_mem 'e' List.mem_cons_self), ?_⟩
    split <;> rfl

namespace Json

theorem shownChars_cases {value : Json} (h : ∀ text, value ≠ .str text) :
    (∃ c ∈ value.shownChars, c.isLower = false) ∨
      value.shownChars ∈ ["nan".toList, "inf".toList] := by
  cases value with
  | null =>
      have hc : 'N' ∈ "None".toList := by simp
      exact Or.inl ⟨'N', hc, rfl⟩
  | bool value =>
      have ht : 'T' ∈ "True".toList := by simp
      have hf : 'F' ∈ "False".toList := by simp
      cases value with
      | true => exact Or.inl ⟨'T', ht, rfl⟩
      | false => exact Or.inl ⟨'F', hf, rfl⟩
  | int n =>
      change (∃ c ∈ intChars n, c.isLower = false) ∨ _
      rw [intChars]
      split
      · exact Or.inl ⟨'-', List.mem_cons_self, rfl⟩
      · exact Or.inl (Decimal.exists_digit _)
  | float x =>
      have hnegative (text : List Char) : ∃ c ∈ '-' :: text, c.isLower = false :=
        ⟨'-', List.mem_cons_self, rfl⟩
      change (∃ c ∈ floatCharsWith "nan".toList "inf".toList x, c.isLower = false) ∨
        floatCharsWith "nan".toList "inf".toList x ∈ _
      rw [floatCharsWith]
      dsimp only
      split
      · exact Or.inr List.mem_cons_self
      · split
        · exact Or.inl (hnegative _)
        · exact Or.inr (List.mem_cons_of_mem _ List.mem_cons_self)
      · split
        · exact Or.inl (hnegative _)
        · exact Or.inl ⟨'.', by simp, rfl⟩
      · split
        · exact Or.inl (hnegative _)
        · exact Or.inl (Decimal.plain.exists_mark _)
  | str text => exact absurd rfl (h text)
  | arr items => exact Or.inl ⟨'[', List.mem_cons_self, rfl⟩
  | obj members => exact Or.inl ⟨'\x7b', List.mem_cons_self, rfl⟩

end Json

namespace Dialect

theorem toList_name_cases (dialect : Dialect) :
    dialect.name.toList.all Char.isLower = true ∧
      dialect.name.toList ∉ ["nan".toList, "inf".toList] := by
  cases dialect <;> decide +kernel

/-- Only a text names a dialect: no other value is shown in small letters, but for two numbers. -/
theorem ofName?_plainText_iff {format : Json} {dialect : Dialect} :
    ofName? format.plainText = some dialect ↔ format = .str dialect.name := by
  constructor
  · intro h
    have hname := ofName?_eq_some h
    by_cases ht : ∃ text, format = .str text
    · obtain ⟨text, rfl⟩ := ht
      exact congrArg Json.str hname
    · rw [not_exists] at ht
      have hplain : format.plainText = format.shown := by
        unfold Json.plainText
        split
        · exact absurd rfl (ht _)
        · rfl
      have hshown : format.shownChars = dialect.name.toList := by
        rw [← hname, hplain, Json.shown, String.toList_ofList]
      obtain ⟨hlower, hnumber⟩ := dialect.toList_name_cases
      rcases Json.shownChars_cases ht with ⟨c, hc, hn⟩ | hn
      · rw [hshown] at hc
        exact absurd (List.all_eq_true.mp hlower c hc) (hn ▸ Bool.false_ne_true)
      · exact absurd (hshown ▸ hn) hnumber
  · rintro rfl
    exact dialect.ofName?_name

/-! ### Entries -/

/-- What the entry of a record says of the record itself; a tool is silent where nothing is said. -/
def described : Dialect → Record → Option Json
  | .gemini, record => some (.str (record.description.getD ""))
  | _, record => (spoken? record.description).map .str

/-- An entry made of a record and its components. -/
structure Presents (dialect : Dialect) (record : Record) (components : Components) (entry : Json) :
    Prop where
  built : dialect.entry record components.parameters = .ok entry
  name : dialect.declaredName? entry = some record.name
  description : (dialect.declaration? entry).bind (Json.member? · "description") =
    dialect.described record
  parameters : (dialect.declaration? entry).bind (Json.member? · "parameters") =
    some (dialect.schema (Fragment.record components))

/-- An entry for each name, in the order in which the names first come, made of the first record of the
name and its components. -/
def PresentsEach (dialect : Dialect) (records : List Record) (components : Table Components)
    (entries : List Json) : Prop :=
  List.Forall₂ (fun name entry => ∃ r found, records.find? (fun r => r.name = name) = some r ∧
      components.find? name = some found ∧ dialect.Presents r found entry)
    (records.map Record.name).eraseDups entries

theorem presents_declare (dialect : Dialect) (record : Record) {components : Components}
    (h : components.Schematic) :
    dialect.Presents record components (dialect.declare record components) where
  built := dialect.entry_eq record h
  name := dialect.declaredName?_declare record components
  description := by
    have htool : ((toolEntry record components.parameters).member? "function").bind
        (Json.member? · "description") = (spoken? record.description).map .str := by
      rw [member?_toolEntry, Option.bind_some, description_toolFunction]
    cases dialect with
    | gemini => rfl
    | openai => exact htool
    | grok => exact htool
  parameters := dialect.parameters_declare record components

end Dialect

/-- The components of a record that has some. -/
def Record.componentsIn (components : Table Components) (r : Record) : Components :=
  (components.find? r.name).getD {}

variable {records : List Record} {components : Table Components} {r : Record}

theorem Record.find?_componentsIn (h : r.name ∈ components.keys) :
    components.find? r.name = some (r.componentsIn components) := by
  cases hf : components.find? r.name with
  | none => exact absurd h (Table.find?_eq_none_iff.mp hf)
  | some found => rw [componentsIn, hf, Option.getD_some]

namespace Dialect

variable (dialect : Dialect)

theorem pair_of_mem (h : r.name ∈ components.keys) :
    dialect.pair (Components.table components) r =
      .ok (r, (r.componentsIn components).parameters) := by
  rw [pair, Components.table, Table.find?_map, Record.find?_componentsIn h]
  rfl

theorem pair_of_not_mem (h : r.name ∉ components.keys) :
    dialect.pair (Components.table components) r =
      .error (.missingComponents r.name dialect) := by
  rw [pair, Components.table, Table.find?_map, Table.find?_eq_none_iff.mpr h]
  rfl

/-- Of the first records of their names, the first without components is the first of all without. -/
theorem pairs_of_missing
    (h : (records.find? fun r => r.name ∉ components.keys) = some r) :
    dialect.pairs records (Components.table components) =
      .error (.missingComponents r.name dialect) := by
  rw [← find?_firsts Record.name fun name => name ∉ components.keys] at h
  obtain ⟨hr, front, back, he, hfront⟩ := List.find?_eq_some_iff_append.mp h
  refine mapM_eq_error_iff.mpr ⟨front, r, back, he, fun s hs => ?_, ?_⟩
  · exact ⟨_, dialect.pair_of_mem (by simpa using hfront s hs)⟩
  · exact dialect.pair_of_not_mem (by simpa using hr)

end Dialect

/-! ### Documents -/

theorem formatSchemas_of_unknown {format : String} (h : Dialect.ofName? format = none)
    (records : List Record) (table : Table Parameters) :
    formatSchemas records table format = .error (.unknownFormat format) := by
  rw [formatSchemas, h]

section Known

variable (dialect : Dialect)

theorem formatSchemas_of_missing
    (h : (records.find? fun r => r.name ∉ components.keys) = some r) :
    formatSchemas records (Components.table components) dialect.name =
      .error (.missingComponents r.name dialect) := by
  rw [formatSchemas, dialect.ofName?_name]
  exact bind_eq_error_iff.mpr (Or.inl (dialect.pairs_of_missing h))

variable (hs : ∀ name found, components.find? name = some found → found.Schematic)
include hs

theorem formatSchemas_of_complete (h : ∀ r ∈ records, r.name ∈ components.keys) :
    formatSchemas records (Components.table components) dialect.name =
      .ok ((firsts Record.name records).map fun r =>
        dialect.declare r (r.componentsIn components)) :=
  formatSchemas_of_found dialect (fun r hr => Record.find?_componentsIn (h r hr))
    fun r hr => hs _ _ (Record.find?_componentsIn (h r hr))

theorem presentsEach_firsts (h : ∀ r ∈ records, r.name ∈ components.keys) :
    dialect.PresentsEach records components ((firsts Record.name records).map fun r =>
      dialect.declare r (r.componentsIn components)) := by
  rw [Dialect.PresentsEach, ← map_firsts, List.forall₂_map_left_iff, List.forall₂_map_right_iff,
    List.forall₂_same]
  intro r hr
  have hfound := Record.find?_componentsIn (h r (mem_firstsAfter hr).1)
  exact ⟨r, _, find?_of_mem_firsts hr, hfound, dialect.presents_declare r (hs _ _ hfound)⟩

/-- The records settle for all dialects at once whether there is a document. -/
theorem formatSchemas_cases (records : List Record) :
    (∃ r, (records.find? fun r => r.name ∉ components.keys) = some r ∧
      ∀ dialect : Dialect, formatSchemas records (Components.table components) dialect.name =
        .error (.missingComponents r.name dialect)) ∨
    ((records.find? fun r => r.name ∉ components.keys) = none ∧
      (∀ r ∈ records, r.name ∈ components.keys) ∧
      ∀ dialect : Dialect, formatSchemas records (Components.table components) dialect.name =
        .ok ((firsts Record.name records).map fun r =>
          dialect.declare r (r.componentsIn components))) := by
  cases hb : records.find? fun r => r.name ∉ components.keys with
  | some r => exact Or.inl ⟨r, rfl, fun dialect => formatSchemas_of_missing dialect hb⟩
  | none =>
      have hk : ∀ r ∈ records, r.name ∈ components.keys := fun r hr => by
        simpa using List.find?_eq_none.mp hb r hr
      exact Or.inr ⟨rfl, hk, fun dialect => formatSchemas_of_complete dialect hs hk⟩

theorem formatSchemas_ne_unknown (records : List Record) (shown : String) :
    formatSchemas records (Components.table components) dialect.name ≠
      .error (.unknownFormat shown) := by
  intro h
  rcases formatSchemas_cases hs records with ⟨r, -, hm⟩ | ⟨-, -, hc⟩
  · cases (hm dialect).symm.trans h
  · cases (hc dialect).symm.trans h

/-- The document of a dialect names the first record without components, or else presents each name. -/
theorem formatSchemas_presents (records : List Record) :
    let outcome := formatSchemas records (Components.table components) dialect.name
    (∀ name told, outcome = .error (.missingComponents name told) ↔
      (∃ r, records.find? (fun r => r.name ∉ components.keys) = some r ∧ r.name = name) ∧
        told = dialect) ∧
    ((∃ entries, outcome = .ok entries) ↔ ∀ r ∈ records, r.name ∈ components.keys) ∧
    ∀ entries, outcome = .ok entries → dialect.PresentsEach records components entries := by
  dsimp only
  rcases formatSchemas_cases hs records with ⟨r, hr, hm⟩ | ⟨hn, hk, hc⟩
  · have hbare : ¬∀ r ∈ records, r.name ∈ components.keys := fun hk =>
      absurd (hk r (List.mem_of_find?_eq_some hr)) (by simpa using List.find?_some hr)
    rw [hm, hr]
    have hfails (entries : List Json) :
        (.error (.missingComponents r.name dialect) : Except FormattingError _) ≠ .ok entries := by
      intro h
      cases h
    refine ⟨fun name told => ?_, iff_of_false (not_exists.mpr hfails) hbare,
      fun entries h => absurd h (hfails entries)⟩
    simp [eq_comm]
  · rw [hc, hn]
    refine ⟨fun name told => by simp, iff_of_true ⟨_, rfl⟩ hk, fun entries he => ?_⟩
    cases he
    exact presentsEach_firsts dialect hs hk

end Known

/-- Formatting fails for a format that names no dialect, whatever else is wrong; else for the first
record whose name has no components, if there is one; and else it presents each name once. The first
two dialects have the same entries. -/
theorem formatting_outcomes {components : Table Components}
    (hs : ∀ name found, components.find? name = some found → found.Schematic)
    (records : List Record) (format : Json) :
    let outcome := formatSchemas records (Components.table components) format.plainText
    (∀ shown, outcome = .error (.unknownFormat shown) ↔
      (∀ dialect : Dialect, format ≠ .str dialect.name) ∧ shown = format.plainText) ∧
    (∀ dialect : Dialect, format = .str dialect.name →
      (∀ name told, outcome = .error (.missingComponents name told) ↔
        (∃ r, records.find? (fun r => r.name ∉ components.keys) = some r ∧ r.name = name) ∧
          told = dialect) ∧
      ((∃ entries, outcome = .ok entries) ↔ ∀ r ∈ records, r.name ∈ components.keys) ∧
      ∀ entries, outcome = .ok entries → dialect.PresentsEach records components entries) ∧
    ∀ entries,
      formatSchemas records (Components.table components) Dialect.openai.name = .ok entries ↔
        formatSchemas records (Components.table components) Dialect.grok.name = .ok entries := by
  refine ⟨fun shown => ?_, ?_, fun entries => ?_⟩
  · cases hd : Dialect.ofName? format.plainText with
    | none =>
        have hne (dialect : Dialect) : format ≠ .str dialect.name := by
          intro he
          rw [Dialect.ofName?_plainText_iff.mpr he] at hd
          cases hd
        rw [formatSchemas_of_unknown hd]
        simp [hne, eq_comm]
    | some dialect =>
        have he := Dialect.ofName?_plainText_iff.mp hd
        subst he
        exact iff_of_false (formatSchemas_ne_unknown dialect hs records shown)
          fun h => h.1 dialect rfl
  · rintro dialect rfl
    exact formatSchemas_presents dialect hs records
  · rcases formatSchemas_cases hs records with ⟨r, -, hm⟩ | ⟨-, -, hc⟩
    · rw [hm, hm]
      simp
    · rw [hc, hc]
      rfl

/-- A stop that is described twice, and a leg. -/
def stops : List Record :=
  [{ name := "Place", description := some "a stop" }, { name := "Leg" },
    { name := "Place", description := some "another" }]

def stopComponents : Table Components :=
  [("Leg", {}), ("Place", { properties := [("x", .obj [("type", .str "number")])]
                            required := ["x"] })]

theorem stops_outcomes :
    (∃ place leg,
      formatSchemas stops (Components.table stopComponents) "gemini" = .ok [place, leg] ∧
      Dialect.gemini.declaredName? place = some "Place" ∧
      place.member? "description" = some (.str "a stop") ∧
      Dialect.gemini.declaredName? leg = some "Leg") ∧
    formatSchemas ({ name := "Depot" } :: stops) (Components.table stopComponents) "grok" =
      .error (.missingComponents "Depot" .grok) ∧
    formatSchemas ({ name := "Depot" } :: stops) (Components.table stopComponents)
      (Json.plainText .null) = .error (.unknownFormat "None") := by
  have hs : ∀ name found, stopComponents.find? name = some found → found.Schematic := by
    intro name found hf property value hv
    have hm := Table.mem_of_find? hf
    simp only [stopComponents, List.mem_cons, Prod.mk.injEq, List.not_mem_nil, or_false] at hm
    rcases hm with ⟨-, rfl⟩ | ⟨-, rfl⟩
    · cases hv
    · simp only [List.mem_singleton, Prod.mk.injEq] at hv
      exact ⟨_, hv.2⟩
  obtain ⟨-, hgemini, -⟩ := formatting_outcomes hs stops (.str Dialect.gemini.name)
  obtain ⟨-, hgrok, -⟩ := formatting_outcomes hs ({ name := "Depot" } :: stops) (.str Dialect.grok.name)
  obtain ⟨hunknown, -⟩ := formatting_outcomes hs ({ name := "Depot" } :: stops) .null
  refine ⟨?_, ?_, ?_⟩
  · obtain ⟨-, hok, hall⟩ := hgemini .gemini rfl
    obtain ⟨entries, he⟩ := hok.mpr (by decide)
    have hentries := hall entries he
    have hnames : (stops.map Record.name).eraseDups = ["Place", "Leg"] := by decide
    rw [Dialect.PresentsEach, hnames, List.forall₂_cons_left_iff] at hentries
    obtain ⟨place, rest, ⟨first, found, hfirst, -, hplace⟩, hrest, rfl⟩ := hentries
    obtain ⟨leg, others, ⟨second, ofLeg, hsecond, -, hleg⟩, hothers, rfl⟩ :=
      List.forall₂_cons_left_iff.mp hrest
    cases hothers
    cases hfirst
    cases hsecond
    exact ⟨place, leg, he, hplace.name, hplace.description, hleg.name⟩
  · exact ((hgrok .grok rfl).1 "Depot" .grok).mpr ⟨⟨{ name := "Depot" }, by decide, rfl⟩, rfl⟩
  · exact (hunknown "None").mpr ⟨fun dialect he => (by cases he), rfl⟩

end ToolSchema
