import ToolSchema.Proofs.RequiredNames
import ToolSchema.Proofs.NestedDeclarations

/-! The object schemas of a document. Wherever a schema lies in an entry, below levels and properties at
any depth, it is what a type expression means, its description aside; so an object schema with
properties is that of a target. Its required names are always properties of its own. They are distinct
exactly when the required fields of the target are, which nothing demands of a record: its properties
are a table, in which the fields of one name are one, while its required names are a list. -/

namespace ToolSchema

open Expansion
open Generation (Scope)
open TypeExpr (Level)

namespace Json

/-- From a schema to one right inside it. -/
inductive Leads : Json → Json → Prop
  | level {schema inner} (level : Level) (h : schema.member? level.key = some inner) :
      Leads schema inner
  | property {schema inner properties name}
      (h : schema.member? "properties" = some (.obj properties)) (hm : (name, inner) ∈ properties) :
      Leads schema inner

/-- A schema with all schemas inside it, to any depth. -/
def Contains : Json → Json → Prop := Relation.ReflTransGen Leads

theorem contains_of_inside {levels : List Level} {schema inner : Json}
    (h : schema.inside levels = some inner) : schema.Contains inner := by
  induction levels generalizing schema with
  | nil =>
      cases h
      exact .refl
  | cons level rest ih =>
      obtain ⟨next, hn, h⟩ := Option.bind_eq_some_iff.mp h
      exact .head (.level level hn) (ih h)

theorem contains_of_along {steps : List (String × List Level)} {schema inner : Json}
    (h : schema.along steps = some inner) : schema.Contains inner := by
  induction steps generalizing schema with
  | nil =>
      cases h
      exact .refl
  | cons step rest ih =>
      obtain ⟨properties, hp, hinner⟩ := Option.bind_eq_some_iff.mp h
      obtain ⟨property, hf, hbelow⟩ := Option.bind_eq_some_iff.mp hinner
      obtain ⟨next, hn, hrest⟩ := Option.bind_eq_some_iff.mp hbelow
      have hnext := (contains_of_inside hn).trans (ih hrest)
      cases properties with
      | obj members => exact .head (.property hp (Table.mem_of_find? hf)) hnext
      | _ => cases hf

/-- What a schema with properties requires are properties of its own, each of them once. -/
def WellRequired (schema : Json) : Prop :=
  ∀ properties, schema.member? "properties" = some (.obj properties) →
    ∃ required : List String, schema.member? "required" = some (.arr (required.map .str)) ∧
      required.Nodup ∧ ∀ name ∈ required, name ∈ Table.keys properties

end Json

namespace Expansion

/-- What type expressions mean to the targets of a scope. -/
inductive Meaning (scope : Scope) : Json → Prop
  | primitive (p : Primitive) : Meaning scope (Fragment.primitive p)
  | enumeration (e : Enumeration) : Meaning scope e.fragment
  | level {fragment} (level : Level) (h : Meaning scope fragment) :
      Meaning scope (Fragment.level level fragment)
  | record {r} (hr : r ∈ scope.targets) (hx : Expands scope [] r) :
      Meaning scope (Fragment.record (components scope r))

variable {scope : Scope} {fragment : Json}

theorem Meaning.isObject (h : Meaning scope fragment) : fragment.IsObject := by
  cases h with
  | primitive p => exact Fragment.isObject_primitive p
  | enumeration e => exact e.isObject_fragment
  | level level h => exact Fragment.isObject_level level _
  | record hr hx => exact ⟨_, rfl⟩

theorem Meaning.wrap (h : Meaning scope fragment) (levels : List Level) :
    Meaning scope (Fragment.wrap levels fragment) := by
  induction levels with
  | nil => exact h
  | cons level rest ih => exact .level level ih

theorem meaning_of_leaf {site : Site} {written name : List Char}
    (h : leaf scope.enums (target scope []) site written name = .ok fragment) :
    Meaning scope fragment := by
  unfold leaf at h
  split at h
  · cases h
    exact .primitive _
  · split at h
    · cases h
      exact .enumeration _
    · obtain ⟨found, hf, h⟩ := bind_eq_ok_iff.mp h
      cases found with
      | none =>
          dsimp only at h
          split at h <;> cases h
      | some nested =>
          cases h
          cases ht : scope.target? (String.ofList name) with
          | none =>
              rw [target_of_none ht] at hf
              cases hf
          | some r =>
              have hr := (target_eq_ok_some_iff ht).mp hf
              rw [← components_eq hr]
              exact .record (Scope.target?_eq_some ht).1 ⟨nested, hr⟩

theorem meaning_of_rawType {site : Site} {text : List Char}
    (h : rawType scope.enums (target scope []) site text = .ok fragment) :
    Meaning scope fragment := by
  obtain ⟨found, inner, -, hl, rfl⟩ := rawType_eq_ok_iff.mp h
  exact (meaning_of_leaf hl).wrap found.levels

/-- A property is what the type of a field means by itself, with the description of the field. -/
theorem Expands.property_meaning {r : Record} (hd : (scope.targets.map Record.name).Nodup)
    (h : Expands scope [] r) {name : String} {value : Json}
    (hm : (name, value) ∈ (components scope r).properties) :
    ∃ (field : Field) (fragment : Json), Meaning scope fragment ∧ value = field.describe fragment := by
  refine h.extends.forall_properties
    (P := fun value => ∃ (field : Field) (fragment : Json), Meaning scope fragment ∧
      value = field.describe fragment)
    (fun _ _ hm => absurd hm List.not_mem_nil) (fun field fragment hf => ?_) name value hm
  have hself := target_kept (Scope.within_self hd) (List.nil_subset [r.name])
  exact ⟨field, fragment, meaning_of_rawType (rawType_kept hself _ _ _ hf), rfl⟩

theorem Expands.keys_properties {r : Record} (h : Expands scope [] r) :
    (components scope r).properties.keys = (r.fields.map Field.name).eraseDups :=
  h.extends.keys_eq List.nodup_nil

theorem Expands.required_eq {r : Record} (h : Expands scope [] r) :
    (components scope r).required =
      (r.fields.filter fun field => !field.optional).map Field.name :=
  h.extends.required_eq

end Expansion

/-! ### Which members lead inside -/

theorem Fragment.member?_primitive (p : Primitive) {key : String} (ht : key ≠ "type")
    (hf : key ≠ "format") : (Fragment.primitive p).member? key = none := by
  unfold Fragment.primitive
  split <;> simp [Json.member?, ht.symm, hf.symm]

theorem Enumeration.member?_fragment (e : Enumeration) {key : String} (ht : key ≠ "type")
    (he : key ≠ "enum") (hd : key ≠ "description") : e.fragment.member? key = none := by
  unfold Enumeration.fragment
  dsimp only
  split <;> simp [Fragment.describe, Json.member?, Table.find?_put, ht.symm, he.symm, hd.symm]

theorem Fragment.member?_level_of_ne (level : Level) (fragment : Json) {key : String}
    (ht : key ≠ "type") (hk : key ≠ level.key) :
    (Fragment.level level fragment).member? key = none := by
  cases level with
  | array => simp [Fragment.level, Json.member?, ht.symm, show "items" ≠ key from hk.symm]
  | map => simp [Fragment.level, Json.member?, ht.symm, show "additionalProperties" ≠ key from hk.symm]

theorem Fragment.member?_record_level (components : Components) (level : Level) :
    (Fragment.record components).member? level.key = none := by
  cases level <;> rfl

namespace Expansion

variable {scope : Scope} {fragment : Json}

/-- Inside a level there is a meaning again. -/
theorem Meaning.inside (h : Meaning scope fragment) {level : Level} {inner : Json}
    (hm : fragment.member? level.key = some inner) : Meaning scope inner := by
  have htype : level.key ≠ "type" := by cases level <;> decide
  cases h with
  | primitive p =>
      rw [Fragment.member?_primitive p htype level.key_ne.2] at hm
      cases hm
  | enumeration e =>
      rw [e.member?_fragment htype (by cases level <;> decide) level.key_ne.1] at hm
      cases hm
  | level outer h =>
      by_cases hk : level = outer
      · rw [hk, Fragment.member?_level] at hm
        cases hm
        exact h
      · have hne : level.key ≠ outer.key := by
          cases level <;> cases outer <;> first | exact absurd rfl hk | decide
        rw [Fragment.member?_level_of_ne outer _ htype hne] at hm
        cases hm
  | record hr hx =>
      rw [Fragment.member?_record_level] at hm
      cases hm

/-- Only targets have properties. -/
theorem Meaning.eq_record (h : Meaning scope fragment) {properties : Json}
    (hm : fragment.member? "properties" = some properties) :
    ∃ r ∈ scope.targets, Expands scope [] r ∧ fragment = Fragment.record (components scope r) := by
  cases h with
  | primitive p =>
      rw [Fragment.member?_primitive p (by decide) (by decide)] at hm
      cases hm
  | enumeration e =>
      rw [e.member?_fragment (by decide) (by decide) (by decide)] at hm
      cases hm
  | level outer h =>
      rw [Fragment.member?_level_of_ne outer _ (by decide) (by cases outer <;> decide)] at hm
      cases hm
  | record hr hx => exact ⟨_, hr, hx, rfl⟩

end Expansion

/-! ### Schemas inside an entry -/

namespace Dialect

variable {dialect : Dialect} {scope : Scope} {schema inner : Json}

/-- A schema that is written for what a type expression means, up to a description. -/
def Writes (dialect : Dialect) (scope : Scope) (schema : Json) : Prop :=
  ∃ fragment, Meaning scope fragment ∧ ∀ key, key ≠ "description" → key ≠ "format" →
    schema.member? key = (dialect.schema fragment).member? key

theorem Writes.of_meaning {fragment : Json} (h : Meaning scope fragment) :
    dialect.Writes scope (dialect.schema fragment) :=
  ⟨fragment, h, fun _ _ _ => rfl⟩

/-- A schema with properties is the object schema of a target. -/
theorem Writes.declares (h : dialect.Writes scope schema) {properties : Json}
    (hm : schema.member? "properties" = some properties) :
    ∃ r ∈ scope.targets, Expands scope [] r ∧ dialect.Declares (components scope r) schema := by
  obtain ⟨fragment, hmeans, hsame⟩ := h
  rw [hsame _ (by decide) (by decide), dialect.member?_schema (by decide) hmeans.isObject] at hm
  obtain ⟨_, hfragment, -⟩ := Option.map_eq_some_iff.mp hm
  obtain ⟨r, hr, hx, rfl⟩ := hmeans.eq_record hfragment
  have hdecl := dialect.declares_record (components scope r)
  exact ⟨r, hr, hx, (hsame _ (by decide) (by decide)).trans hdecl.type,
    (hsame _ (by decide) (by decide)).trans hdecl.properties,
    (hsame _ (by decide) (by decide)).trans hdecl.required⟩

theorem Writes.leads (hd : (scope.targets.map Record.name).Nodup)
    (h : dialect.Writes scope schema) (hl : schema.Leads inner) : dialect.Writes scope inner := by
  cases hl with
  | level level hm =>
      obtain ⟨fragment, hmeans, hsame⟩ := h
      rw [hsame _ level.key_ne.1 level.key_ne.2,
        dialect.member?_schema level.key_ne.2 hmeans.isObject] at hm
      obtain ⟨below, hbelow, rfl⟩ := Option.map_eq_some_iff.mp hm
      have hkey : level.key = "items" ∨ level.key = "additionalProperties" := by
        cases level
        · exact Or.inl rfl
        · exact Or.inr rfl
      have hinside := hmeans.inside hbelow
      rw [dialect.memberValue_of_isObject hkey hinside.isObject]
      exact .of_meaning hinside
  | property hp hm =>
      obtain ⟨r, hr, hx, hdecl⟩ := h.declares hp
      cases hdecl.properties.symm.trans hp
      obtain ⟨⟨name, value⟩, hvalue, he⟩ := List.mem_map.mp hm
      cases he
      obtain ⟨field, fragment, hmeans, rfl⟩ := hx.property_meaning hd hvalue
      exact ⟨fragment, hmeans, fun key hdescription hformat =>
        dialect.member?_schema_describe hdescription hformat field hmeans.isObject⟩

theorem Writes.contains (hd : (scope.targets.map Record.name).Nodup)
    (h : dialect.Writes scope schema) (hc : schema.Contains inner) :
    dialect.Writes scope inner := by
  induction hc with
  | refl => exact h
  | tail _ hl ih => exact ih.leads hd hl

end Dialect

theorem Fragment.names_inj {items others : List String} (h : names items = names others) :
    items = others :=
  (List.map_injective_iff.mpr fun _ _ h => Json.str.inj h) (Json.arr.inj h)

/-- What a target requires are always properties; whether each is required once is up to its fields. -/
theorem Dialect.Declares.wellRequired_iff {dialect : Dialect} {scope : Scope} {schema : Json}
    {s : Record} (hx : Expands scope [] s) (h : dialect.Declares (components scope s) schema) :
    schema.WellRequired ↔
      ((s.fields.filter fun field => !field.optional).map Field.name).Nodup := by
  rw [← hx.required_eq]
  constructor
  · intro hw
    obtain ⟨required, hr, hn, -⟩ := hw _ h.properties
    rw [Fragment.names_inj (Option.some.inj (h.required.symm.trans hr))]
    exact hn
  · intro hn properties hp
    cases h.properties.symm.trans hp
    refine ⟨_, h.required, hn, fun name hname => ?_⟩
    rw [hx.required_eq] at hname
    rw [dialect.keys_properties, hx.keys_properties, List.mem_eraseDups]
    exact (List.filter_sublist.map Field.name).subset hname

/-- Anywhere in the parameters of an entry, an object schema with properties is that of a target: it has
a property for each name of a field, and requires the name of every field that is not optional, which
is one of them. It requires nothing twice exactly if the target has no two such fields of one name. -/
theorem object_schemas_declare_targets {descriptors : Json} {origin : String} {names : List String}
    {dialect : Dialect} {set : DescriptorSet} {document : List Json}
    (h : Builds descriptors origin names dialect set document) {entry : Json}
    (he : entry ∈ document) :
    ∃ parameters, (dialect.declaration? entry).bind (Json.member? · "parameters") = some parameters ∧
      ∀ schema properties, parameters.Contains schema →
        schema.member? "properties" = some (.obj properties) →
        ∃ s ∈ (set.select names).targets, ∃ required,
          required = (s.fields.filter fun field => !field.optional).map Field.name ∧
          schema.member? "required" = some (.arr (required.map .str)) ∧
          Table.keys properties = (s.fields.map Field.name).eraseDups ∧
          (∀ name ∈ required, name ∈ Table.keys properties) ∧
          (schema.WellRequired ↔ required.Nodup) := by
  have hd := set.nodup_targets names
  obtain ⟨hx, rfl⟩ := (buildDocument_eq_ok_iff hd dialect).mp h.built
  obtain ⟨r, hr, rfl⟩ := List.mem_map.mp he
  refine ⟨_, dialect.parameters_declare r _, fun schema properties hc hp => ?_⟩
  have hw : dialect.Writes (set.requested names) schema :=
    (Dialect.Writes.of_meaning (.record hr (hx r hr))).contains hd hc
  obtain ⟨s, hs, hxs, hdecl⟩ := hw.declares hp
  cases hdecl.properties.symm.trans hp
  have hkeys : Table.keys (dialect.properties (components (set.requested names) s)) =
      (s.fields.map Field.name).eraseDups :=
    (dialect.keys_properties _).trans hxs.keys_properties
  refine ⟨s, hs, _, rfl, ?_, hkeys, fun name hn => ?_, hdecl.wellRequired_iff hxs⟩
  · rw [← hxs.required_eq]
    exact hdecl.required
  · rw [hkeys, List.mem_eraseDups]
    exact (List.filter_sublist.map Field.name).subset hn

/-- The schema of `Leg` inside the entry of `Trip`. -/
theorem timetable_leg_required :
    ∃ document entry parameters schema,
      Builds timetable "timetable.json" ["Trip", "Leg", "Place"] .gemini timetableSet document ∧
        entry ∈ document ∧
        (Dialect.gemini.declaration? entry).bind (Json.member? · "parameters") = some parameters ∧
        parameters.along [("back", [])] = some schema ∧
        schema.member? "required" = some (.arr [.str "via"]) ∧ schema.WellRequired := by
  obtain ⟨document, h⟩ := timetable_builds .gemini
  have hd := timetableSet.nodup_targets ["Trip", "Leg", "Place"]
  obtain ⟨hx, hdocument⟩ := (buildDocument_eq_ok_iff hd .gemini).mp h.built
  have hback : (timetableSet.requested ["Trip", "Leg", "Place"]).Refers timetableSet.records[0]
      "back" [] timetableSet.records[1] :=
    ⟨by decide, by decide, by decide, by decide, _, List.getElem_mem (n := 1) (by decide), rfl,
      ⟨[], "Leg".toList, "Leg".toList⟩, by cbv, rfl, by decide⟩
  have hr : timetableSet.records[0] ∈ (timetableSet.select ["Trip", "Leg", "Place"]).targets := by
    decide
  have he := List.mem_map_of_mem (f := fun r => Dialect.gemini.declare r
    (components (timetableSet.requested ["Trip", "Leg", "Place"]) r)) hr
  have hchain : (timetableSet.requested ["Trip", "Leg", "Place"]).RefersAlong
      timetableSet.records[0] [("back", [])] timetableSet.records[1] := ⟨_, hback, rfl⟩
  obtain ⟨hs, schema, halong, hdecl⟩ := Expansion.along_declares hd hx .gemini hr hchain
    (Dialect.gemini.declares_record _)
  obtain ⟨parameters, hparameters, hall⟩ := object_schemas_declare_targets h (hdocument ▸ he)
  cases (Dialect.gemini.parameters_declare _ _).symm.trans hparameters
  obtain ⟨s, -, required, -, hrequired, -, -, hwell⟩ :=
    hall schema _ (Json.contains_of_along halong) hdecl.properties
  have hvia := hdecl.required
  rw [(h.expands hs).required_eq] at hvia
  have hnames : ["via"] = required := Fragment.names_inj (Option.some.inj (hvia.symm.trans hrequired))
  exact ⟨document, _, _, schema, h, hdocument ▸ he, hparameters, halong, hvia,
    hwell.mpr (hnames ▸ List.nodup_singleton _)⟩

/-- `Place` has two fields of one name, so that its entry requires the name twice. -/
theorem timetable_place_required :
    ∃ document parameters,
      Builds timetable "timetable.json" ["Trip", "Leg", "Place"] .openai timetableSet document ∧
        Dialect.openai.parameters? document "Place" = some parameters ∧
        parameters.member? "required" = some (.arr [.str "x", .str "mode", .str "x"]) ∧
        ¬ parameters.WellRequired := by
  obtain ⟨document, h⟩ := timetable_builds .openai
  have hr : timetableSet.records[2] ∈ (timetableSet.select ["Trip", "Leg", "Place"]).targets := by
    decide
  have hx := h.expands hr
  have hdecl := Dialect.openai.declares_record
    (components (timetableSet.requested ["Trip", "Leg", "Place"]) timetableSet.records[2])
  refine ⟨document, _, h, h.parameters?_eq hr, ?_, ?_⟩
  · rw [hdecl.required, hx.required_eq]
    rfl
  · rw [hdecl.wellRequired_iff hx]
    decide

end ToolSchema
