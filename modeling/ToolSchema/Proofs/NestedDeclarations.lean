import ToolSchema.Proofs.Growth

/-! Nested records are declared as they are by themselves. A field that refers to a target leads, below
the levels of its type, to the object schema that the entry of the target has; a description of the
field stands beside it and changes nothing in it. From there the fields of the target lead on, so the
same holds along every chain of references (`along_declares`). -/

namespace ToolSchema

open Expansion
open Generation (Scope)
open TypeExpr (Level)

/-! ### Chains of references -/

namespace Generation.Scope

variable (scope : Scope)

/-- A field leads below its levels to a target. Only records without repeated field names count, as a
later field of the same name would stand in its place. -/
def Refers (r : Record) (name : String) (levels : List Level) (s : Record) : Prop :=
  (r.fields.map Field.name).Nodup ∧ s ∈ scope.targets ∧ s.name ∉ primitives.keys ∧
    s.name ∉ scope.enums.keys ∧ ∃ field ∈ r.fields, field.name = name ∧
      ∃ leaf, TypeExpr.descend field.rawType.toList = .ok leaf ∧ leaf.levels = levels ∧
        String.ofList leaf.name = s.name

/-- References one after the other, each by the name and the levels of the field. -/
def RefersAlong : Record → List (String × List Level) → Record → Prop
  | r, [], s => r = s
  | r, (name, levels) :: rest, s => ∃ next, scope.Refers r name levels next ∧ RefersAlong next rest s

end Generation.Scope

/-- The member of a schema that leads inside a level. -/
def TypeExpr.Level.key : Level → String
  | .array => "items"
  | .map => "additionalProperties"

namespace Json

/-- What is inside the levels of a schema. -/
def inside : List Level → Json → Option Json
  | [], schema => some schema
  | level :: rest, schema => (schema.member? level.key).bind (inside rest)

/-- What is reached from the schema of an object through properties and what is inside their levels. -/
def along : List (String × List Level) → Json → Option Json
  | [], schema => some schema
  | (name, levels) :: rest, schema => do
    let property ← (← schema.member? "properties").member? name
    along rest (← property.inside levels)

end Json

/-! ### Below the levels of a property -/

theorem TypeExpr.Level.key_ne (level : Level) : level.key ≠ "description" ∧ level.key ≠ "format" := by
  cases level <;> decide

theorem Fragment.member?_level (level : Level) (fragment : Json) :
    (Fragment.level level fragment).member? level.key = some fragment := by
  cases level <;> rfl

namespace Dialect

variable (dialect : Dialect)

theorem inside_schema_wrap {fragment : Json} (h : fragment.IsObject) (levels : List Level) :
    (dialect.schema (Fragment.wrap levels fragment)).inside levels =
      some (dialect.schema fragment) := by
  induction levels with
  | nil => rfl
  | cons level rest ih =>
      have ho := Fragment.isObject_level level (Fragment.wrap rest fragment)
      have hkey : level.key = "items" ∨ level.key = "additionalProperties" := by
        cases level
        · exact Or.inl rfl
        · exact Or.inr rfl
      change (dialect.schema (Fragment.level level (Fragment.wrap rest fragment))).inside _ = _
      rw [Json.inside, dialect.member?_schema level.key_ne.2 ho, Fragment.member?_level,
        Option.map_some, dialect.memberValue_of_isObject hkey (Fragment.isObject_wrap h rest)]
      exact ih

/-- A description changes no other member. -/
theorem member?_schema_describe {key : String} (hd : key ≠ "description") (hf : key ≠ "format")
    (field : Field) {fragment : Json} (h : fragment.IsObject) :
    (dialect.schema (field.describe fragment)).member? key =
      (dialect.schema fragment).member? key := by
  rw [dialect.member?_schema hf (field.isObject_describe h), dialect.member?_schema hf h]
  congr 1
  unfold Field.describe
  split
  · rfl
  · obtain ⟨members, rfl⟩ := h
    change Table.find? (Table.put members "description" _) key = _
    rw [Table.find?_put, if_neg (Ne.symm hd)]
    rfl

/-- The description of a field is beside its schema: on the outermost level if there is one. -/
theorem declares_inside (field : Field) (levels : List Level) (components : Components) :
    ∃ reached, (dialect.schema (field.describe
        (Fragment.wrap levels (Fragment.record components)))).inside levels = some reached ∧
      dialect.Declares components reached := by
  have ho : (Fragment.record components).IsObject := ⟨_, rfl⟩
  cases levels with
  | nil =>
      have hsame {key : String} (hd : key ≠ "description") (hf : key ≠ "format") :=
        dialect.member?_schema_describe hd hf field ho
      have hr := dialect.declares_record components
      exact ⟨_, rfl, (hsame (by decide) (by decide)).trans hr.type,
        (hsame (by decide) (by decide)).trans hr.properties,
        (hsame (by decide) (by decide)).trans hr.required⟩
  | cons level rest =>
      have hw := Fragment.isObject_wrap ho (level :: rest)
      refine ⟨_, ?_, dialect.declares_record components⟩
      rw [Json.inside, dialect.member?_schema_describe level.key_ne.1 level.key_ne.2 field hw]
      exact dialect.inside_schema_wrap ho (level :: rest)

end Dialect

/-! ### Along chains -/

namespace Expansion

theorem leaf_of_target {enums : Table Enumeration} {lookup : Lookup} {site : Site}
    {written name : List Char} {fragment : Json} (hp : String.ofList name ∉ primitives.keys)
    (he : String.ofList name ∉ enums.keys)
    (h : leaf enums lookup site written name = .ok fragment) :
    ∃ components, lookup (String.ofList name) = .ok (some components) ∧
      fragment = Fragment.record components := by
  unfold leaf at h
  rw [Table.find?_eq_none_iff.mpr hp, Table.find?_eq_none_iff.mpr he] at h
  obtain ⟨found, hf, h⟩ := bind_eq_ok_iff.mp h
  cases found with
  | some components =>
      cases h
      exact ⟨components, hf, rfl⟩
  | none =>
      dsimp only at h
      split at h <;> cases h

/-- The property of a reference is the record that is referred to, with the components that it has
by itself, inside the levels. -/
theorem find?_of_refers {scope : Scope} (hd : (scope.targets.map Record.name).Nodup)
    {r s : Record} {name : String} {levels : List Level} (hr : Expands scope [] r)
    (h : scope.Refers r name levels s) :
    ∃ field : Field, Table.find? (components scope r).properties name =
      some (field.describe (Fragment.wrap levels (Fragment.record (components scope s)))) := by
  obtain ⟨hn, hs, hp, he, field, hf, rfl, leaf, hleaf, rfl, hname⟩ := h
  obtain ⟨fragment, hraw, hfind⟩ := property_of_lastIn hd hr (Field.lastIn_of_nodup hn hf)
  obtain ⟨found, inner, hfound, hinner, rfl⟩ := rawType_eq_ok_iff.mp hraw
  rw [hleaf] at hfound
  cases hfound
  rw [← hname] at hp he
  obtain ⟨nested, hnested, rfl⟩ := leaf_of_target hp he hinner
  have ht : scope.target? (String.ofList leaf.name) = some s :=
    hname ▸ Generation.Scope.target?_of_mem hd hs
  have hrecord := (target_eq_ok_some_iff ht).mp hnested
  exact ⟨field, by rw [components_eq hrecord]; exact hfind⟩

theorem along_declares {scope : Scope} (hd : (scope.targets.map Record.name).Nodup)
    (hx : ∀ r ∈ scope.targets, Expands scope [] r) (dialect : Dialect)
    {steps : List (String × List Level)} {r s : Record} {schema : Json} (hr : r ∈ scope.targets)
    (h : scope.RefersAlong r steps s) (hj : dialect.Declares (components scope r) schema) :
    s ∈ scope.targets ∧
      ∃ reached, schema.along steps = some reached ∧
        dialect.Declares (components scope s) reached := by
  induction steps generalizing r schema with
  | nil =>
      cases h
      exact ⟨hr, schema, rfl, hj⟩
  | cons step rest ih =>
      obtain ⟨name, levels⟩ := step
      obtain ⟨next, href, hrest⟩ := h
      obtain ⟨field, hfind⟩ := find?_of_refers hd (hx r hr) href
      obtain ⟨reached, hinside, hnext⟩ :=
        dialect.declares_inside field levels (components scope next)
      obtain ⟨hs, final, hfinal, hdecl⟩ := ih href.2.1 hrest hnext
      refine ⟨hs, final, ?_, hdecl⟩
      have hproperty : Table.find? (dialect.properties (components scope r)) name = some
          (dialect.schema (field.describe
            (Fragment.wrap levels (Fragment.record (components scope next))))) := by
        rw [Dialect.properties, Table.find?_map, hfind]
        rfl
      rw [Json.along, hj.properties]
      change (Table.find? _ name).bind _ = _
      rw [hproperty]
      change (Json.inside levels _).bind _ = _
      rw [hinside]
      exact hfinal

end Expansion

/-- Along any chain of references from a target, what is reached in its entry is an object schema with
the properties and the required names of the entry of the record at the end of the chain. -/
theorem nested_record_is_its_declaration {descriptors : Json} {origin : String}
    {names : List String} {dialect : Dialect} {set : DescriptorSet} {document : List Json}
    (h : Builds descriptors origin names dialect set document) {r s : Record}
    {steps : List (String × List Level)} (hr : r ∈ (set.select names).targets)
    (hs : (set.requested names).RefersAlong r steps s) :
    ∃ own declared reached properties required,
      dialect.parameters? document r.name = some own ∧
      dialect.parameters? document s.name = some declared ∧
      own.along steps = some reached ∧
      reached.member? "type" = some (.str (if dialect = .gemini then "OBJECT" else "object")) ∧
      reached.member? "properties" = some (.obj properties) ∧
      declared.member? "properties" = some (.obj properties) ∧
      reached.member? "required" = some (.arr required) ∧
      declared.member? "required" = some (.arr required) := by
  obtain ⟨hmem, reached, hreached, hdecl⟩ := Expansion.along_declares (set.nodup_targets names)
    (fun _ hr => h.expands hr) dialect hr hs (dialect.declares_record _)
  have hown := dialect.declares_record (Expansion.components (set.requested names) s)
  have htype : dialect.objectType = if dialect = .gemini then "OBJECT" else "object" := by
    cases dialect <;> rfl
  exact ⟨_, _, reached, _, _, h.parameters?_eq hr, h.parameters?_eq hmem, hreached,
    htype ▸ hdecl.type, hdecl.properties, hown.properties, hdecl.required, hown.required⟩

/-- Over `Leg`, through a field that has a description, to `Place`. -/
theorem timetable_nested :
    ∃ document own declared reached properties required,
      Builds timetable "timetable.json" ["Trip", "Leg", "Place"] .gemini timetableSet document ∧
        Dialect.gemini.parameters? document "Trip" = some own ∧
        Dialect.gemini.parameters? document "Place" = some declared ∧
        own.along [("back", []), ("via", [.map, .array])] = some reached ∧
        reached.member? "type" = some (.str "OBJECT") ∧
        reached.member? "properties" = some (.obj properties) ∧
        declared.member? "properties" = some (.obj properties) ∧
        reached.member? "required" = some (.arr required) ∧
        declared.member? "required" = some (.arr required) := by
  obtain ⟨document, h⟩ := timetable_builds .gemini
  have hback : (timetableSet.requested ["Trip", "Leg", "Place"]).Refers timetableSet.records[0]
      "back" [] timetableSet.records[1] :=
    ⟨by decide, by decide, by decide, by decide, _, List.getElem_mem (n := 1) (by decide), rfl,
      ⟨[], "Leg".toList, "Leg".toList⟩, by cbv, rfl, by decide⟩
  have hvia : (timetableSet.requested ["Trip", "Leg", "Place"]).Refers timetableSet.records[1]
      "via" [.map, .array] timetableSet.records[2] :=
    ⟨by decide, by decide, by decide, by decide, _, List.getElem_mem (n := 0) (by decide), rfl,
      ⟨[.map, .array], "Place".toList, "Place".toList⟩, by cbv, rfl, by decide⟩
  have hchain : (timetableSet.requested ["Trip", "Leg", "Place"]).RefersAlong
      timetableSet.records[0] [("back", []), ("via", [.map, .array])] timetableSet.records[2] :=
    ⟨_, hback, _, hvia, rfl⟩
  obtain ⟨own, declared, reached, properties, required, hfound⟩ :=
    nested_record_is_its_declaration h (by decide) hchain
  exact ⟨document, own, declared, reached, properties, required, h, hfound⟩

end ToolSchema
