import ToolSchema.Proofs.DialectImage
import ToolSchema.Proofs.FragmentGrammar
import ToolSchema.Proofs.ObjectSchemas

/-! What the third dialect changes in a schema. Keys that mean something in a schema may also be names
of properties, so a conversion by keys has to know at every depth whether it is in a schema or among
properties. It does: in the schemas that the mapping makes, wherever a schema stands in what they are
converted to, its type is in capitals and it has no format, and putting the types back in small letters
gives the schema as it was without its formats, member by member and in the same order. -/

namespace ToolSchema

namespace Json

mutual

/-- The members of a schema, with an edit made to the members of every schema inside. -/
def atSlots (edit : List (String × Json) → List (String × Json)) :
    List (String × Json) → List (String × Json)
  | [] => []
  | (key, value) :: rest => (key, atSlot edit key value) :: atSlots edit rest

/-- What a member holds: a schema, the schemas of properties under their names, or neither. -/
def atSlot (edit : List (String × Json) → List (String × Json)) (key : String) : Json → Json
  | .obj members =>
    if key = "items" ∨ key = "additionalProperties" then .obj (edit (atSlots edit members))
    else if key = "properties" then .obj (atProperties edit members)
    else .obj members
  | other => other

def atProperties (edit : List (String × Json) → List (String × Json)) :
    List (String × Json) → List (String × Json)
  | [] => []
  | (name, .obj members) :: rest =>
    (name, .obj (edit (atSlots edit members))) :: atProperties edit rest
  | (name, other) :: rest => (name, other) :: atProperties edit rest

end

/-- A schema with an edit made to its own members and to those of every schema inside. -/
def atSchemas (edit : List (String × Json) → List (String × Json)) : Json → Json
  | .obj members => .obj (edit (atSlots edit members))
  | other => other

def lowerType (members : List (String × Json)) : List (String × Json) :=
  members.map fun
    | ("type", .str text) => ("type", .str (Text.lower text))
    | member => member

def dropFormat (members : List (String × Json)) : List (String × Json) :=
  members.filter fun member => member.1 ≠ "format"

/-- A schema with the types of all schemas in it in small letters. -/
def lowerTypes : Json → Json := atSchemas lowerType

/-- A schema without the formats of all schemas in it. -/
def withoutFormats : Json → Json := atSchemas dropFormat

theorem atProperties_eq_map (edit : List (String × Json) → List (String × Json))
    (properties : List (String × Json)) :
    atProperties edit properties =
      properties.map fun property => (property.1, atSchemas edit property.2) := by
  induction properties with
  | nil => rfl
  | cons property rest ih =>
      obtain ⟨name, value⟩ := property
      rw [List.map_cons, ← ih]
      cases value <;> rfl

end Json

namespace Fragment

/-- The schemas that the mapping makes: five forms, each with a description or without. Properties may
have any names. -/
inductive IsSchema : Json → Prop
  | primitive {name p} (h : (name, p) ∈ primitives) (description : Option String) :
      IsSchema (.obj ((("type", .str p.type) ::
        (p.format.map fun format => ("format", Json.str format)).toList) ++ noted description))
  | enumeration (cases : List String) (description : Option String) :
      IsSchema (.obj ([("type", .str "string"), ("enum", names cases)] ++ noted description))
  | array {item} (h : IsSchema item) (description : Option String) :
      IsSchema (.obj ([("type", .str "array"), ("items", item)] ++ noted description))
  | map {value} (h : IsSchema value) (description : Option String) :
      IsSchema (.obj ([("type", .str "object"), ("additionalProperties", value)] ++
        noted description))
  | record {properties : List (String × Json)}
      (h : ∀ name value, (name, value) ∈ properties → IsSchema value) (required : List String)
      (description : Option String) :
      IsSchema (.obj ([("type", .str "object"), ("properties", .obj properties),
        ("required", names required)] ++ noted description))

/-- Every fragment of a session is one of them. -/
theorem Shaped.isSchema {declared : List Enumeration} {property : Bool} {fragment : Json}
    (h : Shaped declared property fragment) : IsSchema fragment := by
  refine h.induct (motive := fun _ fragment => IsSchema fragment) fun hb _ => ?_
  cases hb with
  | primitive h => exact .primitive h _
  | enumeration h => exact .enumeration _ _
  | array h => exact .array h.2 _
  | map h => exact .map h.2 _
  | record _ hp _ => exact .record (fun name value hm => (hp name value hm).2) _ _

variable {schema inner : Json}

theorem IsSchema.isObject (h : IsSchema schema) : schema.IsObject := by
  cases h <;> exact ⟨_, rfl⟩

open Dialect (gemini)

/-! ### Types in capitals -/

def typeNames : List String := ["string", "integer", "number", "boolean", "array", "object"]

theorem upper_typeNames : typeNames.map Text.upper =
    ["STRING", "INTEGER", "NUMBER", "BOOLEAN", "ARRAY", "OBJECT"] := by decide +kernel

theorem lower_upper {text : String} (h : text ∈ typeNames) : Text.lower (Text.upper text) = text := by
  have hback : typeNames.map (Text.lower ∘ Text.upper) = typeNames.map id := by
    rw [← List.map_map, upper_typeNames]
    decide +kernel
  exact List.map_inj_left.mp hback text h

def InCapitals (text : String) : Prop := text ≠ "" ∧ ∀ c ∈ text.toList, c.isUpper = true

instance (text : String) : Decidable (InCapitals text) :=
  @instDecidableAnd _ _ inferInstance (List.decidableBAll _ text.toList)

theorem inCapitals_upper {text : String} (h : text ∈ typeNames) : InCapitals (Text.upper text) := by
  have hall : ∀ capital ∈ typeNames.map Text.upper, InCapitals capital := by
    rw [upper_typeNames]
    decide +kernel
  exact hall _ (List.mem_map_of_mem h)

theorem primitive_type_mem {name : String} {p : Primitive} (h : (name, p) ∈ primitives) :
    p.type ∈ typeNames := by
  have hall : ∀ entry ∈ primitives, entry.2.type ∈ typeNames := by decide
  exact hall (name, p) h

/-! ### Back to small letters -/

/-- The schemas of properties, converted and with their types in small letters again. -/
theorem atProperties_geminiProperties (properties : List (String × Json)) :
    Json.atProperties Json.lowerType (Json.geminiProperties properties) =
      properties.map fun property => (property.1, (gemini.schema property.2).lowerTypes) := by
  rw [Json.atProperties_eq_map, Dialect.geminiProperties_eq_map, List.map_map]
  rfl

theorem IsSchema.lowerTypes_gemini (h : IsSchema schema) :
    (gemini.schema schema).lowerTypes = schema.withoutFormats := by
  induction h with
  | @primitive name p h description =>
      calc
        _ = Json.obj ([("type", .str (Text.lower (Text.upper p.type)))] ++ noted description) := by
          cases p.format <;> cases description <;> rfl
        _ = Json.obj ([("type", .str p.type)] ++ noted description) := by
            rw [lower_upper (primitive_type_mem h)]
        _ = _ := by cases p.format <;> cases description <;> rfl
  | enumeration cases description =>
      calc
        _ = Json.obj ([("type", .str (Text.lower (Text.upper "string"))), ("enum", names cases)] ++
            noted description) := by
          cases description <;> rfl
        _ = Json.obj ([("type", .str "string"), ("enum", names cases)] ++ noted description) := by
          rw [lower_upper (by decide)]
        _ = _ := by cases description <;> rfl
  | @array item h description ih =>
      obtain ⟨members, rfl⟩ := h.isObject
      calc
        _ = Json.obj ([("type", .str (Text.lower (Text.upper "array"))),
            ("items", (gemini.schema (.obj members)).lowerTypes)] ++ noted description) := by
          cases description <;> rfl
        _ = Json.obj ([("type", .str "array"), ("items", Json.withoutFormats (.obj members))] ++
            noted description) := by rw [ih, lower_upper (by decide)]
        _ = _ := by cases description <;> rfl
  | @map value h description ih =>
      obtain ⟨members, rfl⟩ := h.isObject
      calc
        _ = Json.obj ([("type", .str (Text.lower (Text.upper "object"))),
            ("additionalProperties", (gemini.schema (.obj members)).lowerTypes)] ++
              noted description) := by
          cases description <;> rfl
        _ = Json.obj ([("type", .str "object"),
            ("additionalProperties", Json.withoutFormats (.obj members))] ++ noted description) := by
          rw [ih, lower_upper (by decide)]
        _ = _ := by cases description <;> rfl
  | @record properties h required description ih =>
      have hp : Json.atProperties Json.lowerType (Json.geminiProperties properties) =
          Json.atProperties Json.dropFormat properties := by
        rw [atProperties_geminiProperties, Json.atProperties_eq_map]
        refine List.map_congr_left fun property hm => ?_
        rw [ih property.1 property.2 hm]
        rfl
      calc
        _ = Json.obj ([("type", .str (Text.lower (Text.upper "object"))),
            ("properties", .obj (Json.atProperties Json.lowerType (Json.geminiProperties properties))),
            ("required", names required)] ++ noted description) := by
          cases description <;> rfl
        _ = Json.obj ([("type", .str "object"),
            ("properties", .obj (Json.atProperties Json.dropFormat properties)),
            ("required", names required)] ++ noted description) := by rw [hp, lower_upper (by decide)]
        _ = _ := by cases description <;> rfl

/-! ### The schemas inside -/

/-- A description stands behind the other members and is found under its own key only. -/
theorem member?_noted {key : String} (hk : key ≠ "description") (members : List (String × Json))
    (description : Option String) :
    (Json.obj (members ++ noted description)).member? key = Table.find? members key := by
  change Table.find? (members ++ noted description) key = _
  induction members with
  | nil =>
      cases description with
      | none => rfl
      | some text => exact if_neg (Ne.symm hk)
  | cons entry rest ih =>
      obtain ⟨name, value⟩ := entry
      rw [List.cons_append, Table.find?_cons, Table.find?_cons, ih]

theorem find?_primitive {key : String} (ht : key ≠ "type") (hf : key ≠ "format") (p : Primitive) :
    Table.find? (("type", Json.str p.type) ::
      (p.format.map fun format => ("format", Json.str format)).toList) key = none := by
  cases p.format <;> simp [ht.symm, hf.symm]

/-- What is inside a schema is a schema. -/
theorem IsSchema.of_leads (h : IsSchema schema) (hl : schema.Leads inner) : IsSchema inner := by
  cases hl with
  | level level hm =>
      have htype : level.key ≠ "type" := by cases level <;> decide
      cases h with
      | primitive h description =>
          rw [member?_noted level.key_ne.1, find?_primitive htype level.key_ne.2] at hm
          cases hm
      | enumeration cases description =>
          rw [member?_noted level.key_ne.1] at hm
          cases level <;> cases hm
      | array h description =>
          rw [member?_noted level.key_ne.1] at hm
          cases level <;> cases hm
          exact h
      | map h description =>
          rw [member?_noted level.key_ne.1] at hm
          cases level <;> cases hm
          exact h
      | record h required description =>
          rw [member?_noted level.key_ne.1] at hm
          cases level <;> cases hm
  | property hm hin =>
      have hkey : "properties" ≠ "description" := by decide
      cases h with
      | primitive h description =>
          rw [member?_noted hkey, find?_primitive (by decide) (by decide)] at hm
          cases hm
      | enumeration cases description =>
          rw [member?_noted hkey] at hm
          cases hm
      | array h description =>
          rw [member?_noted hkey] at hm
          cases hm
      | map h description =>
          rw [member?_noted hkey] at hm
          cases hm
      | record h required description =>
          rw [member?_noted hkey] at hm
          cases hm
          exact h _ _ hin

/-- What is inside a schema that is converted is the conversion of what is inside. -/
theorem IsSchema.of_leads_gemini (h : IsSchema schema) (hl : (gemini.schema schema).Leads inner) :
    ∃ source, IsSchema source ∧ inner = gemini.schema source := by
  cases hl with
  | level level hm =>
      rw [gemini.member?_schema level.key_ne.2 h.isObject] at hm
      obtain ⟨source, hsource, rfl⟩ := Option.map_eq_some_iff.mp hm
      have hs := h.of_leads (.level level hsource)
      have hkey : level.key = "items" ∨ level.key = "additionalProperties" := by
        cases level
        · exact Or.inl rfl
        · exact Or.inr rfl
      exact ⟨source, hs, gemini.memberValue_of_isObject hkey hs.isObject⟩
  | @property properties name hm hin =>
      rw [gemini.member?_schema (by decide) h.isObject] at hm
      obtain ⟨source, hsource, hconverted⟩ := Option.map_eq_some_iff.mp hm
      cases source with
      | obj entries =>
          have he : Json.geminiProperties entries = properties := Json.obj.inj hconverted
          rw [← he, Dialect.geminiProperties_eq_map] at hin
          obtain ⟨entry, hentry, hi⟩ := List.mem_map.mp hin
          cases hi
          exact ⟨entry.2, h.of_leads (.property hsource hentry), rfl⟩
      | _ => cases hconverted

theorem IsSchema.of_contains_gemini (h : IsSchema schema) {node : Json}
    (hc : (gemini.schema schema).Contains node) :
    ∃ source, IsSchema source ∧ node = gemini.schema source := by
  induction hc with
  | refl => exact ⟨schema, h, rfl⟩
  | tail _ hl ih =>
      obtain ⟨source, hs, rfl⟩ := ih
      exact hs.of_leads_gemini hl

/-! ### Every schema in the result -/

theorem IsSchema.type (h : IsSchema schema) :
    ∃ text ∈ typeNames, schema.member? "type" = some (.str text) := by
  have hkey : "type" ≠ "description" := by decide
  cases h with
  | @primitive name p h description =>
      exact ⟨p.type, primitive_type_mem h, by rw [member?_noted hkey]; rfl⟩
  | enumeration cases description => exact ⟨"string", by decide, by rw [member?_noted hkey]; rfl⟩
  | array h description => exact ⟨"array", by decide, by rw [member?_noted hkey]; rfl⟩
  | map h description => exact ⟨"object", by decide, by rw [member?_noted hkey]; rfl⟩
  | record h required description => exact ⟨"object", by decide, by rw [member?_noted hkey]; rfl⟩

theorem find?_format_geminiMembers (members : List (String × Json)) :
    Table.find? (Json.geminiMembers members) "format" = none := by
  induction members with
  | nil => rfl
  | cons entry rest ih =>
      obtain ⟨name, value⟩ := entry
      rw [Json.geminiMembers]
      by_cases hn : name = "format"
      · rw [if_pos hn]
        exact ih
      · rw [if_neg hn, Table.find?_cons, if_neg hn]
        exact ih

theorem IsSchema.gemini_node (h : IsSchema schema) :
    (gemini.schema schema).member? "format" = none ∧
      ∃ text, (gemini.schema schema).member? "type" = some (.str text) ∧ InCapitals text := by
  obtain ⟨text, hmem, ht⟩ := h.type
  refine ⟨?_, Text.upper text, ?_, inCapitals_upper hmem⟩
  · obtain ⟨members, rfl⟩ := h.isObject
    exact find?_format_geminiMembers members
  · rw [gemini.member?_schema (by decide) h.isObject, ht]
    rfl

end Fragment

open Fragment

/-- A schema that the mapping makes is converted to one with all types in capitals and no formats,
however deep they stand; with its types in small letters again it is the schema without its formats. -/
theorem conversion_changes_types_and_formats {schema : Json} (h : IsSchema schema) :
    ∃ converted, schema.toGemini = .ok converted ∧
      (∀ node, converted.Contains node → node.member? "format" = none ∧
        ∃ text, node.member? "type" = some (.str text) ∧ InCapitals text) ∧
      converted.lowerTypes = schema.withoutFormats := by
  obtain ⟨members, rfl⟩ := h.isObject
  refine ⟨.obj (Json.geminiMembers members), rfl, fun node hc => ?_, h.lowerTypes_gemini⟩
  obtain ⟨source, hs, rfl⟩ := h.of_contains_gemini hc
  exact hs.gemini_node

theorem shaped_keywords : Dialect.keywords.Shaped [] := by
  have hdate : ("Date", (⟨"string", some "date-time"⟩ : Primitive)) ∈ primitives := by decide
  have huuid : ("UUID", (⟨"string", some "uuid"⟩ : Primitive)) ∈ primitives := by decide
  have hempty : Components.Shaped [] {} := ⟨List.nodup_nil, nofun, nofun⟩
  have htype : Components.Shaped []
      { properties := [("type", Fragment.primitive ⟨"string", some "uuid"⟩)], required := ["type"] } := by
    refine ⟨by decide, fun name value hm => ?_, by decide⟩
    cases List.mem_singleton.mp hm
    exact shaped_primitive huuid
  refine ⟨by decide, fun name value hm => ?_, by decide⟩
  simp only [Dialect.keywords, List.mem_cons, Prod.mk.injEq, List.not_mem_nil, or_false] at hm
  rcases hm with ⟨-, rfl⟩ | ⟨-, rfl⟩ | ⟨-, rfl⟩
  · exact (shaped_primitive hdate).describe { name := "type", rawType := "Date", description := "when" }
  · exact shaped_level (shaped_record hempty) .array
  · exact shaped_record htype

/-- Properties called `type`, `format` and `properties` stay; the formats among their own members go. -/
theorem keywords_change_types_and_formats :
    IsSchema (Fragment.record Dialect.keywords) ∧
      ∃ converted, (Fragment.record Dialect.keywords).toGemini = .ok converted ∧
        converted.lowerTypes = (Fragment.record Dialect.keywords).withoutFormats ∧
        (Fragment.record Dialect.keywords).withoutFormats = .obj [("type", .str "object"),
          ("properties", .obj
            [("type", .obj [("type", .str "string"), ("description", .str "when")]),
              ("format", .obj [("type", .str "array"), ("items", Fragment.record {})]),
              ("properties", Fragment.record
                { properties := [("type", .obj [("type", .str "string")])], required := ["type"] })]),
          ("required", .arr [.str "format"])] := by
  have hshaped : Fragment.Shaped [] false (Fragment.record Dialect.keywords) :=
    shaped_record shaped_keywords
  have h := hshaped.isSchema
  obtain ⟨converted, hconverted, -, hlower⟩ := conversion_changes_types_and_formats h
  exact ⟨h, converted, hconverted, hlower, rfl⟩

end ToolSchema
