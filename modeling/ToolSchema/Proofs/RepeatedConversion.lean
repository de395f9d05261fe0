import ToolSchema.Proofs.CapitalText
import ToolSchema.Proofs.ConvertedSchemas

/-! Conversion done twice. The conversion to the third dialect is two edits made to every schema that is
found in a value, whatever the value holds where a schema, a type or properties are looked for: formats
are dropped and types are put in capitals. Neither edit looks into the schemas inside, so one round of
edits after another is one round of both, and a second conversion finds nothing left to do. -/

namespace ToolSchema

namespace Json

/-- The value of a member, in capitals if it is the text of a type. -/
def upperValue (key : String) : Json → Json
  | .str text => .str (if key = "type" then Text.upper text else text)
  | other => other

def upperType (members : List (String × Json)) : List (String × Json) :=
  members.map fun member => (member.1, upperValue member.1 member.2)

/-- A schema with the types of all schemas in it in capitals. -/
def upperTypes : Json → Json := atSchemas upperType

/-! ### Edits made one after another -/

/-- An edit of the members of a schema that comes to the same before and after an edit of the schemas
inside. -/
def Shallow (edit : List (String × Json) → List (String × Json)) : Prop :=
  ∀ inner members, edit (atSlots inner members) = atSlots inner (edit members)

variable {edit first : List (String × Json) → List (String × Json)}

mutual

theorem atSlots_atSlots (h : Shallow first) : ∀ members,
    atSlots edit (atSlots first members) = atSlots (edit ∘ first) members
  | [] => rfl
  | (key, value) :: rest => by
      rw [atSlots, atSlots, atSlots, atSlot_atSlot h key value, atSlots_atSlots h rest]

theorem atSlot_atSlot (h : Shallow first) (key : String) : ∀ value,
    atSlot edit key (atSlot first key value) = atSlot (edit ∘ first) key value
  | .null | .bool _ | .int _ | .float _ | .str _ | .arr _ => rfl
  | .obj members => by
      by_cases hs : key = "items" ∨ key = "additionalProperties"
      · simp only [atSlot, if_pos hs]
        -- By `h` the first edit can wait until the other one has been made inside.
        rw [← h, atSlots_atSlots h members, Function.comp]
      · by_cases hp : key = "properties"
        · simp only [atSlot, if_neg hs, if_pos hp]
          rw [atProperties_atProperties h members]
        · simp only [atSlot, if_neg hs, if_neg hp]

theorem atProperties_atProperties (h : Shallow first) : ∀ properties,
    atProperties edit (atProperties first properties) = atProperties (edit ∘ first) properties
  | [] => rfl
  | (name, .obj members) :: rest => by
      rw [atProperties, atProperties, atProperties, ← h, atSlots_atSlots h members,
        atProperties_atProperties h rest, Function.comp]
  | (name, .null) :: rest | (name, .bool _) :: rest | (name, .int _) :: rest
  | (name, .float _) :: rest | (name, .str _) :: rest | (name, .arr _) :: rest =>
      congrArg (_ :: ·) (atProperties_atProperties h rest)

end

/-- One round of edits after another is one round of both. -/
theorem atSchemas_atSchemas (h : Shallow first) (schema : Json) :
    atSchemas edit (atSchemas first schema) = atSchemas (edit ∘ first) schema := by
  cases schema with
  | obj members => rw [atSchemas, atSchemas, atSchemas, ← h, atSlots_atSlots h, Function.comp]
  | _ => rfl

/-! ### The two edits of a conversion -/

theorem atSlots_eq_map (edit : List (String × Json) → List (String × Json))
    (members : List (String × Json)) :
    atSlots edit members = members.map fun member => (member.1, atSlot edit member.1 member.2) := by
  induction members with
  | nil => rfl
  | cons member rest ih => rw [List.map_cons, ← ih, atSlots]

theorem dropFormat_cons (key : String) (value : Json) (rest : List (String × Json)) :
    dropFormat ((key, value) :: rest) =
      if key = "format" then dropFormat rest else (key, value) :: dropFormat rest := by
  by_cases hf : key = "format" <;> simp [dropFormat, hf]

theorem shallow_dropFormat : Shallow dropFormat := by
  intro inner members
  rw [dropFormat, dropFormat, atSlots_eq_map, atSlots_eq_map, List.filter_map]
  rfl

theorem isObject_atSlot (inner : List (String × Json) → List (String × Json)) (key : String)
    (members : List (String × Json)) : (atSlot inner key (.obj members)).IsObject := by
  rw [atSlot]
  repeat' split
  all_goals exact ⟨_, rfl⟩

theorem upperValue_of_isObject {key : String} {value : Json} (h : value.IsObject) :
    upperValue key value = value := by
  obtain ⟨members, rfl⟩ := h
  rfl

theorem upperValue_atSlot (inner : List (String × Json) → List (String × Json)) (key : String)
    (value : Json) : upperValue key (atSlot inner key value) = atSlot inner key (upperValue key value) := by
  cases value with
  | obj members => exact upperValue_of_isObject (isObject_atSlot inner key members)
  | _ => rfl

theorem shallow_upperType : Shallow upperType := by
  intro inner members
  rw [upperType, upperType, atSlots_eq_map, atSlots_eq_map, List.map_map, List.map_map]
  refine List.map_congr_left fun member _ => ?_
  exact congrArg (Prod.mk _) (upperValue_atSlot inner member.1 member.2)

theorem dropFormat_dropFormat : dropFormat ∘ dropFormat = dropFormat :=
  funext fun members => by simp [dropFormat]

theorem upperValue_upperValue (key : String) (value : Json) :
    upperValue key (upperValue key value) = upperValue key value := by
  cases value with
  | str text =>
      by_cases ht : key = "type"
      · simp only [upperValue, if_pos ht, Text.upper_upper]
      · simp only [upperValue, if_neg ht]
  | _ => rfl

theorem upperType_upperType : upperType ∘ upperType = upperType := by
  funext members
  rw [Function.comp, upperType, upperType, List.map_map]
  refine List.map_congr_left fun member _ => ?_
  exact congrArg (Prod.mk _) (upperValue_upperValue member.1 member.2)

theorem dropFormat_upperType : dropFormat ∘ upperType = upperType ∘ dropFormat := by
  funext members
  rw [Function.comp, Function.comp, dropFormat, upperType, List.filter_map]
  rfl

variable {schema : Json}

theorem withoutFormats_withoutFormats : schema.withoutFormats.withoutFormats = schema.withoutFormats := by
  rw [withoutFormats, atSchemas_atSchemas shallow_dropFormat, dropFormat_dropFormat]

theorem upperTypes_upperTypes : schema.upperTypes.upperTypes = schema.upperTypes := by
  rw [upperTypes, atSchemas_atSchemas shallow_upperType, upperType_upperType]

theorem withoutFormats_upperTypes :
    schema.upperTypes.withoutFormats = schema.withoutFormats.upperTypes := by
  rw [withoutFormats, upperTypes, atSchemas_atSchemas shallow_upperType,
    atSchemas_atSchemas shallow_dropFormat, dropFormat_upperType]

mutual

theorem geminiMembers_eq_atSlots : ∀ members,
    geminiMembers members = upperType (dropFormat (atSlots (upperType ∘ dropFormat) members))
  | [] => rfl
  | (key, value) :: rest => by
      rw [geminiMembers, geminiMembers_eq_atSlots rest, geminiMember_eq_atSlot key value, atSlots,
        dropFormat_cons]
      split <;> rfl

theorem geminiMember_eq_atSlot (key : String) : ∀ value,
    geminiMember key value = upperValue key (atSlot (upperType ∘ dropFormat) key value)
  | .null | .bool _ | .int _ | .float _ | .str _ | .arr _ => rfl
  | .obj members => by
      rw [upperValue_of_isObject (isObject_atSlot _ key members), geminiMember,
        geminiMembers_eq_atSlots members, geminiProperties_eq_atProperties members]
      rfl

theorem geminiProperties_eq_atProperties : ∀ properties,
    geminiProperties properties = atProperties (upperType ∘ dropFormat) properties
  | [] => rfl
  | (name, .obj members) :: rest => by
      rw [geminiProperties, geminiMembers_eq_atSlots members, geminiProperties_eq_atProperties rest,
        atProperties, Function.comp]
  | (name, .null) :: rest | (name, .bool _) :: rest | (name, .int _) :: rest
  | (name, .float _) :: rest | (name, .str _) :: rest | (name, .arr _) :: rest =>
      congrArg (_ :: ·) (geminiProperties_eq_atProperties rest)

end

/-- What an object is converted to: formats go, and then types are put in capitals. -/
theorem toGemini_obj (members : List (String × Json)) :
    (Json.obj members).toGemini = .ok (Json.obj members).withoutFormats.upperTypes := by
  rw [withoutFormats, upperTypes, atSchemas_atSchemas shallow_dropFormat]
  exact congrArg (Except.ok ∘ Json.obj) (geminiMembers_eq_atSlots members)

/-- A value is converted to itself if it is an object that the two edits leave as it is. -/
theorem toGemini_eq_self_iff : schema.toGemini = .ok schema ↔
    schema.IsObject ∧ schema.withoutFormats = schema ∧ schema.upperTypes = schema := by
  constructor
  · intro h
    cases schema with
    | obj members =>
        rw [toGemini_obj, Except.ok.injEq] at h
        refine ⟨⟨_, rfl⟩, ?_, ?_⟩
        · rw [← h, withoutFormats_upperTypes, withoutFormats_withoutFormats]
        · rw [← h, upperTypes_upperTypes]
    | _ => cases h
  · rintro ⟨⟨members, rfl⟩, hformats, htypes⟩
    rw [toGemini_obj, hformats, htypes]

end Json

/-- Every object is converted, whatever is in it: formats go, and then types are put in capitals. What
it is converted to is converted to itself, as no schema in it has a format left to drop or a type left to
put in capitals. -/
theorem conversion_settles (members : List (String × Json)) :
    ∃ converted, (Json.obj members).toGemini = .ok converted ∧
      converted = (Json.obj members).withoutFormats.upperTypes ∧
      converted.toGemini = .ok converted := by
  refine ⟨_, Json.toGemini_obj members, rfl, Json.toGemini_eq_self_iff.mpr ⟨⟨_, rfl⟩, ?_, ?_⟩⟩
  · rw [Json.withoutFormats_upperTypes, Json.withoutFormats_withoutFormats]
  · exact Json.upperTypes_upperTypes

/-- What has no meaning for a schema stays, also where a schema could stand. -/
example : (Json.obj [("type", .arr [.str "x"]), ("items", .arr [.obj [("format", .null)]]),
    ("properties", .obj [("format", .obj [("type", .str "Maß"), ("format", .null)])])]).toGemini =
      .ok (.obj [("type", .arr [.str "x"]), ("items", .arr [.obj [("format", .null)]]),
        ("properties", .obj [("format", .obj [("type", .str "MASS")])])]) := by
  with_unfolding_all rfl

end ToolSchema
