import ToolSchema.Proofs.DocumentEntries

/-! One document is the image of another. The declarations of the third dialect are put together
property by property, while a schema inside a property is converted as a whole. Both come to the same:
the parameters of a declaration are the conversion of the parameters of the tool for the same record,
with the members in the same order. -/

namespace ToolSchema

theorem getD_spoken? (description : Option String) :
    (spoken? description).getD "" = description.getD "" := by
  cases description with
  | none => rfl
  | some text =>
      by_cases ht : text = ""
      · subst ht
        rfl
      · have hs : spoken? (some text) = some text := if_pos (bne_iff_ne.mpr ht)
        rw [hs]

namespace Dialect

/-- A declaration says what the function of a tool says, with its parameters converted. -/
structure ImageOf (declaration function : Json) : Prop where
  name : ∃ name, function.member? "name" = some (.str name) ∧
    declaration.member? "name" = some (.str name)
  description : declaration.member? "description" =
    some ((function.member? "description").getD (.str ""))
  parameters : ∃ parameters converted, function.member? "parameters" = some parameters ∧
    parameters.toGemini = .ok converted ∧ declaration.member? "parameters" = some converted

/-- The function inside the tool of a record. -/
def toolFunction (record : Record) (components : Components) : Json :=
  .obj ([("name", .str record.name)] ++
    ((spoken? record.description).elim [] fun text => [("description", .str text)]) ++
    [("parameters", Fragment.record components)])

theorem member?_toolEntry (record : Record) (components : Components) :
    (toolEntry record components.parameters).member? "function" =
      some (toolFunction record components) := by
  unfold toolEntry toolFunction
  cases spoken? record.description <;> rfl

theorem description_toolFunction (record : Record) (components : Components) :
    (toolFunction record components).member? "description" =
      (spoken? record.description).map .str := by
  unfold toolFunction
  cases spoken? record.description <;> rfl

theorem parameters_toolFunction (record : Record) (components : Components) :
    (toolFunction record components).member? "parameters" = some (Fragment.record components) := by
  unfold toolFunction
  cases spoken? record.description <;> rfl

/-- What converts to the parameters of a declaration is the fragment of the record. -/
theorem imageOf_toolFunction (record : Record) (components : Components) :
    ImageOf (Dialect.gemini.declare record components) (toolFunction record components) where
  name := ⟨record.name, rfl, rfl⟩
  description := by
    have hd : (Dialect.gemini.declare record components).member? "description" =
        some (.str (record.description.getD "")) := rfl
    rw [hd, description_toolFunction, ← getD_spoken?]
    cases spoken? record.description <;> rfl
  parameters := by
    refine ⟨_, Dialect.gemini.schema (Fragment.record components),
      parameters_toolFunction record components, rfl, ?_⟩
    exact Dialect.gemini.parameters_declare record components

theorem entries_eq (dialect : Dialect) {pairs : List (Record × Components)}
    (h : ∀ pair ∈ pairs, pair.2.Schematic) :
    dialect.entries (pairs.map fun pair => (pair.1, pair.2.parameters)) =
      .ok (pairs.map fun pair => dialect.declare pair.1 pair.2) := by
  rw [entries, List.mapM_map]
  exact mapM_eq_ok_map fun pair hp => dialect.entry_eq pair.1 (h pair hp)

/-- Records whose properties are objects have a tool and a declaration each, in the same order, and
every declaration is the image of its tool. -/
theorem declarations_are_images (pairs : List (Record × Components))
    (h : ∀ pair ∈ pairs, pair.2.Schematic) :
    ∃ tools declarations,
      Dialect.openai.entries (pairs.map fun pair => (pair.1, pair.2.parameters)) = .ok tools ∧
      Dialect.gemini.entries (pairs.map fun pair => (pair.1, pair.2.parameters)) =
        .ok declarations ∧
      tools.length = pairs.length ∧ declarations.length = pairs.length ∧
      List.Forall₂ (fun tool declaration => ∃ function,
        tool.member? "function" = some function ∧ ImageOf declaration function)
        tools declarations := by
  refine ⟨_, _, Dialect.openai.entries_eq h, Dialect.gemini.entries_eq h, List.length_map _,
    List.length_map _, ?_⟩
  rw [List.forall₂_map_left_iff, List.forall₂_map_right_iff, List.forall₂_same]
  intro pair _
  exact ⟨_, member?_toolEntry pair.1 pair.2, imageOf_toolFunction pair.1 pair.2⟩

/-- Properties under names that mean something in a schema: one that is an object without fields, and
one with a property `type` of its own. -/
def keywords : Components where
  properties :=
    [("type", Fragment.describe "when" (Fragment.primitive ⟨"string", some "date-time"⟩)),
      ("format", Fragment.level .array (Fragment.record {})),
      ("properties", Fragment.record
        { properties := [("type", Fragment.primitive ⟨"string", some "uuid"⟩)], required := ["type"] })]
  required := ["format"]

/-- Names of properties are neither converted nor taken for keywords. -/
theorem keywords_image :
    keywords.Schematic ∧
      ∃ tool declaration function,
        Dialect.openai.entries [({ name := "Words" }, keywords.parameters)] = .ok [tool] ∧
        Dialect.gemini.entries [({ name := "Words" }, keywords.parameters)] = .ok [declaration] ∧
        tool.member? "function" = some function ∧ ImageOf declaration function ∧
        function.member? "description" = none ∧
        declaration.member? "description" = some (.str "") ∧
        declaration.member? "parameters" = some (.obj [("type", .str "OBJECT"),
          ("properties", .obj
            [("type", .obj [("type", .str "STRING"), ("description", .str "when")]),
              ("format", .obj [("type", .str "ARRAY"), ("items", .obj [("type", .str "OBJECT"),
                ("properties", .obj []), ("required", .arr [])])]),
              ("properties", .obj [("type", .str "OBJECT"),
                ("properties", .obj [("type", .obj [("type", .str "STRING")])]),
                ("required", .arr [.str "type"])])]),
          ("required", .arr [.str "format"])]) := by
  have hs : keywords.Schematic := by
    intro name value hm
    simp only [keywords, List.mem_cons, Prod.mk.injEq, List.not_mem_nil, or_false] at hm
    rcases hm with ⟨-, rfl⟩ | ⟨-, rfl⟩ | ⟨-, rfl⟩ <;> exact ⟨_, rfl⟩
  obtain ⟨tools, declarations, htools, hdeclarations, -, -, himages⟩ :=
    declarations_are_images [({ name := "Words" }, keywords)] (by simpa using hs)
  cases htools
  obtain ⟨declaration, rest, ⟨function, hfunction, himage⟩, hrest, rfl⟩ :=
    List.forall₂_cons_left_iff.mp himages
  cases hrest
  cases hfunction
  obtain ⟨parameters, converted, hparameters, hconverted, hdeclared⟩ := himage.parameters
  cases hparameters
  refine ⟨hs, _, declaration, _, rfl, hdeclarations, rfl, himage, rfl, himage.description, ?_⟩
  have hobject : Text.upper "object" = "OBJECT" := by decide +kernel
  have hstring : Text.upper "string" = "STRING" := by decide +kernel
  have harray : Text.upper "array" = "ARRAY" := by decide +kernel
  rw [hdeclared, ← Except.ok.inj hconverted]
  simp [keywords, Components.parameters, Fragment.describe, Fragment.primitive, Fragment.level,
    Fragment.record, Fragment.names, Table.put, Json.geminiMembers, Json.geminiMember,
    Json.geminiProperties, hobject, hstring, harray]

end Dialect

end ToolSchema
