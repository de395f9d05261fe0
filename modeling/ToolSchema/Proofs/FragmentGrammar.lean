import ToolSchema.Proofs.Provenance

/-! The grammar of fragments. A fragment has one of five forms, each with its own members and with
fragments inside it again. An enumeration may bring a description of its own; a fragment that is a
property may show another one in its place, or show one where it has none. Whatever a session does, all
that it returns or keeps is made by this grammar, with the enumerations it was given. -/

namespace ToolSchema

namespace Fragment

inductive Form where
  | primitive
  | enumeration
  | array
  | map
  | record
  deriving DecidableEq

/-- The member that shows a description. -/
def noted : Option String → List (String × Json)
  | none => []
  | some text => [("description", .str text)]

/-- The members of a fragment of a form, without a description, and the description that it brings. What
is inside it is either a property or not. -/
inductive Body (declared : List Enumeration) (Inner : Bool → Json → Prop) :
    Form → Option String → List (String × Json) → Prop
  | primitive {name p} (h : (name, p) ∈ primitives) :
      Body declared Inner .primitive none
        (("type", .str p.type) :: (p.format.map fun format => ("format", Json.str format)).toList)
  | enumeration {e} (h : e ∈ declared) :
      Body declared Inner .enumeration e.summary?
        [("type", .str "string"), ("enum", names (e.cases.map EnumCase.name))]
  | array {item} (h : Inner false item) :
      Body declared Inner .array none [("type", .str "array"), ("items", item)]
  | map {value} (h : Inner false value) :
      Body declared Inner .map none [("type", .str "object"), ("additionalProperties", value)]
  | record {properties : Table Json} {required : List String} (hn : properties.keys.Nodup)
      (hp : ∀ name value, (name, value) ∈ properties → Inner true value)
      (hr : ∀ name ∈ required, name ∈ properties.keys) :
      Body declared Inner .record none
        [("type", .str "object"), ("properties", .obj properties), ("required", names required)]

/-- A fragment shows the description it brings; one that is a property may show any. -/
def Shows (property : Bool) (own shown : Option String) : Prop :=
  shown = own ∨ property = true ∧ shown.isSome = true

/-- The fragments of the grammar, properties or not. -/
inductive Shaped (declared : List Enumeration) : Bool → Json → Prop
  | of_body {property form own shown members}
      (h : Body declared (Shaped declared) form own members) (hs : Shows property own shown) :
      Shaped declared property (.obj (members ++ noted shown))

/-- A fragment of the grammar that has a form on the outside. -/
def HasForm (declared : List Enumeration) (form : Form) (property : Bool) (fragment : Json) : Prop :=
  ∃ own shown members, Body declared (Shaped declared) form own members ∧
    Shows property own shown ∧ fragment = .obj (members ++ noted shown)

/-- The form that the keys of a fragment tell. -/
def formOf (keys : List String) : Form :=
  if "enum" ∈ keys then .enumeration
  else if "items" ∈ keys then .array
  else if "additionalProperties" ∈ keys then .map
  else if "properties" ∈ keys then .record
  else .primitive

variable {declared : List Enumeration} {Inner : Bool → Json → Prop} {form : Form}
  {own shown : Option String} {members : List (String × Json)} {property : Bool} {fragment : Json}

theorem formOf_body (h : Body declared Inner form own members) (shown : Option String) :
    formOf (Table.keys (members ++ noted shown)) = form := by
  cases h with
  | @primitive name p h =>
      cases p.format <;> cases shown <;> rfl
  | enumeration h => cases shown <;> rfl
  | array h => cases shown <;> rfl
  | map h => cases shown <;> rfl
  | record hn hp hr => cases shown <;> rfl

theorem HasForm.formOf (h : HasForm declared form property fragment) :
    ∃ members, fragment = .obj members ∧ Fragment.formOf (Table.keys members) = form := by
  obtain ⟨own, shown, members, hb, -, rfl⟩ := h
  exact ⟨_, rfl, formOf_body hb shown⟩

theorem Shaped.existsUnique_form (h : Shaped declared property fragment) :
    ∃! form, HasForm declared form property fragment := by
  obtain ⟨hb, hs⟩ := h
  refine ⟨_, ⟨_, _, _, hb, hs, rfl⟩, fun other ho => ?_⟩
  obtain ⟨members, he, hf⟩ := ho.formOf
  cases he
  rw [← hf, formOf_body hb]

/-- Induction over fragments: what is inside one has the property already. -/
theorem Shaped.induct {motive : Bool → Json → Prop}
    (step : ∀ {property form own shown members},
      Body declared (fun property value => Shaped declared property value ∧ motive property value)
        form own members →
      Shows property own shown → motive property (.obj (members ++ noted shown)))
    (h : Shaped declared property fragment) : motive property fragment := by
  refine @Shaped.rec declared (fun property value _ => motive property value)
    (fun form own members _ => Body declared
      (fun property value => Shaped declared property value ∧ motive property value) form own members)
    (fun _ hs ih => step ih hs) (fun h => .primitive h) (fun h => .enumeration h)
    (fun h ih => .array ⟨h, ih⟩) (fun h ih => .map ⟨h, ih⟩) ?_ property fragment h
  intro properties required hn hp hr ih
  exact .record hn (fun name value hm => ⟨hp name value hm, ih name value hm⟩) hr

/-! ### What the mapping makes -/

theorem shaped_own (h : Body declared (Shaped declared) form own members) :
    Shaped declared property (.obj (members ++ noted own)) :=
  .of_body h (Or.inl rfl)

theorem shaped_primitive {name : String} {p : Primitive} (h : (name, p) ∈ primitives) :
    Shaped declared property (primitive p) := by
  have hp : primitive p = .obj ((("type", .str p.type) ::
      (p.format.map fun format => ("format", Json.str format)).toList) ++ noted none) := by
    unfold primitive
    cases p.format <;> rfl
  rw [hp]
  exact shaped_own (.primitive h)

theorem shaped_enumeration {e : Enumeration} (h : e ∈ declared) :
    Shaped declared property e.fragment := by
  have he : e.fragment = .obj ([("type", .str "string"),
      ("enum", names (e.cases.map EnumCase.name))] ++ noted e.summary?) := by
    unfold Enumeration.fragment
    cases e.summary? <;> rfl
  rw [he]
  exact shaped_own (.enumeration h)

theorem shaped_level (h : Shaped declared false fragment) (level : TypeExpr.Level) :
    Shaped declared property (Fragment.level level fragment) := by
  cases level with
  | array => exact shaped_own (.array h)
  | map => exact shaped_own (.map h)

theorem description_not_mem (h : Body declared Inner form own members) :
    "description" ∉ Table.keys members := by
  cases h with
  | @primitive name p h => cases p.format <;> simp
  | enumeration h => simp
  | array h => simp
  | map h => simp
  | record hn hp hr => simp

/-- Another description takes the place of the one that is shown. -/
theorem put_noted (h : "description" ∉ Table.keys members) (shown : Option String) (text : String) :
    Table.put (members ++ noted shown) "description" (.str text) = members ++ noted (some text) := by
  induction members with
  | nil => cases shown <;> rfl
  | cons entry rest ih =>
      rw [Table.keys_cons, List.mem_cons, not_or] at h
      rw [List.cons_append, Table.put, if_neg (Ne.symm h.1), ih h.2, List.cons_append]

/-- A fragment as the schema of a field. -/
theorem Shaped.describe (h : Shaped declared false fragment) (field : Field) :
    Shaped declared true (field.describe fragment) := by
  obtain ⟨hb, hs⟩ := h
  unfold Field.describe
  split
  · exact .of_body hb (Or.inl (hs.resolve_right (by simp)))
  · rename_i text _
    rw [Fragment.describe, put_noted (description_not_mem hb)]
    exact .of_body hb (Or.inr ⟨rfl, rfl⟩)

end Fragment

/-- Components whose properties are fragments of the grammar, and which require their own properties. -/
structure Components.Shaped (declared : List Enumeration) (components : Components) : Prop where
  keys : components.properties.keys.Nodup
  fragments : ∀ name value, (name, value) ∈ components.properties →
    Fragment.Shaped declared true value
  required : ∀ name ∈ components.required, name ∈ components.properties.keys

theorem Fragment.shaped_record {declared : List Enumeration} {components : Components}
    {property : Bool} (h : components.Shaped declared) :
    Fragment.Shaped declared property (Fragment.record components) :=
  Fragment.shaped_own (.record h.keys h.fragments h.required)

theorem Components.Extends.nodup_keys {Fits : Field → Json → Prop} {before after : Components}
    {fields : List Field} (h : Components.Extends Fits before fields after)
    (hn : before.properties.keys.Nodup) : after.properties.keys.Nodup := by
  induction h with
  | done => exact hn
  | add _ _ ih => exact ih (Table.nodup_keys_put hn _ _)

/-- Components are put together from fragments as their fields want them. -/
theorem Components.Extends.shaped {declared : List Enumeration} {fields : List Field}
    {components : Components}
    (h : Components.Extends (fun _ => Fragment.Shaped declared false) {} fields components) :
    components.Shaped declared := by
  refine ⟨h.nodup_keys List.nodup_nil, ?_, fun name hn => ?_⟩
  · exact h.forall_properties (fun _ _ hm => absurd hm List.not_mem_nil)
      fun field fragment hf => hf.describe field
  · rw [h.required_eq] at hn
    rw [h.keys_eq List.nodup_nil, List.mem_eraseDups]
    exact (List.filter_sublist.map Field.name).subset hn

/-- Fragments of the grammar, and components put together from them. -/
def Generation.Rule.shaped (declared : List Enumeration) : Generation.Rule where
  Known := fun _ => True
  Declared := (· ∈ declared)
  Means := Fragment.Shaped declared false
  Entry := fun _ components => components.Shaped declared
  primitive := fun _ _ hp => Fragment.shaped_primitive (Table.mem_of_find? hp)
  enumeration := fun _ he => Fragment.shaped_enumeration he
  level := fun level _ h => Fragment.shaped_level h level
  reference := fun _ _ h => Fragment.shaped_record h
  built := fun _ _ _ hx => hx.shaped

namespace Generator

/-- The enumerations that a session is given, at the start and by its steps. -/
def declaredIn (enums : Table Enumeration) (steps : List Step) : List Enumeration :=
  enums.map Prod.snd ++ steps.flatMap Step.declared

theorem step_keepsTo_shaped {records : List Record} {enums : Table Enumeration} {g : Generator}
    (hg : ofBatch records enums = .ok g) (earlier : List Step) (s : Step) :
    let outcome := (g.after earlier).step s
    outcome.generator.KeepsTo (.shaped (declaredIn enums (earlier ++ [s]))) ∧
      ∀ found, outcome.answer = .ok found →
        found.KeepsTo (.shaped (declaredIn enums (earlier ++ [s]))) := by
  obtain ⟨-, -, rfl, hc⟩ := eq_of_ofBatch hg
  have hgiven : ∀ step ∈ earlier ++ [s],
      step.KeepsTo (.shaped (declaredIn g.enums (earlier ++ [s]))) := by
    refine fun step hm => ⟨fun _ _ => trivial, fun e he => ?_⟩
    exact List.mem_append_right _ (List.mem_flatMap.mpr ⟨step, hm, he⟩)
  have hstart : g.KeepsTo (.shaped (declaredIn g.enums (earlier ++ [s]))) := by
    refine ⟨fun _ _ => trivial, fun _ _ => trivial, fun name e hf => ?_, ?_⟩
    · exact List.mem_append_left _ (List.mem_map_of_mem (Table.mem_of_find? hf))
    · rw [hc]
      exact Generation.Rule.holds_nil
  have hbefore := hstart.after fun step hm => hgiven step (List.mem_append_left [s] hm)
  exact hbefore.step (hgiven s (List.mem_append_right earlier List.mem_cons_self))

end Generator

open Generator

/-- After any steps, whatever the next step is: the cache that it leaves and the components that it
returns have fragments of the grammar as properties, and a mapped type is such a fragment, no property.
A fragment has just one form, on the outside as in whatever is inside it. -/
theorem session_fragments_shaped {records : List Record} {enums : Table Enumeration} {g : Generator}
    (hg : ofBatch records enums = .ok g) (earlier : List Step) (s : Step) :
    let declared := declaredIn enums (earlier ++ [s])
    let outcome := (g.after earlier).step s
    (∀ name components, outcome.generator.cache.find? name = some components →
      components.Shaped declared) ∧
    (∀ components, outcome.answer = .ok (.components (some components)) →
      components.Shaped declared) ∧
    (∀ results name components, outcome.answer = .ok (.batch results) →
      results.find? name = some components → components.Shaped declared) ∧
    (∀ fragment, outcome.answer = .ok (.fragment fragment) →
      Fragment.Shaped declared false fragment) ∧
    ∀ property fragment, Fragment.Shaped declared property fragment →
      ∃! form, Fragment.HasForm declared form property fragment := by
  intro declared outcome
  obtain ⟨hafter, hanswer⟩ := step_keepsTo_shaped hg earlier s
  refine ⟨hafter.cache, fun components ha => ?_, fun results name components ha => ?_,
    fun fragment ha => hanswer _ ha, fun property fragment h => h.existsUnique_form⟩
  · obtain ⟨_, hcomponents⟩ := hanswer _ ha components rfl
    exact hcomponents
  · exact hanswer _ ha name components

/-- The entry of `Trip` refers to a map of enumerations, an optional list and a record. -/
theorem traveller_fragments_shaped :
    ofBatch (journey "[Place]") modes = .ok traveller ∧
      ∃ components,
        ((traveller.after [.generateRecord visitor, .generate]).step (.resolve "Trip")).answer =
          .ok (.components (some components)) ∧
        components.properties.keys = ["stops", "mode", "back"] ∧
        components.Shaped (modes.map Prod.snd) := by
  have hg : ofBatch (journey "[Place]") modes = .ok traveller := ofBatch_of_nodup modes (by decide)
  have htrip : ((traveller.after [.generateRecord visitor, .generate]).step
      (.resolve "Trip")).answer.toOption.bind Answer.keys? = some ["stops", "mode", "back"] := by
    decide +kernel
  obtain ⟨components, ha, hkeys⟩ := exists_of_keys? htrip
  have hshaped := session_fragments_shaped hg [.generateRecord visitor, .generate] (.resolve "Trip")
  exact ⟨hg, components, ha, hkeys, hshaped.2.1 components ha⟩

end ToolSchema
