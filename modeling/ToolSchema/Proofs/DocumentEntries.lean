import ToolSchema.Descriptor.Document
import ToolSchema.Descriptor.Selection
import ToolSchema.Document
import ToolSchema.Proofs.FieldComponents
import ToolSchema.Proofs.ReferenceGraph

/-! The entries of a document. Every dialect declares a record by its name and its parameters, and the
parameters are one schema: the fragment of the record, written as the dialect writes schemas. A
document is built exactly when the components of its targets are, and holds one declaration for each
target in order (`buildDocument_eq_ok_iff`). -/

namespace ToolSchema

theorem bind_eq_error_iff {ε α β : Type} {first : Except ε α} {next : α → Except ε β} {error : ε} :
    (first >>= next) = .error error ↔
      first = .error error ∨ ∃ value, first = .ok value ∧ next value = .error error := by
  cases first with
  | error found => simp [bind, Except.bind]
  | ok value => simp [bind, Except.bind]

/-- A fold fails at the first item whose step fails. -/
theorem foldlM_eq_error_iff {ε σ α : Type} {step : σ → α → Except ε σ} {items : List α} {before : σ}
    {error : ε} :
    items.foldlM step before = .error error ↔
      ∃ front item back middle, items = front ++ item :: back ∧
        front.foldlM step before = .ok middle ∧ step middle item = .error error := by
  induction items generalizing before with
  | nil =>
      constructor
      · intro h
        cases h
      · rintro ⟨front, item, back, _, he, _⟩
        exact absurd he.symm (List.append_ne_nil_of_right_ne_nil front (List.cons_ne_nil item back))
  | cons first rest ih =>
      rw [List.foldlM_cons, bind_eq_error_iff]
      simp only [ih]
      constructor
      · rintro (h | ⟨next, hn, front, item, back, middle, rfl, hf, hs⟩)
        · exact ⟨[], first, rest, before, rfl, rfl, h⟩
        · refine ⟨first :: front, item, back, middle, rfl, ?_, hs⟩
          rw [List.foldlM_cons]
          exact Expansion.bind_eq_ok_iff.mpr ⟨next, hn, hf⟩
      · rintro ⟨front, item, back, middle, he, hf, hs⟩
        cases front with
        | nil =>
            cases he
            cases hf
            exact Or.inl hs
        | cons head front =>
            obtain ⟨rfl, rfl⟩ := List.cons.inj he
            rw [List.foldlM_cons] at hf
            obtain ⟨next, hn, hf⟩ := Expansion.bind_eq_ok_iff.mp hf
            exact Or.inr ⟨next, hn, front, item, back, middle, rfl, hf, hs⟩

/-- A list is mapped to values exactly when each item is mapped to its value. -/
theorem mapM_eq_ok_iff {ε α β : Type} {f : α → Except ε β} {items : List α} {values : List β} :
    items.mapM f = .ok values ↔ List.Forall₂ (fun a b => f a = .ok b) items values := by
  induction items generalizing values with
  | nil =>
      rw [List.mapM_nil, List.forall₂_nil_left_iff]
      exact ⟨fun h => (Except.ok.inj h).symm, fun h => congrArg Except.ok h.symm⟩
  | cons a rest ih =>
      rw [List.mapM_cons, List.forall₂_cons_left_iff, Expansion.bind_eq_ok_iff]
      constructor
      · rintro ⟨b, hb, h⟩
        obtain ⟨others, ho, h⟩ := Expansion.bind_eq_ok_iff.mp h
        cases h
        exact ⟨b, others, hb, ih.mp ho, rfl⟩
      · rintro ⟨b, others, hb, ho, rfl⟩
        exact ⟨b, hb, Expansion.bind_eq_ok_iff.mpr ⟨others, ih.mpr ho, rfl⟩⟩

theorem exists_of_mem_mapM {ε α β : Type} {f : α → Except ε β} {items : List α} {values : List β}
    (h : items.mapM f = .ok values) {b : β} (hb : b ∈ values) : ∃ a ∈ items, f a = .ok b := by
  have hall := mapM_eq_ok_iff.mp h
  clear h
  induction hall with
  | nil => cases hb
  | @cons a first rest others ha _ ih =>
      rcases List.mem_cons.mp hb with rfl | hb
      · exact ⟨a, List.mem_cons_self, ha⟩
      · obtain ⟨other, hm, ho⟩ := ih hb
        exact ⟨other, List.mem_cons_of_mem a hm, ho⟩

theorem mapM_eq_ok_map {ε α β : Type} {f : α → Except ε β} {g : α → β} {items : List α}
    (h : ∀ a ∈ items, f a = .ok (g a)) : items.mapM f = .ok (items.map g) :=
  mapM_eq_ok_iff.mpr (List.forall₂_map_right_iff.mpr (List.forall₂_same.mpr h))

/-- A list cannot be mapped for the sake of its first item that has no value. -/
theorem mapM_eq_error_iff {ε α β : Type} {f : α → Except ε β} {items : List α} {error : ε} :
    items.mapM f = .error error ↔
      ∃ front item back, items = front ++ item :: back ∧ (∀ a ∈ front, ∃ b, f a = .ok b) ∧
        f item = .error error := by
  induction items with
  | nil =>
      constructor
      · intro h
        cases h
      · rintro ⟨front, item, back, he, -⟩
        exact absurd he.symm (List.append_ne_nil_of_right_ne_nil front (List.cons_ne_nil item back))
  | cons first rest ih =>
      rw [List.mapM_cons, bind_eq_error_iff]
      simp only [bind_eq_error_iff, ih]
      constructor
      · rintro (h | ⟨value, hv, ⟨front, item, back, rfl, hf, hi⟩ | ⟨_, _, h⟩⟩)
        · exact ⟨[], first, rest, rfl, List.forall_mem_nil _, h⟩
        · exact ⟨first :: front, item, back, rfl, List.forall_mem_cons.mpr ⟨⟨value, hv⟩, hf⟩, hi⟩
        · cases h
      · rintro ⟨front, item, back, he, hf, hi⟩
        cases front with
        | nil =>
            cases he
            exact Or.inl hi
        | cons head front =>
            obtain ⟨rfl, rfl⟩ := List.cons.inj he
            obtain ⟨⟨value, hv⟩, hf⟩ := List.forall_mem_cons.mp hf
            exact Or.inr ⟨value, hv, Or.inl ⟨front, item, back, rfl, hf, hi⟩⟩

/-! ### Fragments are objects -/

def Json.IsObject (value : Json) : Prop := ∃ members, value = .obj members

namespace Fragment

theorem isObject_describe {fragment : Json} (h : fragment.IsObject) (text : String) :
    (describe text fragment).IsObject := by
  obtain ⟨members, rfl⟩ := h
  exact ⟨_, rfl⟩

theorem isObject_primitive (p : Primitive) : (primitive p).IsObject := by
  unfold primitive
  split <;> exact ⟨_, rfl⟩

theorem isObject_level (level : TypeExpr.Level) (fragment : Json) :
    (Fragment.level level fragment).IsObject := by
  cases level <;> exact ⟨_, rfl⟩

theorem isObject_wrap {fragment : Json} (h : fragment.IsObject) (levels : List TypeExpr.Level) :
    (wrap levels fragment).IsObject := by
  cases levels with
  | nil => exact h
  | cons level below => exact isObject_level level _

end Fragment

theorem Enumeration.isObject_fragment (enumeration : Enumeration) :
    enumeration.fragment.IsObject := by
  unfold fragment
  dsimp only
  split
  · exact ⟨_, rfl⟩
  · exact Fragment.isObject_describe ⟨_, rfl⟩ _

theorem Field.isObject_describe (field : Field) {fragment : Json} (h : fragment.IsObject) :
    (field.describe fragment).IsObject := by
  unfold describe
  split
  · exact h
  · exact Fragment.isObject_describe h _

/-- Every property has a schema. -/
def Components.Schematic (components : Components) : Prop :=
  ∀ name value, (name, value) ∈ components.properties → value.IsObject

namespace Expansion

open Generation (Scope)

variable {enums : Table Enumeration} {lookup : Lookup} {site : Site}

theorem isObject_of_leaf {written name : List Char} {fragment : Json}
    (h : leaf enums lookup site written name = .ok fragment) : fragment.IsObject := by
  unfold leaf at h
  split at h
  · cases h
    exact Fragment.isObject_primitive _
  · split at h
    · cases h
      exact Enumeration.isObject_fragment _
    · obtain ⟨found, -, h⟩ := bind_eq_ok_iff.mp h
      cases found with
      | some components =>
          cases h
          exact ⟨_, rfl⟩
      | none =>
          dsimp only at h
          split at h <;> cases h

theorem isObject_of_rawType {text : List Char} {fragment : Json}
    (h : rawType enums lookup site text = .ok fragment) : fragment.IsObject := by
  obtain ⟨found, inner, -, hl, rfl⟩ := rawType_eq_ok_iff.mp h
  exact Fragment.isObject_wrap (isObject_of_leaf hl) found.levels

/-- The components of a record that has some at the empty path. -/
def components (scope : Scope) (r : Record) : Components := (record scope [] r).toOption.getD {}

theorem components_eq {scope : Scope} {r : Record} {found : Components}
    (h : record scope [] r = .ok found) : components scope r = found := by
  rw [components, h]
  rfl

theorem Expands.record_eq_ok {scope : Scope} {r : Record} (h : Expands scope [] r) :
    record scope [] r = .ok (components scope r) := by
  obtain ⟨found, hf⟩ := h
  rw [components_eq hf, hf]

/-- The components of a record are its fields, each with what its type means to the records that can
be referred to. -/
theorem Expands.extends {scope : Scope} {r : Record} (h : Expands scope [] r) :
    Components.Extends
      (fun field fragment => rawType scope.enums (target scope [r.name]) ⟨r.name, field.name⟩
        field.rawType.toList = .ok fragment) {} r.fields (components scope r) := by
  have hfields := h.record_eq_ok
  rw [record_of_not_mem List.not_mem_nil] at hfields
  exact fields_eq_ok_iff.mp hfields

theorem Expands.schematic {scope : Scope} {r : Record} (h : Expands scope [] r) :
    (components scope r).Schematic :=
  h.extends.forall_properties (fun _ _ hm => absurd hm List.not_mem_nil)
    fun field _ hf => field.isObject_describe (isObject_of_rawType hf)

theorem batch_eq_ok_iff {scope : Scope} {records : List Record} {results : Table Components} :
    batch scope records = .ok results ↔ (∀ r ∈ records, Expands scope [] r) ∧
      results = records.map fun r => (r.name, components scope r) := by
  have hmap (h : ∀ r ∈ records, Expands scope [] r) :
      batch scope records = .ok (records.map fun r => (r.name, components scope r)) :=
    mapM_eq_ok_map fun r hr => bind_eq_ok_iff.mpr ⟨_, (h r hr).record_eq_ok, rfl⟩
  constructor
  · intro h
    have he := batch_ok_iff.mp ⟨results, h⟩
    exact ⟨he, Except.ok.inj (h.symm.trans (hmap he))⟩
  · rintro ⟨he, rfl⟩
    exact hmap he

end Expansion

/-! ### Schemas of a dialect -/

namespace Json

theorem find?_geminiMembers {key : String} (hk : key ≠ "format") (members : List (String × Json)) :
    Table.find? (geminiMembers members) key =
      (Table.find? members key).map (geminiMember key) := by
  induction members with
  | nil => rfl
  | cons entry rest ih =>
      obtain ⟨name, value⟩ := entry
      rw [geminiMembers, Table.find?_cons]
      by_cases hf : name = "format"
      · rw [if_pos hf, ih, if_neg (hf ▸ Ne.symm hk)]
      · rw [if_neg hf, Table.find?_cons, ih]
        by_cases hn : name = key
        · rw [if_pos hn, if_pos hn, hn]
          rfl
        · rw [if_neg hn, if_neg hn]

end Json

namespace Dialect

/-- A schema as a dialect writes it. -/
def schema : Dialect → Json → Json
  | .gemini, .obj members => .obj (Json.geminiMembers members)
  | _, other => other

/-- The value of a member of a schema as a dialect writes it. -/
def memberValue : Dialect → String → Json → Json
  | .gemini, key, value => Json.geminiMember key value
  | _, _, value => value

/-- What a dialect calls the type of an object. -/
def objectType : Dialect → String
  | .gemini => "OBJECT"
  | _ => "object"

def properties (dialect : Dialect) (components : Components) : Table Json :=
  List.map (fun entry => (entry.1, dialect.schema entry.2)) components.properties

variable (dialect : Dialect)

theorem member?_schema {key : String} (hk : key ≠ "format") {value : Json} (h : value.IsObject) :
    (dialect.schema value).member? key = (value.member? key).map (dialect.memberValue key) := by
  obtain ⟨members, rfl⟩ := h
  cases dialect with
  | openai => exact Option.map_id_apply.symm
  | grok => exact Option.map_id_apply.symm
  | gemini => exact Json.find?_geminiMembers hk members

/-- Where a member leads to a schema, its value is written as a schema. -/
theorem memberValue_of_isObject {key : String} (hk : key = "items" ∨ key = "additionalProperties")
    {value : Json} (h : value.IsObject) : dialect.memberValue key value = dialect.schema value := by
  obtain ⟨members, rfl⟩ := h
  cases dialect with
  | openai => rfl
  | grok => rfl
  | gemini =>
      change Json.geminiMember key (.obj members) = _
      rw [Json.geminiMember, if_pos hk]
      rfl

theorem geminiProperties_eq_map (entries : List (String × Json)) :
    Json.geminiProperties entries =
      entries.map fun entry => (entry.1, Dialect.gemini.schema entry.2) := by
  induction entries with
  | nil => rfl
  | cons entry rest ih =>
      obtain ⟨name, value⟩ := entry
      rw [List.map_cons, ← ih]
      cases value <;> rfl

theorem upper_object : Text.upper "object" = "OBJECT" := by decide +kernel

/-- The schema of a record holds the schemas of its properties, written as the dialect writes them. -/
theorem schema_record (components : Components) :
    dialect.schema (Fragment.record components) =
      .obj [("type", .str dialect.objectType), ("properties", .obj (dialect.properties components)),
        ("required", Fragment.names components.required)] := by
  have hid : List.map (fun entry : String × Json => (entry.1, entry.2)) components.properties =
      components.properties := List.map_id _
  cases dialect with
  | openai => exact congrArg (fun p => Json.obj [_, ("properties", .obj p), _]) hid.symm
  | grok => exact congrArg (fun p => Json.obj [_, ("properties", .obj p), _]) hid.symm
  | gemini =>
      change Json.obj [("type", .str (Text.upper "object")),
        ("properties", .obj (Json.geminiProperties components.properties)),
        ("required", Fragment.names components.required)] = _
      rw [upper_object, geminiProperties_eq_map]
      rfl

/-- The object schema of some components; of other members than these three nothing is said. -/
structure Declares (components : Components) (schema : Json) : Prop where
  type : schema.member? "type" = some (.str dialect.objectType)
  properties : schema.member? "properties" = some (.obj (dialect.properties components))
  required : schema.member? "required" = some (Fragment.names components.required)

theorem declares_record (components : Components) :
    dialect.Declares components (dialect.schema (Fragment.record components)) := by
  rw [schema_record]
  exact ⟨rfl, rfl, rfl⟩

/-! ### Declarations -/

/-- The entry of a record with some components. -/
def declare (record : Record) (components : Components) : Json :=
  match dialect with
  | .gemini =>
    .obj [("name", .str record.name), ("description", .str (record.description.getD "")),
      ("parameters", dialect.schema (Fragment.record components))]
  | _ => toolEntry record components.parameters

theorem mapM_toGemini {components : Components} (h : components.Schematic) :
    components.properties.mapM (fun entry => do return (entry.1, ← entry.2.toGemini)) =
      .ok (Dialect.gemini.properties components) := by
  refine mapM_eq_ok_map fun entry he => ?_
  obtain ⟨members, hm⟩ := h entry.1 entry.2 he
  rw [hm]
  rfl

theorem entry_eq (record : Record) {components : Components} (h : components.Schematic) :
    dialect.entry record components.parameters = .ok (dialect.declare record components) := by
  cases dialect with
  | openai => rfl
  | grok => rfl
  | gemini =>
      change declarationEntry record components.parameters = _
      rw [declare, schema_record]
      refine Expansion.bind_eq_ok_iff.mpr ⟨components.properties, rfl, ?_⟩
      exact Expansion.bind_eq_ok_iff.mpr ⟨_, mapM_toGemini h, rfl⟩

/-- The part of an entry that speaks of the record. -/
def declaration? (entry : Json) : Option Json :=
  match dialect with
  | .gemini => some entry
  | _ => entry.member? "function"

def declaredName? (entry : Json) : Option String :=
  match (dialect.declaration? entry).bind (Json.member? · "name") with
  | some (.str name) => some name
  | _ => none

/-- The parameters in the entry of a name. -/
def parameters? (document : List Json) (name : String) : Option Json := do
  let entry ← document.find? fun entry => dialect.declaredName? entry = some name
  (← dialect.declaration? entry).member? "parameters"

theorem declaredName?_declare (record : Record) (components : Components) :
    dialect.declaredName? (dialect.declare record components) = some record.name := by
  cases dialect <;> rfl

theorem parameters_declare (record : Record) (components : Components) :
    ((dialect.declaration? (dialect.declare record components)).bind
      (Json.member? · "parameters")) = some (dialect.schema (Fragment.record components)) := by
  cases dialect with
  | openai =>
      change Table.find? ([_] ++ _ ++ [_]) "parameters" = _
      cases spoken? record.description <;> rfl
  | grok =>
      change Table.find? ([_] ++ _ ++ [_]) "parameters" = _
      cases spoken? record.description <;> rfl
  | gemini => rfl

theorem parameters?_eq {records : List Record} {declared : Record → Components}
    (hd : (records.map Record.name).Nodup) {r : Record} (hr : r ∈ records) :
    dialect.parameters? (records.map fun r => dialect.declare r (declared r)) r.name =
      some (dialect.schema (Fragment.record (declared r))) := by
  have hname : (fun entry => decide (dialect.declaredName? entry = some r.name)) ∘
      (fun r => dialect.declare r (declared r)) = fun other => decide (other.name = r.name) := by
    funext other
    simp only [Function.comp_apply, declaredName?_declare, Option.some.injEq]
  have ht : records.find? (fun other => other.name = r.name) = some r :=
    @Generation.Scope.target?_of_mem ⟨records, []⟩ r hd hr
  have hfind : (records.map fun r => dialect.declare r (declared r)).find?
      (fun entry => dialect.declaredName? entry = some r.name) =
        some (dialect.declare r (declared r)) := by
    rw [List.find?_map, hname, ht]
    rfl
  rw [parameters?, hfind]
  exact dialect.parameters_declare r (declared r)

theorem ofName?_name : ofName? dialect.name = some dialect := by
  cases dialect <;> rfl

theorem ofName?_eq_some {text : String} {dialect : Dialect} (h : ofName? text = some dialect) :
    text = dialect.name := by
  have hname := List.find?_some h
  exact (of_decide_eq_true hname).symm

end Dialect

/-! ### Documents -/

theorem firsts_eq_self {α β : Type} [DecidableEq β] {key : α → β} {items : List α}
    (h : (items.map key).Nodup) : firsts key items = items := by
  have hafter : ∀ seen : List β, (∀ a ∈ items, key a ∉ seen) →
      firstsAfter key seen items = items := by
    induction items with
    | nil => exact fun _ _ => rfl
    | cons a rest ih =>
        intro seen hs
        rw [List.map_cons, List.nodup_cons] at h
        rw [firstsAfter, if_neg (hs a List.mem_cons_self), ih h.2]
        intro b hb hm
        rcases List.mem_cons.mp hm with he | hm
        · exact h.1 (he ▸ List.mem_map_of_mem hb)
        · exact hs b (List.mem_cons_of_mem a hb) hm
  exact hafter [] fun _ _ => List.not_mem_nil

theorem find?_map_name {records : List Record} {declared : Record → Components}
    (hd : (records.map Record.name).Nodup) {r : Record} (hr : r ∈ records) :
    Table.find? (records.map fun r => (r.name, declared r)) r.name = some (declared r) := by
  refine Table.find?_of_mem ?_ (List.mem_map_of_mem hr)
  rw [Table.keys, List.map_map]
  exact hd

/-- Records whose components are found are declared one after the other, the first of each name. -/
theorem formatSchemas_of_found (dialect : Dialect) {records : List Record}
    {components : Table Components} {declared : Record → Components}
    (hf : ∀ r ∈ records, components.find? r.name = some (declared r))
    (hs : ∀ r ∈ records, (declared r).Schematic) :
    formatSchemas records (Components.table components) dialect.name =
      .ok ((firsts Record.name records).map fun r => dialect.declare r (declared r)) := by
  have hm : ∀ r ∈ firsts Record.name records, r ∈ records := fun r hr => (mem_firstsAfter hr).1
  have hpair : ∀ r ∈ firsts Record.name records,
      dialect.pair (Components.table components) r = .ok (r, (declared r).parameters) := by
    intro r hr
    unfold Dialect.pair Components.table
    rw [Table.find?_map, hf r (hm r hr)]
    rfl
  have hentry : ∀ r ∈ firsts Record.name records, dialect.entry r (declared r).parameters =
      .ok (dialect.declare r (declared r)) := fun r hr => dialect.entry_eq r (hs r (hm r hr))
  rw [formatSchemas, dialect.ofName?_name]
  refine Expansion.bind_eq_ok_iff.mpr
    ⟨(firsts Record.name records).map fun r => (r, (declared r).parameters), ?_, ?_⟩
  · exact mapM_eq_ok_map hpair
  · rw [Dialect.entries, List.mapM_map]
    exact congrArg (Except.mapError FormattingError.shape) (mapM_eq_ok_map hentry)

/-- Records with components of their own are declared one after the other. -/
theorem formatSchemas_eq (dialect : Dialect) {records : List Record}
    {declared : Record → Components} (hd : (records.map Record.name).Nodup)
    (hs : ∀ r ∈ records, (declared r).Schematic) :
    formatSchemas records (Components.table (records.map fun r => (r.name, declared r)))
      dialect.name = .ok (records.map fun r => dialect.declare r (declared r)) := by
  rw [formatSchemas_of_found dialect (fun r hr => find?_map_name hd hr) hs, firsts_eq_self hd]

theorem Logged.bind_result {ε α β : Type} (first : Logged ε α) (next : α → Logged ε β) :
    (first >>= next).result = (do (next (← first.result)).result) := by
  change (Logged.andThen first next).result = _
  unfold Logged.andThen
  cases first.result <;> rfl

theorem mapError_eq_ok_iff {ε δ α : Type} {f : ε → δ} {result : Except ε α} {value : α} :
    result.mapError f = .ok value ↔ result = .ok value := by
  cases result with
  | ok found => exact ⟨fun h => congrArg Except.ok (Except.ok.inj h), fun h => h ▸ rfl⟩
  | error e =>
      constructor
      · intro h
        cases h
      · intro h
        cases h

theorem mapError_eq_error_iff {ε δ α : Type} {f : ε → δ} {result : Except ε α} {error : δ} :
    result.mapError f = .error error ↔ ∃ found, result = .error found ∧ f found = error := by
  cases result with
  | error found => simp [Except.mapError]
  | ok value => simp [Except.mapError]

theorem generateLogged_result (targets : List Record) (enums : Table Enumeration) :
    (generateLogged targets enums).result = generateSchemas targets enums := by
  rw [generateLogged, Logged.bind_result]
  rfl

theorem formatLogged_result (records : List Record) (components : Table Components)
    (format : String) :
    (formatLogged records components format).result =
      formatSchemas records (Components.table components) format := by
  rw [formatLogged, Logged.bind_result]
  change (formatSchemas records (Components.table components) format >>= fun entries => _) = _
  cases formatSchemas records (Components.table components) format <;> rfl

theorem generateSchemas_eq_ok_iff {records : List Record} {enums : Table Enumeration}
    (hd : (records.map Record.name).Nodup) {results : Table Components} :
    generateSchemas records enums = .ok results ↔
      (∀ r ∈ records, Expansion.Expands ⟨records, enums⟩ [] r) ∧
        results = records.map fun r => (r.name, Expansion.components ⟨records, enums⟩ r) := by
  rw [Generator.generateSchemas_of_nodup enums hd,
    (Generation.generate_follows ⟨records, enums⟩ hd (Generation.steady_nil _)).1]
  exact Expansion.batch_eq_ok_iff

/-- A document declares its targets in order, with the components of each. -/
theorem buildDocument_eq_ok_iff {targets : List Record} {enums : Table Enumeration}
    (hd : (targets.map Record.name).Nodup) (dialect : Dialect) {document : List Json} :
    (buildDocument targets enums dialect.name).result = .ok document ↔
      (∀ r ∈ targets, Expansion.Expands ⟨targets, enums⟩ [] r) ∧
        document = targets.map fun r =>
          dialect.declare r (Expansion.components ⟨targets, enums⟩ r) := by
  have hformat (he : ∀ r ∈ targets, Expansion.Expands ⟨targets, enums⟩ [] r) :=
    formatSchemas_eq dialect hd fun r hr => (he r hr).schematic
  rw [buildDocument, Logged.bind_result, Expansion.bind_eq_ok_iff]
  simp only [Logged.mapError, generateLogged_result, formatLogged_result, mapError_eq_ok_iff,
    generateSchemas_eq_ok_iff hd]
  constructor
  · rintro ⟨results, ⟨he, rfl⟩, hf⟩
    exact ⟨he, Except.ok.inj (hf.symm.trans (hformat he))⟩
  · rintro ⟨he, rfl⟩
    exact ⟨_, ⟨he, rfl⟩, hformat he⟩

/-! ### From descriptors to a document -/

namespace DescriptorSet

variable {set : DescriptorSet} {names : List String}

theorem name_of_record? {name : String} {r : Record} (h : set.record? name = some r) :
    r.name = name := by
  simpa using List.find?_some h

theorem mem_records_of_record? {name : String} {r : Record} (h : set.record? name = some r) :
    r ∈ set.records :=
  List.mem_reverse.mp (List.mem_of_find?_eq_some h)

theorem nodup_targets (set : DescriptorSet) (names : List String) :
    ((set.select names).targets.map Record.name).Nodup := by
  have hn : (firsts id names).Nodup := by
    have h := nodup_map_firsts id names
    rwa [List.map_id] at h
  rw [select, List.map_filterMap]
  refine hn.filterMap fun a b name ha hb => ?_
  obtain ⟨r, hr, rfl⟩ := Option.map_eq_some_iff.mp ha
  obtain ⟨s, hs, he⟩ := Option.map_eq_some_iff.mp hb
  rw [← name_of_record? hr, ← name_of_record? hs, he]

theorem mem_records_of_mem_targets {r : Record} (h : r ∈ (set.select names).targets) :
    r ∈ set.records := by
  obtain ⟨name, -, hr⟩ := List.mem_filterMap.mp h
  exact mem_records_of_record? hr

/-- What a request can refer to: the records that are requested, and all enumerations. -/
def requested (set : DescriptorSet) (names : List String) : Generation.Scope :=
  ⟨(set.select names).targets, set.enums⟩

end DescriptorSet

/-- A document of descriptors is read, and the document of the requested records is built. -/
structure Builds (descriptors : Json) (origin : String) (names : List String) (dialect : Dialect)
    (set : DescriptorSet) (document : List Json) : Prop where
  read : DescriptorSet.ofJson descriptors origin = .ok set
  built : (buildDocument (set.select names).targets set.enums dialect.name).result = .ok document

namespace Builds

variable {descriptors : Json} {origin : String} {names : List String} {dialect : Dialect}
  {set : DescriptorSet} {document : List Json} {r : Record}

theorem expands (h : Builds descriptors origin names dialect set document)
    (hr : r ∈ (set.select names).targets) : Expansion.Expands (set.requested names) [] r :=
  ((buildDocument_eq_ok_iff (set.nodup_targets names) dialect).mp h.built).1 r hr

theorem parameters?_eq (h : Builds descriptors origin names dialect set document)
    (hr : r ∈ (set.select names).targets) :
    dialect.parameters? document r.name =
      some (dialect.schema (Fragment.record (Expansion.components (set.requested names) r))) := by
  rw [((buildDocument_eq_ok_iff (set.nodup_targets names) dialect).mp h.built).2]
  exact dialect.parameters?_eq (set.nodup_targets names) hr

end Builds

/-- The second field `x` of `Place` takes the place of the first, and its flag goes against its type. -/
def timetable : Json :=
  .obj [("records", .arr
      [.obj [("name", .str "Trip"), ("fields", .arr
          [.obj [("name", .str "stops"), ("type", .str "[Place] ?")],
            .obj [("name", .str "back"), ("type", .str "Leg"),
              ("description", .str "the way home")]])],
        .obj [("name", .str "Leg"), ("fields", .arr
          [.obj [("name", .str "via"), ("type", .str "[String: [Place]]")]])],
        .obj [("name", .str "Place"), ("fields", .arr
          [.obj [("name", .str "x"), ("type", .str "Double")],
            .obj [("name", .str "mode"), ("type", .str "Mode"), ("optional", .null),
              ("description", .str "rail or road")],
            .obj [("name", .str "x"), ("type", .str "Int?"), ("optional", .bool false)]])]]),
    ("enums", .arr
      [.obj [("name", .str "Mode"), ("description", .str "how"),
        ("cases", .arr [.obj [("name", .str "rail")]])]])]

def timetableSet : DescriptorSet where
  records :=
    [{ name := "Trip"
       fields := [⟨"stops", "[Place] ?", none, true⟩, ⟨"back", "Leg", some "the way home", false⟩] },
      { name := "Leg", fields := [⟨"via", "[String: [Place]]", none, false⟩] },
      { name := "Place"
        fields := [⟨"x", "Double", none, false⟩, ⟨"mode", "Mode", some "rail or road", false⟩,
          ⟨"x", "Int?", none, false⟩] }]
  enums := [("Mode", ⟨"Mode", some "how", [⟨"rail", none⟩]⟩)]

theorem timetable_builds (dialect : Dialect) :
    ∃ document, Builds timetable "timetable.json" ["Trip", "Leg", "Place"] dialect timetableSet
      document := by
  have hread : DescriptorSet.ofJson timetable "timetable.json" = .ok timetableSet := rfl
  have hall : (timetableSet.select ["Trip", "Leg", "Place"]).targets = timetableSet.records := by
    decide
  have hok : (generateSchemas timetableSet.records timetableSet.enums).isOk = true := by
    decide +kernel
  obtain ⟨results, hg⟩ := Expansion.exists_of_isOk hok
  refine ⟨_, hread, (buildDocument_eq_ok_iff (timetableSet.nodup_targets _) dialect).mpr ⟨?_, rfl⟩⟩
  rw [hall]
  exact ((generateSchemas_eq_ok_iff (by decide)).mp hg).1

end ToolSchema
