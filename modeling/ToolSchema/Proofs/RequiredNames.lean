import ToolSchema.Proofs.DocumentReading
import ToolSchema.Proofs.Growth

/-! From a document of descriptors to the parameters of its records. The required names and the keys of
the properties can be read off the fields as the document lists them, and the schema of a property off
the last field of its name. None of this asks for the dialect. -/

namespace ToolSchema

open Expansion Generator

namespace Json

/-- A flag decides whether a field is required. Without one the type does, by how it ends. -/
def isRequired (field : Json) : Bool :=
  match field.member? "optional" with
  | some (.bool flag) => !flag
  | some .null | none =>
    (field.text? "type").any fun type => (Text.trim type.toList).getLast? != some '?'
  | some _ => false

def fieldNames (record : Json) : List String := (record.listed "fields").filterMap (text? · "name")

def requiredNames (record : Json) : List String :=
  ((record.listed "fields").filter isRequired).filterMap (text? · "name")

/-- A field that no later one of its name replaces. -/
def LastIn (field : Json) (declared : List Json) : Prop :=
  ∃ front back, declared = front ++ field :: back ∧
    ∀ later ∈ back, later.text? "name" ≠ field.text? "name"

end Json

theorem TypeExpr.stripOptional_snd (text : List Char) :
    (stripOptional text).2 = ((Text.trim text).getLast? == some '?') := by
  unfold stripOptional
  rw [List.getLast?_eq_head?_reverse]
  split
  · rename_i before hb
    rw [hb]
    rfl
  · rename_i hn
    cases hr : (Text.trim text).reverse with
    | nil => rfl
    | cons c before =>
        have hc : c ≠ '?' := fun hc => hn before (hc ▸ hr)
        exact (beq_eq_false_iff_ne.mpr fun h => hc (Option.some.inj h)).symm

theorem filterMap_eq_map {α β γ : Type} {f : α → Option γ} {g : β → γ} {items : List α}
    {values : List β} (h : List.Forall₂ (fun a b => f a = some (g b)) items values) :
    items.filterMap f = values.map g := by
  induction h with
  | nil => rfl
  | cons hf _ ih => rw [List.filterMap_cons, hf, ih, List.map_cons]

theorem forall₂_split {α β : Type} {R : α → β → Prop} {front back : List α} {a : α}
    {values : List β} (h : List.Forall₂ R (front ++ a :: back) values) :
    ∃ front' b back', values = front' ++ b :: back' ∧ R a b ∧ List.Forall₂ R back back' := by
  induction front generalizing values with
  | nil =>
      obtain ⟨b, back', hr, hb, rfl⟩ := List.forall₂_cons_left_iff.mp h
      exact ⟨[], b, back', rfl, hr, hb⟩
  | cons first rest ih =>
      obtain ⟨_, others, -, ho, rfl⟩ := List.forall₂_cons_left_iff.mp h
      obtain ⟨front', b, back', rfl, hr, hb⟩ := ih ho
      exact ⟨_ :: front', b, back', rfl, hr, hb⟩

/-! ### Values and what is read from them -/

namespace Json

theorem SaysField.isRequired_eq {data : Json} {field : Field} (h : data.SaysField field) :
    data.isRequired = !field.optional := by
  unfold isRequired
  rcases h.optional with hm | ⟨hm | hm, ho⟩ <;> rw [hm]
  all_goals
    rw [h.type, ho, TypeExpr.stripOptional_snd]
    rfl

theorem filter_isRequired {items : List Json} {declared : List Field}
    (h : List.Forall₂ SaysField items declared) :
    List.Forall₂ SaysField (items.filter isRequired)
      (declared.filter fun field => !field.optional) := by
  induction h with
  | nil => exact .nil
  | cons hs _ ih =>
      rw [List.filter_cons, List.filter_cons, hs.isRequired_eq]
      split
      · exact .cons hs ih
      · exact ih

theorem SaysRecord.fieldNames_eq {data : Json} {record : Record} (h : data.SaysRecord record) :
    data.fieldNames = record.fields.map Field.name :=
  filterMap_eq_map (h.fields.imp fun _ _ hs => hs.name)

theorem SaysRecord.requiredNames_eq {data : Json} {record : Record} (h : data.SaysRecord record) :
    data.requiredNames = (record.fields.filter fun field => !field.optional).map Field.name :=
  filterMap_eq_map ((filter_isRequired h.fields).imp fun _ _ hs => hs.name)

theorem SaysRecord.lastIn {data field : Json} {record : Record} (h : data.SaysRecord record)
    (hl : field.LastIn (data.listed "fields")) :
    ∃ found : Field, field.SaysField found ∧ found.LastIn record.fields := by
  obtain ⟨front, back, hlisted, hlast⟩ := hl
  obtain ⟨front', found, back', hfields, hs, hb⟩ := forall₂_split (hlisted ▸ h.fields)
  refine ⟨found, hs, front', back', hfields, fun hm => ?_⟩
  rw [← filterMap_eq_map (hb.imp fun _ _ hs => hs.name)] at hm
  obtain ⟨later, hlater, hname⟩ := List.mem_filterMap.mp hm
  exact hlast later hlater (hname.trans hs.name.symm)

/-- Where names are distinct, one item alone has the name of a record. -/
theorem filter_name_eq {items : List Json} {records : List Record} {r : Record}
    (h : List.Forall₂ SaysRecord items records) (hd : (records.map Record.name).Nodup)
    (hr : r ∈ records) :
    ∃ item : Json, item.SaysRecord r ∧
      items.filter (fun item => item.text? "name" = some r.name) = [item] := by
  induction h with
  | nil => exact absurd hr List.not_mem_nil
  | @cons item first items records hs hrest ih =>
      rw [List.map_cons, List.nodup_cons] at hd
      rcases List.mem_cons.mp hr with rfl | hr
      · have hnone : items.filter (fun item => item.text? "name" = some r.name) = [] := by
          refine List.filter_eq_nil_iff.mpr fun other ho he => hd.1 ?_
          rw [← filterMap_eq_map (hrest.imp fun _ _ hs => hs.name)]
          exact List.mem_filterMap.mpr ⟨other, ho, of_decide_eq_true he⟩
        exact ⟨item, hs, by rw [List.filter_cons_of_pos (by simp [hs.name]), hnone]⟩
      · have hne : first.name ≠ r.name := fun he => hd.1 (he ▸ List.mem_map_of_mem hr)
        obtain ⟨found, hread, hf⟩ := ih hd.2 hr
        exact ⟨found, hread, by rw [List.filter_cons_of_neg (by simp [hs.name, hne]), hf]⟩

end Json

/-! ### Parameters -/

namespace Dialect

variable (dialect : Dialect)

theorem keys_properties (components : Components) :
    Table.keys (dialect.properties components) = components.properties.keys := by
  rw [properties, Table.keys_map]

theorem description_describe (text : String) {fragment : Json} (h : fragment.IsObject) :
    (dialect.schema (Fragment.describe text fragment)).member? "description" = some (.str text) := by
  rw [dialect.member?_schema (by decide) (Fragment.isObject_describe h text)]
  obtain ⟨members, rfl⟩ := h
  change Option.map _ (Table.find? (Table.put members "description" _) "description") = _
  rw [Table.find?_put, if_pos rfl]
  cases dialect <;> rfl

end Dialect

theorem Field.describe_of_spoken {field : Field} {text : String} (h : field.description = some text)
    (ht : text ≠ "") (fragment : Json) :
    field.describe fragment = Fragment.describe text fragment := by
  have hs : spoken? field.description = some text := by
    rw [h]
    exact if_pos (bne_iff_ne.mpr ht)
  rw [describe, hs]

theorem Field.describe_of_silent {field : Field} (h : field.description.getD "" = "")
    (fragment : Json) : field.describe fragment = fragment := by
  have hs : spoken? field.description = none := by
    cases hd : field.description with
    | none => rfl
    | some text =>
        rw [hd] at h
        rw [show text = "" from h]
        rfl
  rw [describe, hs]

/-- The parameters of a record hold what its document lists: the required names as often as they are
required, a property for each name, and in it the schema that a fresh generator has for the type of the
last field of the name, with the description of this field if it says something. -/
theorem parameters_follow_document {descriptors : Json} {origin : String} {names : List String}
    {dialect : Dialect} {set : DescriptorSet} {document : List Json}
    (h : Builds descriptors origin names dialect set document) {r : Record}
    (hr : r ∈ (set.select names).targets) :
    ∃ item parameters properties g,
      (descriptors.listed "records").filter (fun item => item.text? "name" = some r.name) = [item] ∧
      dialect.parameters? document r.name = some parameters ∧
      parameters.member? "required" = some (.arr (item.requiredNames.map .str)) ∧
      parameters.member? "properties" = some (.obj properties) ∧
      Table.keys properties = item.fieldNames.eraseDups ∧
      ofBatch (set.select names).targets set.enums = .ok g ∧
      ∀ field : Json, field.LastIn (item.listed "fields") →
        ∃ name type fragment schema,
          field.text? "name" = some name ∧ field.text? "type" = some type ∧
          (g.step (.mapType type ⟨r.name, name⟩)).answer = .ok (.fragment fragment) ∧
          Table.find? properties name = some schema ∧
          (∀ text, field.text? "description" = some text → text ≠ "" →
            schema = dialect.schema (Fragment.describe text fragment) ∧
              schema.member? "description" = some (.str text)) ∧
          ((field.text? "description").getD "" = "" → schema = dialect.schema fragment) := by
  have hd := set.nodup_targets names
  have hg := ofBatch_of_nodup set.enums hd
  have hx := h.expands hr
  obtain ⟨hread, hnames⟩ := DescriptorSet.records_of_ofJson h.read
  obtain ⟨item, hitem, hunique⟩ :=
    Json.filter_name_eq hread hnames (DescriptorSet.mem_records_of_mem_targets hr)
  have hfields := hx.record_eq_ok
  rw [record_of_not_mem List.not_mem_nil] at hfields
  have hdecl := dialect.declares_record (components (set.requested names) r)
  refine ⟨item, _, _, _, hunique, h.parameters?_eq hr, ?_, hdecl.properties, ?_, hg,
    fun field hl => ?_⟩
  · rw [hdecl.required, required_of_fields hfields, hitem.requiredNames_eq]
    rfl
  · rw [dialect.keys_properties, hitem.fieldNames_eq]
    exact keys_of_fields hfields List.nodup_nil
  · obtain ⟨found, hs, hlast⟩ := hitem.lastIn hl
    obtain ⟨fragment, hraw, hfind⟩ := property_of_lastIn hd hx hlast
    have hdescription := Json.text?_of_saysText hs.description
    refine ⟨found.name, found.rawType, fragment, dialect.schema (found.describe fragment), hs.name,
      hs.type, ?_, ?_, fun text ht hne => ?_, fun hsilent => ?_⟩
    · rw [fresh_answer_eq (s := .mapType found.rawType ⟨r.name, found.name⟩) hg trivial trivial]
      exact congrArg (reply .fragment) hraw
    · rw [Dialect.properties, Table.find?_map, hfind]
      rfl
    · rw [Field.describe_of_spoken (hdescription ▸ ht) hne]
      exact ⟨rfl, dialect.description_describe text (isObject_of_rawType hraw)⟩
    · rw [Field.describe_of_silent (hdescription ▸ hsilent)]

/-- `Place` has two fields `x`, of which the second is required in spite of its type, and between them
one with a description other than that of its enumeration. -/
theorem timetable_parameters :
    ∃ document parameters properties schema,
      Builds timetable "timetable.json" ["Trip", "Leg", "Place"] .gemini timetableSet document ∧
        Dialect.gemini.parameters? document "Place" = some parameters ∧
        parameters.member? "required" = some (.arr [.str "x", .str "mode", .str "x"]) ∧
        parameters.member? "properties" = some (.obj properties) ∧
        Table.keys properties = ["x", "mode"] ∧
        Table.find? properties "mode" = some schema ∧
        schema.member? "description" = some (.str "rail or road") := by
  obtain ⟨document, h⟩ := timetable_builds .gemini
  obtain ⟨item, parameters, properties, g, hitem, hparameters, hrequired, hproperties, hkeys, -,
    hfields⟩ := parameters_follow_document h (r := timetableSet.records[2]) (by decide)
  have hplace : item = (timetable.listed "records")[2] := by
    have hfilter : (timetable.listed "records").filter
        (fun item => item.text? "name" = some "Place") = [(timetable.listed "records")[2]] := by cbv
    exact (List.cons.inj (hitem.symm.trans hfilter)).1
  subst hplace
  obtain ⟨name, type, fragment, schema, hname, -, -, hfind, hdescribed, -⟩ :=
    hfields ((timetable.listed "records")[2].listed "fields")[1]
      ⟨[((timetable.listed "records")[2].listed "fields")[0]],
        [((timetable.listed "records")[2].listed "fields")[2]], rfl, by decide⟩
  cases hname
  exact ⟨document, parameters, properties, schema, h, hparameters, hrequired, hproperties,
    hkeys.trans (by decide), hfind, (hdescribed "rail or road" rfl (by decide)).2⟩

end ToolSchema
