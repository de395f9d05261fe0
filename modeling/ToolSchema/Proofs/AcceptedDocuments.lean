import ToolSchema.Proofs.DocumentReading

/-! Which documents are accepted. What a descriptor document has to look like is said here of the value
alone, kind by kind and without what is read from it. Such a document is read, as the set that it says,
and every other value is refused. -/

namespace ToolSchema

namespace Json

def HoldsText (data : Json) (key : String) : Prop := ∃ text, data.text? key = some text

/-- A member that may be missing, or null, but is a text otherwise. -/
def MayHoldText (data : Json) (key : String) : Prop := data.Unset key ∨ data.HoldsText key

def MayHoldFlag (data : Json) (key : String) : Prop :=
  data.Unset key ∨ ∃ flag, data.member? key = some (.bool flag)

/-- A member that may be missing, but lists values of one shape otherwise. -/
def MayList (shape : Json → Prop) (data : Json) (key : String) : Prop :=
  data.Lists key ∧ ∀ item ∈ data.listed key, shape item

structure IsField (data : Json) : Prop where
  object : data.IsObject
  name : data.HoldsText "name"
  type : data.HoldsText "type"
  description : data.MayHoldText "description"
  optional : data.MayHoldFlag "optional"

structure IsRecord (data : Json) : Prop where
  object : data.IsObject
  name : data.HoldsText "name"
  description : data.MayHoldText "description"
  fields : MayList IsField data "fields"

structure IsEnumCase (data : Json) : Prop where
  object : data.IsObject
  name : data.HoldsText "name"
  description : data.MayHoldText "description"

structure IsEnumeration (data : Json) : Prop where
  object : data.IsObject
  name : data.HoldsText "name"
  description : data.MayHoldText "description"
  cases : MayList IsEnumCase data "cases"

/-- The names of what a member lists, in order. -/
def namesIn (data : Json) (key : String) : List (Option String) :=
  (data.listed key).map (text? · "name")

structure IsDescriptorDocument (document : Json) : Prop where
  object : document.IsObject
  records : MayList IsRecord document "records"
  enums : MayList IsEnumeration document "enums"
  distinctRecords : (document.namesIn "records").Nodup
  distinctEnums : (document.namesIn "enums").Nodup

/-! ### Shapes and what is said -/

variable {data : Json} {key : String}

theorem exists_forall₂_iff {α β : Type} {R : α → β → Prop} {items : List α} :
    (∃ values, List.Forall₂ R items values) ↔ ∀ item ∈ items, ∃ value, R item value := by
  induction items with
  | nil => exact ⟨fun _ _ hm => absurd hm List.not_mem_nil, fun _ => ⟨[], .nil⟩⟩
  | cons item rest ih =>
      rw [List.forall_mem_cons, ← ih]
      constructor
      · rintro ⟨_, h⟩
        obtain ⟨value, values, hr, hrest, rfl⟩ := List.forall₂_cons_left_iff.mp h
        exact ⟨⟨value, hr⟩, values, hrest⟩
      · rintro ⟨⟨value, hr⟩, values, hrest⟩
        exact ⟨value :: values, .cons hr hrest⟩

theorem mayHoldText_iff : data.MayHoldText key ↔ ∃ found, data.SaysText key found := by
  constructor
  · rintro (hu | ⟨text, ht⟩)
    · exact ⟨none, hu⟩
    · exact ⟨some text, ht⟩
  · rintro ⟨found, hf⟩
    cases found with
    | none => exact Or.inl hf
    | some text => exact Or.inr ⟨text, hf⟩

/-- What has a shape item by item says a list of what is said item by item. -/
theorem mayList_iff {α : Type} {shape : Json → Prop} {Says : Json → α → Prop}
    (h : ∀ item, shape item ↔ ∃ value, Says item value) :
    MayList shape data key ↔
      data.Lists key ∧ ∃ values, List.Forall₂ Says (data.listed key) values := by
  rw [MayList, exists_forall₂_iff]
  simp only [h]

theorem isField_iff : data.IsField ↔ ∃ field, data.SaysField field := by
  constructor
  · rintro ⟨-, ⟨name, hn⟩, ⟨type, ht⟩, hd, ho⟩
    obtain ⟨description, hd⟩ := mayHoldText_iff.mp hd
    rcases ho with hu | ⟨flag, hf⟩
    · exact ⟨⟨name, type, description, (TypeExpr.stripOptional type.toList).2⟩, hn, ht,
        Or.inr ⟨hu, rfl⟩, hd⟩
    · exact ⟨⟨name, type, description, flag⟩, hn, ht, Or.inl hf, hd⟩
  · rintro ⟨field, hf⟩
    refine ⟨isObject_of_text? hf.name, ⟨_, hf.name⟩, ⟨_, hf.type⟩,
      mayHoldText_iff.mpr ⟨_, hf.description⟩, ?_⟩
    exact hf.optional.symm.imp And.left fun h => ⟨_, h⟩

theorem isRecord_iff : data.IsRecord ↔ ∃ record, data.SaysRecord record := by
  constructor
  · rintro ⟨-, ⟨name, hn⟩, hd, hf⟩
    obtain ⟨description, hd⟩ := mayHoldText_iff.mp hd
    obtain ⟨hl, fields, hf⟩ := (mayList_iff fun _ => isField_iff).mp hf
    exact ⟨⟨name, description, fields⟩, hn, hd, hl, hf⟩
  · rintro ⟨record, hr⟩
    exact ⟨isObject_of_text? hr.name, ⟨_, hr.name⟩, mayHoldText_iff.mpr ⟨_, hr.description⟩,
      (mayList_iff fun _ => isField_iff).mpr ⟨hr.listing, _, hr.fields⟩⟩

theorem isEnumCase_iff : data.IsEnumCase ↔ ∃ entry, data.SaysCase entry := by
  constructor
  · rintro ⟨-, ⟨name, hn⟩, hd⟩
    obtain ⟨description, hd⟩ := mayHoldText_iff.mp hd
    exact ⟨⟨name, description⟩, hn, hd⟩
  · rintro ⟨entry, he⟩
    exact ⟨isObject_of_text? he.name, ⟨_, he.name⟩, mayHoldText_iff.mpr ⟨_, he.description⟩⟩

theorem isEnumeration_iff : data.IsEnumeration ↔ ∃ enumeration, data.SaysEnumeration enumeration := by
  constructor
  · rintro ⟨-, ⟨name, hn⟩, hd, hc⟩
    obtain ⟨description, hd⟩ := mayHoldText_iff.mp hd
    obtain ⟨hl, cases, hc⟩ := (mayList_iff fun _ => isEnumCase_iff).mp hc
    exact ⟨⟨name, description, cases⟩, hn, hd, hl, hc⟩
  · rintro ⟨enumeration, he⟩
    exact ⟨isObject_of_text? he.name, ⟨_, he.name⟩, mayHoldText_iff.mpr ⟨_, he.description⟩,
      (mayList_iff fun _ => isEnumCase_iff).mpr ⟨he.listing, _, he.cases⟩⟩

theorem namesIn_eq {α : Type} {Says : Json → α → Prop} {name : α → String} {values : List α}
    (hs : ∀ item value, Says item value → item.text? "name" = some (name value))
    (h : List.Forall₂ Says (data.listed key) values) :
    data.namesIn key = (values.map name).map some := by
  rw [namesIn]
  generalize data.listed key = items at h
  induction h with
  | nil => rfl
  | cons hr _ ih => rw [List.map_cons, hs _ _ hr, ih, List.map_cons, List.map_cons]

/-- Distinct names are distinct where they are said and where they are read. -/
theorem nodup_namesIn_iff {α : Type} {Says : Json → α → Prop} {name : α → String} {values : List α}
    (hs : ∀ item value, Says item value → item.text? "name" = some (name value))
    (h : List.Forall₂ Says (data.listed key) values) :
    (data.namesIn key).Nodup ↔ (values.map name).Nodup := by
  rw [namesIn_eq hs h]
  exact List.nodup_map_iff fun _ _ => Option.some.inj

theorem isDescriptorDocument_iff : data.IsDescriptorDocument ↔ ∃ set, data.SaysSet set := by
  constructor
  · rintro ⟨ho, hr, he, hdr, hde⟩
    obtain ⟨hrl, records, hr⟩ := (mayList_iff fun _ => isRecord_iff).mp hr
    obtain ⟨hel, enumerations, he⟩ := (mayList_iff fun _ => isEnumeration_iff).mp he
    refine ⟨⟨records, Enumeration.table enumerations⟩, ho, hrl, hr, hel, ⟨_, he, rfl⟩, ?_, ?_⟩
    · exact (nodup_namesIn_iff (fun _ _ h => SaysRecord.name h) hr).mp hdr
    · rw [Enumeration.keys_table]
      exact (nodup_namesIn_iff (fun _ _ h => SaysEnumeration.name h) he).mp hde
  · rintro ⟨set, ho, hrl, hr, hel, ⟨enumerations, he, ht⟩, hdr, hde⟩
    rw [ht, Enumeration.keys_table] at hde
    exact ⟨ho, (mayList_iff fun _ => isRecord_iff).mpr ⟨hrl, _, hr⟩,
      (mayList_iff fun _ => isEnumeration_iff).mpr ⟨hel, _, he⟩,
      (nodup_namesIn_iff (fun _ _ h => SaysRecord.name h) hr).mpr hdr,
      (nodup_namesIn_iff (fun _ _ h => SaysEnumeration.name h) he).mpr hde⟩

end Json

/-- A value is read exactly if it is a descriptor document, and any other value is refused. What is
read is what the document says: its records in order, and its enumerations in order and each under its
own name. -/
theorem DescriptorSet.accepts_descriptor_documents (document : Json) (origin : String) :
    ((∃ set, ofJson document origin = .ok set) ↔ document.IsDescriptorDocument) ∧
    ((∃ error : DocumentError, ofJson document origin = .error error) ↔
      ¬document.IsDescriptorDocument) ∧
    ∀ set, ofJson document origin = .ok set ↔ document.SaysSet set := by
  have hread : (∃ set, ofJson document origin = .ok set) ↔ document.IsDescriptorDocument := by
    rw [Json.isDescriptorDocument_iff]
    exact exists_congr fun set => ofJson_eq_ok_iff
  refine ⟨hread, ?_, fun set => ofJson_eq_ok_iff⟩
  rw [← hread]
  cases ofJson document origin with
  | error error => exact ⟨fun _ => nofun, fun _ => ⟨error, rfl⟩⟩
  | ok set => exact ⟨nofun, fun h => absurd ⟨set, rfl⟩ h⟩

/-- A timetable is a descriptor document, while null does not stand for a list. -/
theorem timetable_accepted :
    timetable.IsDescriptorDocument ∧ timetable.SaysSet timetableSet ∧
      ¬(Json.obj [("enums", .null)]).IsDescriptorDocument := by
  have hread : DescriptorSet.ofJson timetable "timetable.json" = .ok timetableSet := rfl
  have htimetable := DescriptorSet.accepts_descriptor_documents timetable "timetable.json"
  have hnull := DescriptorSet.accepts_descriptor_documents (.obj [("enums", .null)]) "null.json"
  exact ⟨htimetable.1.mp ⟨_, hread⟩, (htimetable.2.2 _).mp hread, hnull.2.1.mp ⟨_, rfl⟩⟩

end ToolSchema
