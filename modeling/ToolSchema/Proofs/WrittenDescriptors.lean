import ToolSchema.Proofs.DocumentReading
import ToolSchema.Proofs.FileReading
import ToolSchema.Proofs.WrittenText

/-! Descriptors written as documents. The document of a set of descriptors (`DescriptorSet.toJson`) says
the set, and it still does when the members of its objects are put in order, since nothing that is asked
of a document depends on that order. So every file that holds the document, in whatever way it is
encoded, is read as the set that was written. -/

namespace ToolSchema

/-! ### Documents of descriptors -/

/-- A text, or null if there is none. -/
def Json.ofText? (text : Option String) : Json := text.elim .null .str

def Field.toJson (field : Field) : Json :=
  .obj [("name", .str field.name), ("type", .str field.rawType),
    ("description", .ofText? field.description), ("optional", .bool field.optional)]

def Record.toJson (record : Record) : Json :=
  .obj [("name", .str record.name), ("description", .ofText? record.description),
    ("fields", .arr (record.fields.map Field.toJson))]

def EnumCase.toJson (entry : EnumCase) : Json :=
  .obj [("name", .str entry.name), ("description", .ofText? entry.description)]

def Enumeration.toJson (enumeration : Enumeration) : Json :=
  .obj [("name", .str enumeration.name), ("description", .ofText? enumeration.description),
    ("cases", .arr (enumeration.cases.map EnumCase.toJson))]

def DescriptorSet.toJson (set : DescriptorSet) : Json :=
  .obj [("records", .arr (set.records.map Record.toJson)),
    ("enums", .arr (set.enums.map fun entry => entry.2.toJson))]

/-! ### What they are made of -/

namespace Json

theorem ofText?_textual (text : Option String) : (ofText? text).Textual := by
  cases text with
  | none => exact .null
  | some text => exact .str text

theorem Textual.arr_map {α : Type} {values : List α} {write : α → Json}
    (h : ∀ value, (write value).Textual) : Textual (.arr (values.map write)) :=
  .arr (List.forall_mem_map.mpr fun value _ => h value)

/-- An object under names that are all different, with textual values. -/
theorem Textual.obj_of_forall {members : List (String × Json)}
    (hd : (Table.keys members).Nodup) (h : members.Forall fun entry => Textual entry.2) :
    Textual (.obj members) :=
  .obj hd (List.forall_iff_forall_mem.mp h)

end Json

open Json (ofText?_textual)

theorem Field.toJson_textual (field : Field) : field.toJson.Textual :=
  .obj_of_forall (by simp) ⟨.str _, .str _, ofText?_textual _, .bool _⟩

theorem Record.toJson_textual (record : Record) : record.toJson.Textual :=
  .obj_of_forall (by simp) ⟨.str _, ofText?_textual _, .arr_map Field.toJson_textual⟩

theorem EnumCase.toJson_textual (entry : EnumCase) : entry.toJson.Textual :=
  .obj_of_forall (by simp) ⟨.str _, ofText?_textual _⟩

theorem Enumeration.toJson_textual (enumeration : Enumeration) : enumeration.toJson.Textual :=
  .obj_of_forall (by simp) ⟨.str _, ofText?_textual _, .arr_map EnumCase.toJson_textual⟩

theorem DescriptorSet.toJson_textual (set : DescriptorSet) : set.toJson.Textual :=
  .obj_of_forall (by simp) ⟨.arr_map Record.toJson_textual,
    .arr_map fun entry => entry.2.toJson_textual⟩

/-! ### What they say -/

theorem Json.saysText_of_member {data : Json} {key : String} {text : Option String}
    (h : data.member? key = some (.ofText? text)) : data.SaysText key text := by
  cases text with
  | none => exact Or.inr h
  | some text => exact Json.text?_eq_some_iff.mpr h

theorem forall₂_map_self {α : Type} {Says : Json → α → Prop} {write : α → Json}
    (h : ∀ value, Says (write value) value) (values : List α) :
    List.Forall₂ Says (values.map write) values :=
  List.forall₂_map_left_iff.mpr (List.forall₂_same.mpr fun value _ => h value)

theorem Field.says_toJson (field : Field) : field.toJson.SaysField field :=
  ⟨rfl, rfl, Or.inl rfl, Json.saysText_of_member rfl⟩

theorem Record.says_toJson (record : Record) : record.toJson.SaysRecord record :=
  ⟨rfl, Json.saysText_of_member rfl, trivial, forall₂_map_self Field.says_toJson record.fields⟩

theorem EnumCase.says_toJson (entry : EnumCase) : entry.toJson.SaysCase entry :=
  ⟨rfl, Json.saysText_of_member rfl⟩

theorem Enumeration.says_toJson (enumeration : Enumeration) :
    enumeration.toJson.SaysEnumeration enumeration :=
  ⟨rfl, Json.saysText_of_member rfl, trivial,
    forall₂_map_self EnumCase.says_toJson enumeration.cases⟩

theorem DescriptorSet.says_toJson {set : DescriptorSet} (hr : set.recordNames.Nodup)
    (he : set.enums.keys.Nodup) (hn : ∀ entry ∈ set.enums, entry.1 = entry.2.name) :
    set.toJson.SaysSet set := by
  have htable : set.enums = Enumeration.table (set.enums.map Prod.snd) := by
    rw [Enumeration.table, List.map_map]
    refine (List.map_id set.enums).symm.trans (List.map_congr_left fun entry hm => ?_)
    exact Prod.ext (hn entry hm) rfl
  have hlisted : set.toJson.listed "enums" = (set.enums.map Prod.snd).map Enumeration.toJson := by
    rw [List.map_map]
    rfl
  refine ⟨⟨_, rfl⟩, trivial, forall₂_map_self Record.says_toJson set.records, trivial,
    ⟨set.enums.map Prod.snd, ?_, htable⟩, hr, he⟩
  rw [hlisted]
  exact forall₂_map_self Enumeration.says_toJson _

/-! ### The order of members does not matter -/

namespace Json

variable {data : Json} {key : String}

theorem member?_sorted (h : data.Textual) (key : String) :
    data.sorted.member? key = (data.member? key).map sorted := by
  cases h with
  | @obj members hd _ =>
      have hp := perm_sorted members
      have hkeys : (Table.keys (members.map fun entry => (entry.1, entry.2.sorted))).Nodup := by
        rw [Table.keys_map]
        exact hd
      rw [Json.sorted, member?, member?, ← Table.find?_map]
      exact (Table.find?_of_perm hkeys hp.symm key).symm
  | _ => rfl

theorem text?_sorted (h : data.Textual) (key : String) : data.sorted.text? key = data.text? key := by
  rw [text?, text?, member?_sorted h]
  cases data.member? key with
  | none => rfl
  | some value => cases value <;> rfl

theorem Unset.sorted (h : data.Textual) (hu : data.Unset key) : data.sorted.Unset key := by
  rw [Unset, member?_sorted h]
  rcases hu with hu | hu
  · exact Or.inl (by rw [hu]; rfl)
  · exact Or.inr (by rw [hu]; rfl)

theorem SaysText.sorted {text : Option String} (h : data.Textual) (hs : data.SaysText key text) :
    data.sorted.SaysText key text := by
  cases text with
  | none => exact Unset.sorted h hs
  | some text => exact (text?_sorted h key).trans hs

theorem Lists.sorted (h : data.Textual) (hl : data.Lists key) : data.sorted.Lists key := by
  unfold Lists at hl ⊢
  rw [member?_sorted h]
  cases hm : data.member? key with
  | none => trivial
  | some value =>
      rw [hm] at hl
      cases value with
      | obj members =>
          cases hl
          exact List.mergeSort_nil
      | _ => exact hl

theorem listed_sorted (h : data.Textual) (key : String) :
    data.sorted.listed key = (data.listed key).map Json.sorted := by
  rw [listed, listed, member?_sorted h]
  cases data.member? key with
  | none => rfl
  | some value =>
      cases value with
      | arr items => exact sortedItems_eq items
      | _ => rfl

theorem Textual.listed (h : data.Textual) (key : String) : ∀ item ∈ data.listed key, item.Textual := by
  intro item hm
  cases h with
  | @obj members _ hv =>
      rw [Json.listed, member?] at hm
      split at hm
      · rename_i items hf
        cases hv _ (Table.mem_of_find? hf) with
        | arr hi => exact hi item hm
      · cases hm
  | _ => cases hm

/-- Whatever the items of a list say when they are put in order, the list says. -/
theorem forall₂_listed_sorted {α : Type} {Says : Json → α → Prop} {values : List α}
    (h : data.Textual) (hs : ∀ item value, item.Textual → Says item value → Says item.sorted value)
    (hl : List.Forall₂ Says (data.listed key) values) :
    List.Forall₂ Says (data.sorted.listed key) values := by
  rw [listed_sorted h, List.forall₂_map_left_iff]
  have hboth := (List.forall₂_and_left (data.listed key) values).mpr ⟨h.listed key, hl⟩
  exact hboth.imp fun item value ⟨ht, hv⟩ => hs item value ht hv

theorem SaysField.sorted {field : Field} (h : data.Textual) (hf : data.SaysField field) :
    data.sorted.SaysField field := by
  refine ⟨(text?_sorted h _).trans hf.name, (text?_sorted h _).trans hf.type, ?_,
    hf.description.sorted h⟩
  rcases hf.optional with ho | ⟨hu, ho⟩
  · rw [member?_sorted h, ho]
    exact Or.inl rfl
  · exact Or.inr ⟨hu.sorted h, ho⟩

theorem SaysRecord.sorted {record : Record} (h : data.Textual) (hr : data.SaysRecord record) :
    data.sorted.SaysRecord record :=
  ⟨(text?_sorted h _).trans hr.name, hr.description.sorted h, hr.listing.sorted h,
    forall₂_listed_sorted h (fun _ _ ht hf => hf.sorted ht) hr.fields⟩

theorem SaysCase.sorted {entry : EnumCase} (h : data.Textual) (hc : data.SaysCase entry) :
    data.sorted.SaysCase entry :=
  ⟨(text?_sorted h _).trans hc.name, hc.description.sorted h⟩

theorem SaysEnumeration.sorted {enumeration : Enumeration} (h : data.Textual)
    (he : data.SaysEnumeration enumeration) : data.sorted.SaysEnumeration enumeration :=
  ⟨(text?_sorted h _).trans he.name, he.description.sorted h, he.listing.sorted h,
    forall₂_listed_sorted h (fun _ _ ht hc => hc.sorted ht) he.cases⟩

theorem isObject_sorted (h : data.IsObject) : data.sorted.IsObject := by
  obtain ⟨members, rfl⟩ := h
  exact ⟨_, rfl⟩

theorem SaysSet.sorted {set : DescriptorSet} (h : data.Textual) (hs : data.SaysSet set) :
    data.sorted.SaysSet set := by
  obtain ⟨enumerations, he, ht⟩ := hs.enums
  exact ⟨isObject_sorted hs.object, hs.recordListing.sorted h,
    forall₂_listed_sorted h (fun _ _ ht hr => hr.sorted ht) hs.records, hs.enumListing.sorted h,
    ⟨enumerations, forall₂_listed_sorted h (fun _ _ ht he => he.sorted ht) he, ht⟩,
    hs.distinctRecords, hs.distinctEnums⟩

theorem SaysSet.arrange {set : DescriptorSet} (h : data.Textual) (hs : data.SaysSet set)
    (encoding : Encoding) : (encoding.arrange data).SaysSet set := by
  unfold Encoding.arrange
  split
  · exact hs.sorted h
  · exact hs

end Json

/-! ### How deep they are -/

theorem Json.depth_ofText? (text : Option String) : (ofText? text).depth = 0 := by
  cases text <;> rfl

theorem Field.depth_toJson_le (field : Field) : field.toJson.depth ≤ 1 :=
  Json.depth_obj_le_iff.mpr (by simp [Json.depth_ofText?, Json.depth])

theorem Record.depth_toJson_le (record : Record) : record.toJson.depth ≤ 3 := by
  have hfields : (Json.arr (record.fields.map Field.toJson)).depth ≤ 2 :=
    Json.depth_arr_le_iff.mpr (List.forall_mem_map.mpr fun field _ => field.depth_toJson_le)
  exact Json.depth_obj_le_iff.mpr (by simpa [Json.depth_ofText?, Json.depth] using hfields)

theorem EnumCase.depth_toJson_le (entry : EnumCase) : entry.toJson.depth ≤ 1 :=
  Json.depth_obj_le_iff.mpr (by simp [Json.depth_ofText?, Json.depth])

theorem Enumeration.depth_toJson_le (enumeration : Enumeration) : enumeration.toJson.depth ≤ 3 := by
  have hcases : (Json.arr (enumeration.cases.map EnumCase.toJson)).depth ≤ 2 :=
    Json.depth_arr_le_iff.mpr (List.forall_mem_map.mpr fun entry _ => entry.depth_toJson_le)
  exact Json.depth_obj_le_iff.mpr (by simpa [Json.depth_ofText?, Json.depth] using hcases)

/-- A document of descriptors has five containers open at once at most. -/
theorem DescriptorSet.depth_toJson_le (set : DescriptorSet) : set.toJson.depth ≤ 5 := by
  have hrecords : (Json.arr (set.records.map Record.toJson)).depth ≤ 4 :=
    Json.depth_arr_le_iff.mpr (List.forall_mem_map.mpr fun record _ => record.depth_toJson_le)
  have henums : (Json.arr (set.enums.map fun entry => entry.2.toJson)).depth ≤ 4 :=
    Json.depth_arr_le_iff.mpr (List.forall_mem_map.mpr fun entry _ => entry.2.depth_toJson_le)
  refine Json.depth_obj_le_iff.mpr fun entry he => ?_
  rcases List.mem_cons.mp he with rfl | he
  · exact hrecords
  · cases List.mem_singleton.mp he
    exact henums

/-! ### Reading back -/

namespace DescriptorSet

variable {set : DescriptorSet}

/-- A set of descriptors under distinct names, each enumeration under its own, can be written as a
document in every layout that has a text, and what is read from a file with such a text is the set. With
line breaks the width of the indentation has to fit; any width will do on one line. -/
theorem loadFile_written (hr : set.recordNames.Nodup) (he : set.enums.keys.Nodup)
    (hn : ∀ entry ∈ set.enums, entry.1 = entry.2.name) (memory : Nat) (pretty sortKeys : Bool)
    (width : Int) :
    let encoding : Json.Encoding := ⟨pretty, .blanks width, sortKeys⟩
    ((∃ text, encoding.encode memory set.toJson = .ok text) ↔
      (pretty = true → Json.Indent.Fits memory width)) ∧
    ∀ text, encoding.encode memory set.toJson = .ok text →
      ∀ machine tree path, FileTree.status tree path = .ok (.file text.toUTF8) →
        (loadFile machine tree path).result = .ok set := by
  intro encoding
  have hkind : set.toJson.kind ≠ .str := by
    intro hk
    cases hk
  have hindent : encoding.indent = .blanks width := rfl
  refine ⟨Json.Encoding.exists_encode_iff hindent hkind, fun text ht machine tree path hp => ?_⟩
  have hread := Json.Encoding.readWithin_of_encode (Json.Encoding.layout_blank hindent)
    set.toJson_textual ht (Nat.le_trans set.depth_toJson_le machine.readsDocuments)
  exact loadFile_of_ofJson hp (Json.ofBytes_toUTF8 hread)
    (ofJson_eq_ok_iff.mpr ((says_toJson hr he hn).arrange set.toJson_textual encoding))

end DescriptorSet

/-- The timetable, in order and with line breaks. -/
theorem timetable_written :
    (timetableSet.recordNames.Nodup ∧ timetableSet.enums.keys.Nodup ∧
      ∀ entry ∈ timetableSet.enums, entry.1 = entry.2.name) ∧
    ∃ text, (Json.Encoding.mk true (.blanks 3) true).encode 4096 timetableSet.toJson = .ok text ∧
      (DescriptorSet.loadFile .usual ⟨[], [(["copy.json"], .file text.toUTF8)]⟩
        ⟨"", ["copy.json"]⟩).result = .ok timetableSet := by
  have hr : timetableSet.recordNames.Nodup := by decide
  have he : timetableSet.enums.keys.Nodup := by decide
  have hn : ∀ entry ∈ timetableSet.enums, entry.1 = entry.2.name := by decide
  obtain ⟨hencode, hload⟩ := DescriptorSet.loadFile_written hr he hn 4096 true true 3
  obtain ⟨text, ht⟩ := hencode.mpr fun _ => ⟨by decide, by decide, by decide⟩
  exact ⟨⟨hr, he, hn⟩, text, ht, hload text ht _ _ _ rfl⟩

/-- No document is written with an indentation that is no number of 64 bits. -/
theorem wide_indent_refused :
    (Json.Encoding.mk true (.blanks 9223372036854775808) true).encode Machine.usual.memory
        (DescriptorSet.toJson {}) = .error .oversizedIndent ∧
      (Json.Encoding.mk true (.blanks (-9223372036854775809)) true).encode Machine.usual.memory
        (DescriptorSet.toJson {}) = .error .oversizedIndent :=
  ⟨rfl, rfl⟩

end ToolSchema
