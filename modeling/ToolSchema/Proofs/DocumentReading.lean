import ToolSchema.Proofs.DocumentEntries

/-! What a document of descriptors says. A descriptor is read from a value exactly when the value says
it: its texts under their names, what is absent or null as nothing, and what it lists item by item. A
document is read exactly as the set that it says (`DescriptorSet.ofJson_eq_ok_iff`), so each record is
said by the item in its place. -/

namespace ToolSchema

open Expansion (bind_eq_ok_iff)

namespace Json

def text? (data : Json) (key : String) : Option String :=
  match data.member? key with
  | some (.str text) => some text
  | _ => none

/-- A member that is not there, or null. -/
def Unset (data : Json) (key : String) : Prop :=
  data.member? key = none ∨ data.member? key = some .null

/-- A value says a text that may be missing. -/
def SaysText (data : Json) (key : String) : Option String → Prop
  | none => data.Unset key
  | some text => data.text? key = some text

/-- The items of a member that is an array. -/
def listed (data : Json) (key : String) : List Json :=
  match data.member? key with
  | some (.arr items) => items
  | _ => []

/-- A member that can list objects. A text or an object that is empty lists none. -/
def Lists (data : Json) (key : String) : Prop :=
  match data.member? key with
  | none | some (.arr _) => True
  | some (.str text) => text = ""
  | some (.obj members) => members = []
  | some _ => False

variable {data : Json} {key owner : String}

theorem member_eq_ok_iff {value : Json} :
    data.member key = .ok value ↔ data.member? key = some value := by
  cases data with
  | obj members =>
      rw [member, member?]
      cases Table.find? members key with
      | none => constructor <;> intro h <;> cases h
      | some found =>
          exact ⟨fun h => congrArg some (Except.ok.inj h),
            fun h => congrArg Except.ok (Option.some.inj h)⟩
  | _ => constructor <;> intro h <;> cases h

theorem text?_eq_some_iff {text : String} :
    data.text? key = some text ↔ data.member? key = some (.str text) := by
  unfold text?
  split
  · rename_i found hm
    rw [hm, Option.some.injEq, Option.some.injEq, Json.str.injEq]
  · rename_i hn
    constructor
    · intro h
      cases h
    · exact fun h => absurd h (hn text)

theorem isObject_of_text? {text : String} (h : data.text? key = some text) : data.IsObject := by
  cases data with
  | obj members => exact ⟨members, rfl⟩
  | _ => cases h

theorem text?_of_saysText {found : Option String} (h : data.SaysText key found) :
    data.text? key = found := by
  cases found with
  | none => rcases h with h | h <;> rw [text?, h]
  | some text => exact h

theorem textMember_eq_ok_iff {text : String} :
    data.textMember key owner = .ok text ↔ data.text? key = some text := by
  rw [textMember, bind_eq_ok_iff, text?_eq_some_iff]
  simp only [mapError_eq_ok_iff, member_eq_ok_iff]
  constructor
  · rintro ⟨value, hm, ht⟩
    rw [hm]
    cases value <;> cases ht
    rfl
  · intro hm
    exact ⟨_, hm, rfl⟩

theorem optionalText_eq_ok_iff {found : Option String} :
    data.optionalText key owner = .ok found ↔ data.SaysText key found := by
  have hunset (hu : data.Unset key) :
      (.ok none = Except.ok (ε := DescriptorFault) found) ↔ data.SaysText key found := by
    constructor
    · intro h
      cases h
      exact hu
    · intro h
      have hnone : data.text? key = none := @text?_of_saysText data key none hu
      rw [← text?_of_saysText h, hnone]
  unfold optionalText
  split
  · rename_i hm
    exact hunset (Or.inl hm)
  · rename_i hm
    exact hunset (Or.inr hm)
  · rename_i value hn hm
    have hset : ¬data.Unset key := by
      rintro (h | h)
      · rw [hm] at h
        cases h
      · exact hn (Option.some.inj (hm.symm.trans h))
    constructor
    · intro h
      cases ht : data.textMember key owner with
      | error fault =>
          rw [ht] at h
          cases h
      | ok text =>
          rw [ht] at h
          cases h
          exact textMember_eq_ok_iff.mp ht
    · intro h
      cases found with
      | none => exact absurd h hset
      | some text => rw [textMember_eq_ok_iff.mpr h]; rfl

/-- What is listed as objects is an array, or nothing. -/
theorem listMember_eq_ok_iff {items : List Json} (ho : ∀ item ∈ items, item.IsObject) :
    data.listMember key = .ok items ↔ data.Lists key ∧ items = data.listed key := by
  unfold listMember Lists listed
  cases data.member? key with
  | none =>
      change Except.ok [] = _ ↔ True ∧ items = []
      rw [Except.ok.injEq, true_and, eq_comm]
  | some value =>
      cases value with
      | arr found =>
          change Except.ok found = _ ↔ True ∧ items = found
          rw [Except.ok.injEq, true_and, eq_comm]
      | str text =>
          change Except.ok (text.toList.map fun c => Json.str (String.singleton c)) = _ ↔
            text = "" ∧ items = []
          rw [Except.ok.injEq]
          constructor
          · rintro rfl
            have hn : text.toList = [] := by
              refine List.eq_nil_iff_forall_not_mem.mpr fun c hc => ?_
              obtain ⟨members, hm⟩ := ho _ (List.mem_map_of_mem hc)
              cases hm
            exact ⟨String.toList_eq_nil_iff.mp hn, by rw [hn]; rfl⟩
          · rintro ⟨rfl, rfl⟩
            rfl
      | obj members =>
          change Except.ok (members.map fun entry => Json.str entry.1) = _ ↔
            members = [] ∧ items = []
          rw [Except.ok.injEq]
          constructor
          · rintro rfl
            have hn : members = [] := by
              refine List.eq_nil_iff_forall_not_mem.mpr fun entry he => ?_
              obtain ⟨found, hm⟩ := ho _ (List.mem_map_of_mem he)
              cases hm
            exact ⟨hn, by rw [hn]; rfl⟩
          · rintro ⟨rfl, rfl⟩
            rfl
      | _ =>
          constructor
          · intro h
            cases h
          · exact fun h => h.1.elim

theorem isObject_of_forall₂ {α : Type} {Reads : Json → α → Prop} {items : List Json}
    {values : List α} (h : List.Forall₂ Reads items values)
    (ho : ∀ item value, Reads item value → item.IsObject) : ∀ item ∈ items, item.IsObject :=
  ((List.forall₂_and_left items values).mp
    (h.imp fun item value hr => ⟨ho item value hr, hr⟩)).1

/-- Descriptors are read one by one from what is listed. -/
theorem descriptors_eq_ok_iff {α : Type} {read : Json → Except DescriptorFault α}
    (ho : ∀ item value, read item = .ok value → item.IsObject) {values : List α} :
    data.descriptors read key = .ok values ↔ data.Lists key ∧
      List.Forall₂ (fun item value => read item = .ok value) (data.listed key) values := by
  rw [descriptors, bind_eq_ok_iff]
  simp only [mapError_eq_ok_iff, mapM_eq_ok_iff]
  constructor
  · rintro ⟨items, hi, hv⟩
    obtain ⟨hl, rfl⟩ := (listMember_eq_ok_iff (isObject_of_forall₂ hv ho)).mp hi
    exact ⟨hl, hv⟩
  · rintro ⟨hl, hv⟩
    exact ⟨_, (listMember_eq_ok_iff (isObject_of_forall₂ hv ho)).mpr ⟨hl, rfl⟩, hv⟩

end Json

/-! ### Fields and records -/

/-- The value of a field. Where it has no flag, the type says whether the field is optional. -/
structure Json.SaysField (data : Json) (field : Field) : Prop where
  name : data.text? "name" = some field.name
  type : data.text? "type" = some field.rawType
  optional : data.member? "optional" = some (.bool field.optional) ∨
    data.Unset "optional" ∧ field.optional = (TypeExpr.stripOptional field.rawType.toList).2
  description : data.SaysText "description" field.description

structure Json.SaysRecord (data : Json) (record : Record) : Prop where
  name : data.text? "name" = some record.name
  description : data.SaysText "description" record.description
  listing : data.Lists "fields"
  fields : List.Forall₂ Json.SaysField (data.listed "fields") record.fields

theorem Field.ofJson_eq_ok_iff {data : Json} {field : Field} :
    Field.ofJson data = .ok field ↔ data.SaysField field := by
  simp only [Field.ofJson, bind_eq_ok_iff, Json.textMember_eq_ok_iff]
  constructor
  · rintro ⟨name, hn, rawType, ht, h⟩
    split at h
    all_goals
      rename_i hm
      simp only [bind_eq_ok_iff, Json.optionalText_eq_ok_iff] at h
      obtain ⟨optional, ho, description, hd, he⟩ := h
      cases ho
    all_goals cases he
    · exact ⟨hn, ht, Or.inr ⟨Or.inl hm, rfl⟩, hd⟩
    · exact ⟨hn, ht, Or.inr ⟨Or.inr hm, rfl⟩, hd⟩
    · exact ⟨hn, ht, Or.inl hm, hd⟩
  · rintro ⟨hn, ht, ho, hd⟩
    have hlast (optional : Bool) (he : field.optional = optional) :
        (do let description ← data.optionalText "description" s!"field '{field.name}'"
            return (⟨field.name, field.rawType, description, optional⟩ : Field)) = .ok field :=
      bind_eq_ok_iff.mpr ⟨_, Json.optionalText_eq_ok_iff.mpr hd, he ▸ rfl⟩
    refine ⟨_, hn, _, ht, ?_⟩
    rcases ho with hm | ⟨hm | hm, he⟩ <;> rw [hm]
    · exact hlast _ rfl
    · exact hlast _ he
    · exact hlast _ he

theorem Record.ofJson_eq_ok_iff {data : Json} {record : Record} :
    Record.ofJson data = .ok record ↔ data.SaysRecord record := by
  have ho : ∀ item field, Field.ofJson item = .ok field → item.IsObject := fun _ _ h =>
    Json.isObject_of_text? (Field.ofJson_eq_ok_iff.mp h).name
  simp only [Record.ofJson, bind_eq_ok_iff, Json.textMember_eq_ok_iff, Json.optionalText_eq_ok_iff,
    Json.descriptors_eq_ok_iff ho, Field.ofJson_eq_ok_iff]
  constructor
  · rintro ⟨name, hn, description, hd, fields, ⟨hl, hf⟩, he⟩
    cases he
    exact ⟨hn, hd, hl, hf⟩
  · rintro ⟨hn, hd, hl, hf⟩
    exact ⟨_, hn, _, hd, _, ⟨hl, hf⟩, rfl⟩

/-! ### Enumerations -/

structure Json.SaysCase (data : Json) (entry : EnumCase) : Prop where
  name : data.text? "name" = some entry.name
  description : data.SaysText "description" entry.description

structure Json.SaysEnumeration (data : Json) (enumeration : Enumeration) : Prop where
  name : data.text? "name" = some enumeration.name
  description : data.SaysText "description" enumeration.description
  listing : data.Lists "cases"
  cases : List.Forall₂ Json.SaysCase (data.listed "cases") enumeration.cases

theorem EnumCase.ofJson_eq_ok_iff {data : Json} {entry : EnumCase} :
    EnumCase.ofJson data = .ok entry ↔ data.SaysCase entry := by
  simp only [EnumCase.ofJson, bind_eq_ok_iff, Json.textMember_eq_ok_iff, Json.optionalText_eq_ok_iff]
  constructor
  · rintro ⟨name, hn, description, hd, he⟩
    cases he
    exact ⟨hn, hd⟩
  · rintro ⟨hn, hd⟩
    exact ⟨_, hn, _, hd, rfl⟩

theorem Enumeration.ofJson_eq_ok_iff {data : Json} {enumeration : Enumeration} :
    Enumeration.ofJson data = .ok enumeration ↔ data.SaysEnumeration enumeration := by
  have ho : ∀ item entry, EnumCase.ofJson item = .ok entry → item.IsObject := fun _ _ h =>
    Json.isObject_of_text? (EnumCase.ofJson_eq_ok_iff.mp h).name
  simp only [Enumeration.ofJson, bind_eq_ok_iff, Json.textMember_eq_ok_iff,
    Json.optionalText_eq_ok_iff, Json.descriptors_eq_ok_iff ho, EnumCase.ofJson_eq_ok_iff]
  constructor
  · rintro ⟨name, hn, description, hd, cases, ⟨hl, hc⟩, he⟩
    cases he
    exact ⟨hn, hd, hl, hc⟩
  · rintro ⟨hn, hd, hl, hc⟩
    exact ⟨_, hn, _, hd, _, ⟨hl, hc⟩, rfl⟩

/-- Enumerations under their own names. -/
def Enumeration.table (enumerations : List Enumeration) : Table Enumeration :=
  enumerations.map fun enumeration => (enumeration.name, enumeration)

theorem Enumeration.keys_table (enumerations : List Enumeration) :
    Table.keys (Enumeration.table enumerations) = enumerations.map Enumeration.name := by
  rw [Table.keys, Enumeration.table, List.map_map]
  rfl

/-! ### Documents -/

/-- What a document says: its records in order, its enumerations in order and each under its own
name, and no name of either kind twice. -/
structure Json.SaysSet (document : Json) (set : DescriptorSet) : Prop where
  object : document.IsObject
  recordListing : document.Lists "records"
  records : List.Forall₂ Json.SaysRecord (document.listed "records") set.records
  enumListing : document.Lists "enums"
  enums : ∃ enumerations,
    List.Forall₂ Json.SaysEnumeration (document.listed "enums") enumerations ∧
      set.enums = Enumeration.table enumerations
  distinctRecords : set.recordNames.Nodup
  distinctEnums : set.enums.keys.Nodup

/-- A fold that reads each item and adds what is read under a name that is not taken: it succeeds
exactly when every item can be read and no name comes twice. -/
theorem foldlM_eq_ok_iff_of_distinct {ε σ α β κ : Type} {step : σ → α → Except ε σ}
    {Reads : α → β → Prop} {names : σ → List κ} {key : β → κ} {add : σ → List β → σ}
    (hstep : ∀ before item after, step before item = .ok after ↔
      ∃ value, Reads item value ∧ key value ∉ names before ∧ after = add before [value])
    (hnil : ∀ before, add before [] = before)
    (hadd : ∀ before front back, add (add before front) back = add before (front ++ back))
    (hnames : ∀ before values, names (add before values) = names before ++ values.map key)
    {before after : σ} (hb : (names before).Nodup) {items : List α} :
    items.foldlM step before = .ok after ↔
      ∃ values, List.Forall₂ Reads items values ∧ after = add before values ∧
        (names after).Nodup := by
  induction items generalizing before with
  | nil =>
      rw [List.foldlM_nil]
      constructor
      · intro h
        cases h
        exact ⟨[], .nil, (hnil _).symm, hb⟩
      · rintro ⟨values, hv, rfl, -⟩
        cases hv
        rw [hnil]
        rfl
  | cons item rest ih =>
      rw [List.foldlM_cons, bind_eq_ok_iff]
      constructor
      · rintro ⟨middle, hm, h⟩
        obtain ⟨value, hr, hn, rfl⟩ := (hstep _ _ _).mp hm
        have hd : (names before ++ [key value]).Nodup :=
          List.nodup_append_comm.mp (List.nodup_cons.mpr ⟨hn, hb⟩)
        obtain ⟨values, hv, rfl, ha⟩ := (ih (hnames before [value] ▸ hd)).mp h
        exact ⟨value :: values, .cons hr hv, hadd _ _ _, ha⟩
      · rintro ⟨_, hv, rfl, ha⟩
        obtain ⟨value, values, hr, hrest, rfl⟩ := List.forall₂_cons_left_iff.mp hv
        have hd : (names before ++ key value :: values.map key).Nodup :=
          hnames before (value :: values) ▸ ha
        rw [List.append_cons] at hd
        have hm : (names before ++ [key value]).Nodup := hd.of_append_left
        refine ⟨_, (hstep _ _ _).mpr ⟨value, hr, ?_, rfl⟩,
          (ih (hnames before [value] ▸ hm)).mpr ⟨values, hrest, hadd before [value] values ▸ rfl, ha⟩⟩
        exact (List.nodup_cons.mp (List.nodup_append_comm.mp hm)).1

namespace DescriptorSet

variable {origin : String} {before after : DescriptorSet}

/-- A record is added as it is read, under a name that is not taken. -/
theorem addRecord_eq_ok_iff {item : Json} :
    (do before.addRecord origin (← placed origin (Record.ofJson item))) = .ok after ↔
      ∃ record, item.SaysRecord record ∧ record.name ∉ before.recordNames ∧
        after = { before with records := before.records ++ [record] } := by
  simp only [bind_eq_ok_iff, placed, mapError_eq_ok_iff, Record.ofJson_eq_ok_iff]
  refine exists_congr fun record => and_congr_right fun _ => ?_
  unfold addRecord
  split
  · rename_i hm
    constructor
    · intro h
      cases h
    · exact fun h => absurd hm h.1
  · rename_i hm
    rw [Except.ok.injEq]
    exact ⟨fun h => ⟨hm, h.symm⟩, fun h => h.2.symm⟩

theorem recordNames_append (records : List Record) :
    recordNames { before with records := before.records ++ records } =
      before.recordNames ++ records.map Record.name :=
  List.map_append

/-- Every item is added in order, unless a name comes twice. -/
theorem addRecords_eq_ok_iff (hb : before.recordNames.Nodup) {items : List Json} :
    items.foldlM (fun set item => do
        set.addRecord origin (← placed origin (Record.ofJson item))) before = .ok after ↔
      ∃ records, List.Forall₂ Json.SaysRecord items records ∧
        after = { before with records := before.records ++ records } ∧ after.recordNames.Nodup := by
  have hstep (set : DescriptorSet) (item : Json) (next : DescriptorSet) :
      (do set.addRecord origin (← placed origin (Record.ofJson item))) = .ok next ↔
        ∃ record, item.SaysRecord record ∧ record.name ∉ set.recordNames ∧
          next = { set with records := set.records ++ [record] } := addRecord_eq_ok_iff
  apply foldlM_eq_ok_iff_of_distinct hstep
  · intro set
    rw [List.append_nil]
  · intro set front back
    rw [List.append_assoc]
  · exact fun set records => recordNames_append records
  · exact hb

/-- An enumeration is added as it is read, under a name that is not taken. -/
theorem addEnum_eq_ok_iff {item : Json} :
    (do
      let enumeration ← placed origin (Enumeration.ofJson item)
      before.addEnum origin enumeration.name enumeration) = .ok after ↔
      ∃ enumeration, item.SaysEnumeration enumeration ∧ enumeration.name ∉ before.enums.keys ∧
        after = { before with enums := before.enums ++ [(enumeration.name, enumeration)] } := by
  simp only [bind_eq_ok_iff, placed, mapError_eq_ok_iff, Enumeration.ofJson_eq_ok_iff]
  refine exists_congr fun enumeration => and_congr_right fun _ => ?_
  unfold addEnum
  split
  · rename_i hm
    constructor
    · intro h
      cases h
    · exact fun h => absurd hm h.1
  · rename_i hm
    rw [Except.ok.injEq, Table.put_of_not_mem hm]
    exact ⟨fun h => ⟨hm, h.symm⟩, fun h => h.2.symm⟩

theorem addEnums_eq_ok_iff (hb : before.enums.keys.Nodup) {items : List Json} :
    items.foldlM (fun set item => do
        let enumeration ← placed origin (Enumeration.ofJson item)
        set.addEnum origin enumeration.name enumeration) before = .ok after ↔
      ∃ enumerations, List.Forall₂ Json.SaysEnumeration items enumerations ∧
        after = { before with enums := before.enums ++ Enumeration.table enumerations } ∧
        after.enums.keys.Nodup := by
  have hstep (set : DescriptorSet) (item : Json) (next : DescriptorSet) :
      (do
        let enumeration ← placed origin (Enumeration.ofJson item)
        set.addEnum origin enumeration.name enumeration) = .ok next ↔
        ∃ enumeration, item.SaysEnumeration enumeration ∧ enumeration.name ∉ set.enums.keys ∧
          next = { set with enums := set.enums ++ Enumeration.table [enumeration] } :=
    addEnum_eq_ok_iff
  apply foldlM_eq_ok_iff_of_distinct hstep
  · intro set
    exact congrArg (DescriptorSet.mk set.records) (List.append_nil _)
  · intro set front back
    rw [List.append_assoc, Enumeration.table, Enumeration.table, ← List.map_append]
    rfl
  · intro set enumerations
    rw [Table.keys, List.map_append, ← Table.keys, ← Table.keys, Enumeration.keys_table]
  · exact hb

/-- A document is read exactly as the descriptors that it says. -/
theorem ofJson_eq_ok_iff {document : Json} {set : DescriptorSet} :
    ofJson document origin = .ok set ↔ document.SaysSet set := by
  have hrecord : ∀ item record, Json.SaysRecord item record → item.IsObject :=
    fun _ _ hs => Json.isObject_of_text? hs.name
  have henum : ∀ item enumeration, Json.SaysEnumeration item enumeration → item.IsObject :=
    fun _ _ hs => Json.isObject_of_text? hs.name
  have hnames : (recordNames {}).Nodup := List.nodup_nil
  have hkeys (records : List Record) : (enums { records }).keys.Nodup := List.nodup_nil
  constructor
  · intro h
    unfold ofJson at h
    split at h
    · rename_i members
      simp only [bind_eq_ok_iff, placed, mapError_eq_ok_iff] at h
      obtain ⟨items, hi, middle, hm, entries, he, ha⟩ := h
      obtain ⟨records, hr, rfl, hd⟩ := (addRecords_eq_ok_iff hnames).mp hm
      obtain ⟨hlist, rfl⟩ := (Json.listMember_eq_ok_iff (Json.isObject_of_forall₂ hr hrecord)).mp hi
      obtain ⟨enumerations, hs, rfl, hk⟩ := (addEnums_eq_ok_iff (hkeys _)).mp ha
      obtain ⟨helist, rfl⟩ := (Json.listMember_eq_ok_iff (Json.isObject_of_forall₂ hs henum)).mp he
      exact ⟨⟨members, rfl⟩, hlist, hr, helist, ⟨enumerations, hs, rfl⟩, hd, hk⟩
    · cases h
  · rintro ⟨⟨members, rfl⟩, hlist, hr, helist, ⟨enumerations, hs, ht⟩, hd, hk⟩
    unfold ofJson
    simp only [bind_eq_ok_iff, placed, mapError_eq_ok_iff]
    refine ⟨_, (Json.listMember_eq_ok_iff (Json.isObject_of_forall₂ hr hrecord)).mpr ⟨hlist, rfl⟩,
      { records := set.records }, (addRecords_eq_ok_iff hnames).mpr ⟨_, hr, rfl, hd⟩, _,
      (Json.listMember_eq_ok_iff (Json.isObject_of_forall₂ hs henum)).mpr ⟨helist, rfl⟩, ?_⟩
    refine (addEnums_eq_ok_iff (hkeys _)).mpr ⟨enumerations, hs, ?_, hk⟩
    rw [← ht]
    rfl

/-- The records of a document, each under a name of its own. -/
theorem records_of_ofJson {document : Json} {set : DescriptorSet}
    (h : ofJson document origin = .ok set) :
    List.Forall₂ Json.SaysRecord (document.listed "records") set.records ∧
      set.recordNames.Nodup :=
  have hs := ofJson_eq_ok_iff.mp h
  ⟨hs.records, hs.distinctRecords⟩

end DescriptorSet

end ToolSchema
