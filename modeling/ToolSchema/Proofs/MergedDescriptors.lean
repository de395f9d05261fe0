import Mathlib.Data.List.Find
import Mathlib.Data.List.Forall2
import ToolSchema.Proofs.DocumentReading

/-! Sets of descriptors put together. A set is merged into another unless they share a name, and the
first name that they share is blamed (`DescriptorSet.merge_eq`). Several documents say together what the
one document says that lists all that they list (`Json.says_concatenation_iff`), so the names of each and
those of what is merged are checked as the names of that document are. -/

namespace ToolSchema

namespace DescriptorSet

variable {target source : DescriptorSet} {origin : String}

instance : Append DescriptorSet where
  append front back := ⟨front.records ++ back.records, front.enums ++ back.enums⟩

/-- No name of either kind twice. -/
structure Distinct (set : DescriptorSet) : Prop where
  records : set.recordNames.Nodup
  enums : set.enums.keys.Nodup

/-- The first name of `source` that `target` has already, of a record before any of an enumeration. -/
def clash? (target source : DescriptorSet) (origin : String) : Option DocumentError :=
  ((source.recordNames.find? (· ∈ target.recordNames)).map (.duplicateRecord · origin)).or
    ((source.enums.keys.find? (· ∈ target.enums.keys)).map (.duplicateEnum · origin))

theorem append_eq (front back : DescriptorSet) :
    front ++ back = ⟨front.records ++ back.records, front.enums ++ back.enums⟩ :=
  rfl

theorem names_append (front back : DescriptorSet) :
    (front ++ back).recordNames = front.recordNames ++ back.recordNames ∧
      (front ++ back).enums.keys = front.enums.keys ++ back.enums.keys :=
  ⟨List.map_append, List.map_append⟩

/-- A fold that adds values under names that are not taken comes to the first name that is, or adds
them all. -/
theorem foldlM_eq_of_distinct {ε σ β κ : Type} [DecidableEq κ] {step : σ → β → Except ε σ}
    (names : σ → List κ) (key : β → κ) (add : σ → List β → σ) (refuse : κ → ε)
    (hstep : ∀ before value, step before value =
      if key value ∈ names before then .error (refuse (key value)) else .ok (add before [value]))
    (hnil : ∀ before, add before [] = before)
    (hadd : ∀ before front back, add (add before front) back = add before (front ++ back))
    (hnames : ∀ before values, names (add before values) = names before ++ values.map key)
    {values : List β} (hd : (values.map key).Nodup) (before : σ) :
    values.foldlM step before = (((values.map key).find? (· ∈ names before)).map refuse).elim
      (.ok (add before values)) .error := by
  induction values generalizing before with
  | nil => exact congrArg Except.ok (hnil before).symm
  | cons value rest ih =>
      rw [List.map_cons, List.nodup_cons] at hd
      rw [List.foldlM_cons, hstep, List.map_cons, List.find?_cons]
      by_cases hm : key value ∈ names before
      · rw [if_pos hm, decide_eq_true hm]
        rfl
      · rw [if_neg hm, decide_eq_false hm]
        dsimp only [bind, Except.bind]
        -- the name just added is not among those still to come
        have hsame : (rest.map key).find? (· ∈ names (add before [value])) =
            (rest.map key).find? (· ∈ names before) := by
          refine List.find?_congr fun name hname => ?_
          have hne : name ≠ key value := fun he => hd.1 (he ▸ hname)
          rw [hnames, List.map_singleton]
          simp [hne]
        rw [ih hd.2, hsame, hadd]
        rfl

theorem addRecords_eq {records : List Record} (hd : (records.map Record.name).Nodup)
    (target : DescriptorSet) :
    records.foldlM (addRecord origin) target =
      (((records.map Record.name).find? (· ∈ target.recordNames)).map
        (.duplicateRecord · origin)).elim
          (.ok { target with records := target.records ++ records }) .error := by
  refine foldlM_eq_of_distinct recordNames Record.name
    (fun set records => { set with records := set.records ++ records })
    (DocumentError.duplicateRecord · origin) ?_ ?_ ?_ ?_ hd target
  · exact fun _ _ => rfl
  · intro set
    rw [List.append_nil]
  · intro set front back
    rw [List.append_assoc]
  · exact fun _ _ => List.map_append

theorem addEnums_eq {enumerations : List Enumeration}
    (hd : (enumerations.map Enumeration.name).Nodup) (target : DescriptorSet) :
    (Enumeration.table enumerations).foldlM
        (fun set entry => set.addEnum origin entry.1 entry.2) target =
      (((enumerations.map Enumeration.name).find? (· ∈ target.enums.keys)).map
        (.duplicateEnum · origin)).elim
          (.ok { target with enums := target.enums ++ Enumeration.table enumerations }) .error := by
  rw [Enumeration.table, List.foldlM_map]
  refine foldlM_eq_of_distinct (fun set => set.enums.keys) Enumeration.name
    (fun set enumerations => { set with enums := set.enums ++ Enumeration.table enumerations })
    (DocumentError.duplicateEnum · origin) ?_ ?_ ?_ ?_ hd target
  · intro set enumeration
    rw [addEnum]
    split
    · rfl
    · rename_i hm
      rw [Table.put_of_not_mem hm]
      rfl
  · intro set
    exact congrArg (DescriptorSet.mk set.records) (List.append_nil _)
  · intro set front back
    rw [List.append_assoc, Enumeration.table, Enumeration.table, ← List.map_append]
    rfl
  · intro set enumerations
    rw [Table.keys, List.map_append, ← Table.keys, ← Table.keys, Enumeration.keys_table]

/-- To merge a set of distinct names into another comes to the first name that both have, or to both. -/
theorem merge_eq (hd : source.Distinct) {enumerations : List Enumeration}
    (ht : source.enums = Enumeration.table enumerations) (target : DescriptorSet) :
    target.merge source origin =
      (target.clash? source origin).elim (.ok (target ++ source)) .error := by
  have hrecords : source.records.foldlM (addRecord origin) target =
      ((source.recordNames.find? (· ∈ target.recordNames)).map (.duplicateRecord · origin)).elim
        (.ok { target with records := target.records ++ source.records }) .error :=
    addRecords_eq hd.records target
  have hkeys : source.enums.keys = enumerations.map Enumeration.name := by
    rw [ht, Enumeration.keys_table]
  rw [merge, hrecords, clash?, hkeys, append_eq, ht]
  cases source.recordNames.find? (· ∈ target.recordNames) with
  | some name => rfl
  | none => exact addEnums_eq (hkeys ▸ hd.enums) _

theorem clash?_eq_none_iff (ht : target.Distinct) (hs : source.Distinct) :
    target.clash? source origin = none ↔ (target ++ source).Distinct := by
  have hdisjoint (names others : List String) (hn : names.Nodup) (ho : others.Nodup) :
      others.find? (· ∈ names) = none ↔ (names ++ others).Nodup := by
    rw [List.find?_eq_none, List.nodup_append]
    simp only [decide_eq_true_eq]
    constructor
    · exact fun h => ⟨hn, ho, fun name hm other hmo he => h other hmo (he ▸ hm)⟩
    · exact fun h other hmo hm => h.2.2 other hm other hmo rfl
  have hnames := names_append target source
  rw [clash?, Option.or_eq_none_iff, Option.map_eq_none_iff, Option.map_eq_none_iff,
    hdisjoint _ _ ht.records hs.records, hdisjoint _ _ ht.enums hs.enums, ← hnames.1, ← hnames.2]
  exact ⟨fun h => ⟨h.1, h.2⟩, fun h => ⟨h.records, h.enums⟩⟩

theorem Distinct.of_append (h : (target ++ source).Distinct) : target.Distinct := by
  have hnames := names_append target source
  exact ⟨(hnames.1 ▸ h.records).of_append_left, (hnames.2 ▸ h.enums).of_append_left⟩

/-- Several sets one after the other. -/
def joined (sets : List DescriptorSet) : DescriptorSet :=
  ⟨sets.flatMap records, sets.flatMap enums⟩

theorem append_joined_nil (set : DescriptorSet) : set ++ joined [] = set := by
  rw [append_eq, joined, List.flatMap_nil, List.flatMap_nil, List.append_nil, List.append_nil]

theorem append_joined_cons (front set : DescriptorSet) (rest : List DescriptorSet) :
    front ++ joined (set :: rest) = front ++ set ++ joined rest := by
  simp only [append_eq, joined, List.flatMap_cons, List.append_assoc]

end DescriptorSet

/-! ### The one document -/

namespace Json

/-- The document that lists what some documents list, one after the other. -/
def concatenation (documents : List Json) : Json :=
  .obj [("records", .arr (documents.flatMap (·.listed "records"))),
    ("enums", .arr (documents.flatMap (·.listed "enums")))]

/-- An item says an enumeration, which stands under its own name. -/
def SaysEntry (item : Json) (entry : String × Enumeration) : Prop :=
  item.SaysEnumeration entry.2 ∧ entry.1 = entry.2.name

theorem forall₂_saysEntry_iff {items : List Json} {entries : Table Enumeration} :
    List.Forall₂ SaysEntry items entries ↔
      ∃ enumerations, List.Forall₂ SaysEnumeration items enumerations ∧
        entries = Enumeration.table enumerations := by
  constructor
  · intro h
    refine ⟨entries.map Prod.snd, List.forall₂_map_right_iff.mpr (h.imp fun _ _ hs => hs.1), ?_⟩
    induction h with
    | nil => rfl
    | cons hs _ ih => exact congrArg₂ List.cons (Prod.ext hs.2 rfl) ih
  · rintro ⟨enumerations, h, rfl⟩
    exact List.forall₂_map_right_iff.mpr (h.imp fun _ _ hs => ⟨hs, rfl⟩)

theorem saysRecord_unique : Relator.RightUnique SaysRecord := by
  intro item record other h ho
  have h := Record.ofJson_eq_ok_iff.mpr h
  rw [Record.ofJson_eq_ok_iff.mpr ho] at h
  exact (Except.ok.inj h).symm

theorem saysEntry_unique : Relator.RightUnique SaysEntry := by
  rintro item ⟨name, enumeration⟩ ⟨other, found⟩ ⟨h, hn⟩ ⟨ho, hno⟩
  have h := Enumeration.ofJson_eq_ok_iff.mpr h
  rw [Enumeration.ofJson_eq_ok_iff.mpr ho] at h
  cases h
  exact Prod.ext (hn.trans hno.symm) rfl

theorem SaysSet.distinct {document : Json} {set : DescriptorSet} (h : document.SaysSet set) :
    set.Distinct :=
  ⟨h.distinctRecords, h.distinctEnums⟩

/-- Documents that say some sets say together those sets one after the other, unless a name comes
twice. -/
theorem says_concatenation_iff {documents : List Json} {sets : List DescriptorSet}
    (h : List.Forall₂ SaysSet documents sets) {set : DescriptorSet} :
    (concatenation documents).SaysSet set ↔ set = .joined sets ∧ set.Distinct := by
  have hrecords : List.Forall₂ SaysRecord (documents.flatMap (·.listed "records"))
      (sets.flatMap DescriptorSet.records) :=
    List.rel_flatMap h fun _ _ hs => hs.records
  have hentries : List.Forall₂ SaysEntry (documents.flatMap (·.listed "enums"))
      (sets.flatMap DescriptorSet.enums) :=
    List.rel_flatMap h fun _ _ hs => forall₂_saysEntry_iff.mpr hs.enums
  constructor
  · intro hs
    have hr := saysRecord_unique.forall₂ hs.records hrecords
    have he := saysEntry_unique.forall₂ (forall₂_saysEntry_iff.mpr hs.enums) hentries
    obtain ⟨records, enums⟩ := set
    cases hr
    cases he
    exact ⟨rfl, hs.distinct⟩
  · rintro ⟨rfl, hd⟩
    exact ⟨⟨_, rfl⟩, trivial, hrecords, trivial, forall₂_saysEntry_iff.mp hentries, hd.records,
      hd.enums⟩

end Json

/-- The document that an error is about. -/
def DocumentError.origin : DocumentError → String
  | .notAnObject origin | .inDescriptor origin _ | .duplicateRecord _ origin
  | .duplicateEnum _ origin => origin

namespace DescriptorSet

variable {origin : String} {document : Json} {earlier own set : DescriptorSet} {error : DocumentError}

theorem merge_of_saysSet (hs : document.SaysSet own) :
    earlier.merge own origin = (earlier.clash? own origin).elim (.ok (earlier ++ own)) .error := by
  obtain ⟨enumerations, -, ht⟩ := hs.enums
  exact merge_eq hs.distinct ht earlier

theorem merge_eq_error_iff (hs : document.SaysSet own) :
    earlier.merge own origin = .error error ↔ earlier.clash? own origin = some error := by
  rw [merge_of_saysSet hs]
  cases earlier.clash? own origin with
  | none =>
      constructor
      · intro h
        cases h
      · intro h
        cases h
  | some found => rw [Option.elim_some, Except.error.injEq, Option.some.injEq]

theorem merge_eq_ok_iff (he : earlier.Distinct) (hs : document.SaysSet own) :
    earlier.merge own origin = .ok set ↔ set = earlier ++ own ∧ set.Distinct := by
  rw [merge_of_saysSet hs]
  have hnone := @clash?_eq_none_iff earlier own origin he hs.distinct
  cases hc : earlier.clash? own origin with
  | none =>
      rw [Option.elim_none, Except.ok.injEq]
      constructor
      · rintro rfl
        exact ⟨rfl, hnone.mp hc⟩
      · exact fun h => h.1.symm
  | some found =>
      constructor
      · intro h
        cases h
      · rintro ⟨rfl, hd⟩
        rw [hnone.mpr hd] at hc
        cases hc

/-! ### What an error is about -/

theorem origin_of_clash? (h : earlier.clash? own origin = some error) : error.origin = origin := by
  rw [clash?, Option.or_eq_some_iff] at h
  rcases h with h | ⟨-, h⟩
  · obtain ⟨name, -, rfl⟩ := Option.map_eq_some_iff.mp h
    rfl
  · obtain ⟨name, -, rfl⟩ := Option.map_eq_some_iff.mp h
    rfl

theorem origin_of_placed {α : Type} {result : Except DescriptorFault α}
    (h : placed origin result = .error error) : error.origin = origin := by
  obtain ⟨fault, -, rfl⟩ := mapError_eq_error_iff.mp h
  rfl

theorem origin_of_addRecord {record : Record} (h : addRecord origin earlier record = .error error) :
    error.origin = origin := by
  unfold addRecord at h
  split at h
  · cases h
    rfl
  · cases h

theorem origin_of_addEnum {name : String} {enumeration : Enumeration}
    (h : addEnum origin earlier name enumeration = .error error) : error.origin = origin := by
  unfold addEnum at h
  split at h
  · cases h
    rfl
  · cases h

theorem origin_of_ofJson (h : ofJson document origin = .error error) : error.origin = origin := by
  unfold ofJson at h
  split at h
  · simp only [bind_eq_error_iff, foldlM_eq_error_iff] at h
    rcases h with h | ⟨_, -, ⟨_, _, _, _, -, -, h | ⟨_, -, h⟩⟩ | ⟨_, -, h | ⟨_, -, _, _, _, _, -, -,
      h | ⟨_, -, h⟩⟩⟩⟩
    · exact origin_of_placed h
    · exact origin_of_placed h
    · exact origin_of_addRecord h
    · exact origin_of_placed h
    · exact origin_of_placed h
    · exact origin_of_addEnum h
  · cases h
    rfl

end DescriptorSet

end ToolSchema
