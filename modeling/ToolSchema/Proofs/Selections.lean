import ToolSchema.Proofs.DocumentEntries

/-! Selections. A request is taken name by name, each name once. A name that a record has goes to the
targets as that record, any other to the missing names, and neither list is put in order again: between
them they hold the request without its repetitions, and each keeps the order of the request
(`select_splits`). -/

namespace ToolSchema

/-- Two lists dealt into one, each in its own order. -/
inductive Interleaves {α : Type} : List α → List α → List α → Prop
  | done : Interleaves [] [] []
  | left {first second whole} (item : α) (h : Interleaves first second whole) :
      Interleaves (item :: first) second (item :: whole)
  | right {first second whole} (item : α) (h : Interleaves first second whole) :
      Interleaves first (item :: second) (item :: whole)

namespace Interleaves

variable {α : Type} {first second whole : List α}

theorem perm (h : Interleaves first second whole) : (first ++ second).Perm whole := by
  induction h with
  | done => exact List.Perm.nil
  | left item _ ih => exact ih.cons item
  | right item _ ih => exact List.perm_middle.trans (ih.cons item)

theorem filter (p : α → Bool) (items : List α) :
    Interleaves (items.filter p) (items.filter fun item => !p item) items := by
  induction items with
  | nil => exact done
  | cons item rest ih =>
      by_cases hp : p item = true
      · rw [List.filter_cons_of_pos hp, List.filter_cons_of_neg (by simp [hp])]
        exact ih.left item
      · rw [List.filter_cons_of_neg hp, List.filter_cons_of_pos (by simp [hp])]
        exact ih.right item

end Interleaves

theorem firsts_id {α : Type} [DecidableEq α] (items : List α) : firsts id items = items.eraseDups := by
  have h := map_firsts id items
  rwa [List.map_id, List.map_id] at h

theorem nodup_eraseDups {α : Type} [DecidableEq α] (items : List α) : items.eraseDups.Nodup := by
  have h := nodup_map_firsts id items
  rwa [List.map_id, firsts_id] at h

/-- Items that have come before add nothing. -/
theorem eraseDups_append_of_subset {α : Type} [DecidableEq α] {front again : List α}
    (h : again ⊆ front) (back : List α) :
    (front ++ again ++ back).eraseDups = (front ++ back).eraseDups := by
  induction again with
  | nil => rw [List.append_nil]
  | cons item rest ih =>
      rw [List.append_assoc, List.cons_append,
        eraseDups_append_cons_of_mem (h List.mem_cons_self), ← List.append_assoc,
        ih fun other ho => h (List.mem_cons_of_mem item ho)]

namespace DescriptorSet

variable {set : DescriptorSet} {names : List String} {name : String} {r : Record}

/-! ### Looking up a name -/

theorem record?_map_name (set : DescriptorSet) (name : String) :
    (set.record? name).map Record.name = if name ∈ set.recordNames then some name else none := by
  cases h : set.record? name with
  | some r =>
      have hr := name_of_record? h
      have hm : name ∈ set.recordNames := List.mem_map.mpr ⟨r, mem_records_of_record? h, hr⟩
      rw [if_pos hm, Option.map_some, hr]
  | none =>
      have hm : name ∉ set.recordNames := by
        intro hm
        obtain ⟨r, hr, he⟩ := List.mem_map.mp hm
        exact List.find?_eq_none.mp h r (List.mem_reverse.mpr hr) (decide_eq_true he)
      rw [if_neg hm, Option.map_none]

theorem record?_isNone (set : DescriptorSet) (name : String) :
    (set.record? name).isNone = !decide (name ∈ set.recordNames) := by
  rw [← Option.isNone_map (f := Record.name), record?_map_name]
  by_cases hm : name ∈ set.recordNames <;> simp [hm]

/-- Where no two records share a name, a name has the record that has it. -/
theorem record?_eq_some_iff (hd : set.recordNames.Nodup) :
    set.record? name = some r ↔ r ∈ set.records ∧ r.name = name := by
  constructor
  · exact fun h => ⟨mem_records_of_record? h, name_of_record? h⟩
  · rintro ⟨hr, rfl⟩
    have hreverse : (set.records.reverse.map Record.name).Nodup := by
      rw [List.map_reverse]
      exact List.nodup_reverse.mpr hd
    exact @Generation.Scope.target?_of_mem ⟨set.records.reverse, set.enums⟩ r hreverse
      (List.mem_reverse.mpr hr)

/-! ### Targets and missing names -/

theorem select_eq (set : DescriptorSet) (names : List String) :
    set.select names = ⟨names.eraseDups.filterMap set.record?,
      names.eraseDups.filter fun name => !decide (name ∈ set.recordNames)⟩ := by
  rw [select, firsts_id]
  simp only [record?_isNone]

/-- The targets are the names that are found, in the order in which they are first requested. -/
theorem names_of_targets (set : DescriptorSet) (names : List String) :
    (set.select names).targets.map Record.name =
      names.eraseDups.filter fun name => name ∈ set.recordNames := by
  rw [select_eq, List.map_filterMap, ← List.filterMap_eq_filter]
  refine List.filterMap_congr fun name _ => ?_
  rw [record?_map_name]
  simp [Option.guard]

theorem interleaves_select (set : DescriptorSet) (names : List String) :
    Interleaves ((set.select names).targets.map Record.name) (set.select names).missing
      names.eraseDups := by
  rw [names_of_targets, select_eq]
  exact Interleaves.filter _ _

theorem mem_targets_iff (hd : set.recordNames.Nodup) :
    r ∈ (set.select names).targets ↔ r ∈ set.records ∧ r.name ∈ names := by
  rw [select_eq, List.mem_filterMap]
  simp only [List.mem_eraseDups, record?_eq_some_iff hd]
  constructor
  · rintro ⟨_, hn, hr, rfl⟩
    exact ⟨hr, hn⟩
  · rintro ⟨hr, hn⟩
    exact ⟨r.name, hn, hr, rfl⟩

theorem mem_missing_iff :
    name ∈ (set.select names).missing ↔ name ∈ names ∧ ∀ r ∈ set.records, r.name ≠ name := by
  rw [select_eq, List.mem_filter, List.mem_eraseDups]
  simp [recordNames]

theorem record?_of_mem_targets (h : r ∈ (set.select names).targets) :
    set.record? r.name = some r := by
  obtain ⟨name, -, hr⟩ := List.mem_filterMap.mp h
  rw [name_of_record? hr, hr]

/-- The targets are what their own names select. -/
theorem select_names_of_targets (set : DescriptorSet) (names : List String) :
    set.select ((set.select names).targets.map Record.name) = ⟨(set.select names).targets, []⟩ := by
  have hfound : ∀ r ∈ (set.select names).targets, (set.record? ∘ Record.name) r = some r :=
    fun r hr => record?_of_mem_targets hr
  have hknown : ∀ name ∈ (set.select names).targets.map Record.name, name ∈ set.recordNames := by
    intro name hn
    obtain ⟨r, hr, rfl⟩ := List.mem_map.mp hn
    exact List.mem_map_of_mem (mem_records_of_mem_targets hr)
  rw [select_eq, eraseDups_of_nodup (set.nodup_targets names)]
  congr 1
  · rw [List.filterMap_map, List.filterMap_congr hfound, List.filterMap_some]
  · rw [List.filter_eq_nil_iff]
    intro name hn
    simp [hknown name hn]

theorem select_of_repeated {front again : List String} (h : again ⊆ front) (back : List String) :
    set.select (front ++ again ++ back) = set.select (front ++ back) := by
  rw [select_eq, select_eq, eraseDups_append_of_subset h]

/-- A request is split without loss. Its names, each once and in the order in which they are first
requested, are the names of the targets and the missing names, dealt into one list; a target is the
record of its name, and a name is missing if no record has it. The names of the targets select the
targets again, and names that have come before may come again anywhere. -/
theorem select_splits {set : DescriptorSet} (hd : set.recordNames.Nodup) (names : List String) :
    let selection := set.select names
    let found := selection.targets.map Record.name
    Interleaves found selection.missing names.eraseDups ∧
      (found ++ selection.missing).Nodup ∧
      (∀ r, r ∈ selection.targets ↔ r ∈ set.records ∧ r.name ∈ names) ∧
      (∀ name, name ∈ selection.missing ↔ name ∈ names ∧ ∀ r ∈ set.records, r.name ≠ name) ∧
      set.select found = ⟨selection.targets, []⟩ ∧
      ∀ front again back, names = front ++ back → again ⊆ front →
        set.select (front ++ again ++ back) = selection := by
  have hdealt := set.interleaves_select names
  refine ⟨hdealt, ?_, fun r => mem_targets_iff hd, fun name => mem_missing_iff,
    set.select_names_of_targets names, ?_⟩
  · exact hdealt.perm.nodup_iff.mpr (nodup_eraseDups names)
  · rintro front again back rfl hagain
    exact select_of_repeated hagain back

/-- A request that names a record twice and one that is nowhere. -/
theorem timetable_splits :
    let selection := timetableSet.select ["Leg", "Nobody", "Place", "Leg"]
    Interleaves (selection.targets.map Record.name) selection.missing ["Leg", "Nobody", "Place"] ∧
      (∀ r, r ∈ selection.targets ↔
        r ∈ timetableSet.records ∧ r.name ∈ ["Leg", "Nobody", "Place", "Leg"]) ∧
      selection = timetableSet.select ["Leg", "Nobody", "Place"] := by
  have hd : timetableSet.recordNames.Nodup := by decide
  obtain ⟨hdealt, -, htargets, -⟩ := select_splits hd ["Leg", "Nobody", "Place", "Leg"]
  obtain ⟨-, -, -, -, -, hagain⟩ := select_splits hd ["Leg", "Nobody", "Place"]
  refine ⟨hdealt, htargets, ?_⟩
  exact hagain ["Leg", "Nobody", "Place"] ["Leg"] [] rfl (by simp)

end DescriptorSet

end ToolSchema
