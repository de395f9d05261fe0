import ToolSchema.Proofs.DocumentEntries

/-! How an expansion fails. A record that has no components at a path is on the path already, or has a
field at fault, or refers by a field to a target that has none at the longer path. Every failure of a
batch is a finite descent of this kind (`Fails`) from the first record without components, so what is
said of the errors of a batch is said by induction over such descents. -/

namespace ToolSchema

namespace Expansion

open Generation (Scope)

/-- The error of a leaf that means nothing. -/
def unknownLeaf (site : Site) (written name : List Char) : GenerationError :=
  if Text.isIdentifier (String.ofList name) then .unrequestedReference (String.ofList name) site
  else .unsupportedType (String.ofList written) site

/-- The descent from a record at a path to the error it ends with. -/
inductive Fails (scope : Scope) : List String → Record → GenerationError → Prop
  | cycle {path r} (hp : r.name ∈ path) :
      Fails scope path r (.cyclicDependency (path ++ [r.name]))
  | level {path r field why} (hp : r.name ∉ path) (hf : field ∈ r.fields)
      (hd : TypeExpr.descend field.rawType.toList = .error why) :
      Fails scope path r (fault ⟨r.name, field.name⟩ why)
  | unknown {path r field found} (hp : r.name ∉ path) (hf : field ∈ r.fields)
      (hd : TypeExpr.descend field.rawType.toList = .ok found)
      (hk : ¬scope.Known (String.ofList found.name)) :
      Fails scope path r (unknownLeaf ⟨r.name, field.name⟩ found.written found.name)
  | reference {path r field found s error} (hp : r.name ∉ path) (hf : field ∈ r.fields)
      (hd : TypeExpr.descend field.rawType.toList = .ok found)
      (hprimitive : String.ofList found.name ∉ primitives.keys)
      (henum : String.ofList found.name ∉ scope.enums.keys)
      (ht : scope.target? (String.ofList found.name) = some s)
      (h : Fails scope (path ++ [r.name]) s error) : Fails scope path r error

variable {scope : Scope} {enums : Table Enumeration} {lookup : Lookup} {site : Site}
  {path : List String} {error : GenerationError}

theorem leaf_eq_error {written name : List Char}
    (h : leaf enums lookup site written name = .error error) :
    String.ofList name ∉ primitives.keys ∧ String.ofList name ∉ enums.keys ∧
      (lookup (String.ofList name) = .error error ∨
        lookup (String.ofList name) = .ok none ∧ error = unknownLeaf site written name) := by
  unfold leaf at h
  split at h
  · cases h
  · rename_i hp
    split at h
    · cases h
    · rename_i he
      refine ⟨Table.find?_eq_none_iff.mp hp, Table.find?_eq_none_iff.mp he, ?_⟩
      refine (bind_eq_error_iff.mp h).imp id fun ⟨found, hl, h⟩ => ?_
      cases found with
      | some components => cases h
      | none =>
          refine ⟨hl, ?_⟩
          unfold unknownLeaf
          dsimp only at h
          split at h <;> rename_i hi <;> cases h
          · rw [if_pos hi]
          · rw [if_neg hi]

theorem rawType_eq_error {text : List Char} (h : rawType enums lookup site text = .error error) :
    (∃ why, TypeExpr.descend text = .error why ∧ error = fault site why) ∨
      ∃ found, TypeExpr.descend text = .ok found ∧
        leaf enums lookup site found.written found.name = .error error := by
  rw [rawType_eq] at h
  cases hd : TypeExpr.descend text with
  | error why =>
      rw [hd] at h
      cases h
      exact Or.inl ⟨why, rfl, rfl⟩
  | ok found =>
      rw [hd] at h
      rcases bind_eq_error_iff.mp h with h | ⟨_, _, h⟩
      · exact Or.inr ⟨found, rfl, h⟩
      · cases h

theorem fields_eq_error {record : String} {components : Components} {declared : List Field}
    (h : fields enums lookup record components declared = .error error) :
    ∃ field ∈ declared,
      rawType enums lookup ⟨record, field.name⟩ field.rawType.toList = .error error := by
  induction declared generalizing components with
  | nil => cases h
  | cons field rest ih =>
      rw [fields] at h
      rcases bind_eq_error_iff.mp h with h | ⟨fragment, -, h⟩
      · exact ⟨field, List.mem_cons_self, h⟩
      · obtain ⟨other, hm, ho⟩ := ih h
        exact ⟨other, List.mem_cons_of_mem field hm, ho⟩

theorem target_eq_error {name : String} (h : target scope path name = .error error) :
    ∃ s, scope.target? name = some s ∧ record scope path s = .error error := by
  cases ht : scope.target? name with
  | none =>
      rw [target_of_none ht] at h
      cases h
  | some s =>
      rw [target_of_some ht] at h
      rcases bind_eq_error_iff.mp h with h | ⟨_, _, h⟩
      · exact ⟨s, rfl, h⟩
      · cases h

theorem unknown_of_target {name : String} (h : target scope path name = .ok none) :
    name ∉ scope.targets.map Record.name := by
  intro hm
  obtain ⟨r, hr, rfl⟩ := List.mem_map.mp hm
  cases ht : scope.target? r.name with
  | none => exact List.find?_eq_none.mp ht r hr (decide_eq_true rfl)
  | some s =>
      rw [target_of_some ht] at h
      obtain ⟨_, _, h⟩ := bind_eq_ok_iff.mp h
      cases h

/-- A target without components fails by a descent: what a field refers to is at a longer path, and no
path holds all the targets for ever. -/
theorem fails_of_error {r : Record} (hr : r ∈ scope.targets)
    (h : record scope path r = .error error) : Fails scope path r error := by
  induction hn : scope.unvisited path using Nat.strongRecOn generalizing path r with
  | _ n ih =>
      subst hn
      by_cases hp : r.name ∈ path
      · rw [record_eq, if_pos hp] at h
        cases h
        exact .cycle hp
      rw [record_of_not_mem hp] at h
      obtain ⟨field, hf, h⟩ := fields_eq_error h
      rcases rawType_eq_error h with ⟨why, hd, rfl⟩ | ⟨found, hd, h⟩
      · exact .level hp hf hd
      obtain ⟨hprimitive, henum, hleaf⟩ := leaf_eq_error h
      rcases hleaf with hleaf | ⟨hnone, rfl⟩
      · obtain ⟨s, ht, hs⟩ := target_eq_error hleaf
        exact .reference hp hf hd hprimitive henum ht
          (ih _ (Scope.unvisited_lt hr hp) (Scope.target?_eq_some ht).1 hs rfl)
      · refine .unknown hp hf hd ?_
        rintro (hk | hk | hk)
        · exact hprimitive hk
        · exact henum hk
        · exact unknown_of_target hnone hk

/-- No descent ends with a name that comes twice. -/
theorem Fails.ne_duplicateRecord {r : Record} (h : Fails scope path r error) (name : String) :
    error ≠ .duplicateRecord name := by
  induction h with
  | cycle => simp
  | @level _ r field why => cases why <;> simp [fault]
  | unknown =>
      unfold unknownLeaf
      split <;> simp
  | reference _ _ _ _ _ _ _ ih => exact ih

theorem batch_eq_error {records : List Record} (h : batch scope records = .error error) :
    ∃ front r back, records = front ++ r :: back ∧ (∀ s ∈ front, Expands scope [] s) ∧
      record scope [] r = .error error := by
  obtain ⟨front, r, back, he, hfront, hr⟩ := mapM_eq_error_iff.mp h
  refine ⟨front, r, back, he, fun s hs => ?_, ?_⟩
  · obtain ⟨entry, hentry⟩ := hfront s hs
    obtain ⟨components, hc, -⟩ := bind_eq_ok_iff.mp hentry
    exact ⟨components, hc⟩
  · rcases bind_eq_error_iff.mp hr with hr | ⟨_, _, hr⟩
    · exact hr
    · cases hr

end Expansion

/-- The error of a batch is that of its first record without components. -/
theorem first_failure_of_generateSchemas {records : List Record} {enums : Table Enumeration}
    (hd : (records.map Record.name).Nodup) {error : GenerationError}
    (h : generateSchemas records enums = .error error) :
    ∃ front r back, records = front ++ r :: back ∧
      (∀ s ∈ front, Expansion.Expands ⟨records, enums⟩ [] s) ∧
      Expansion.record ⟨records, enums⟩ [] r = .error error := by
  rw [Generator.generateSchemas_of_nodup enums hd,
    (Generation.generate_follows ⟨records, enums⟩ hd (Generation.steady_nil _)).1] at h
  exact Expansion.batch_eq_error h

/-- The first record without components fails by a descent. -/
theorem fails_of_generateSchemas {records : List Record} {enums : Table Enumeration}
    (hd : (records.map Record.name).Nodup) {error : GenerationError}
    (h : generateSchemas records enums = .error error) :
    ∃ r ∈ records, Expansion.Fails ⟨records, enums⟩ [] r error := by
  obtain ⟨front, r, back, he, -, hr⟩ := first_failure_of_generateSchemas hd h
  have hm : r ∈ records := he ▸ List.mem_append_right front List.mem_cons_self
  exact ⟨r, hm, Expansion.fails_of_error hm hr⟩

end ToolSchema
