import ToolSchema.Proofs.DocumentEntries

/-! Batches that grow. What expands among some targets, below some records, expands to the same among
more targets and below fewer records: a lookup that found a record still finds it, and nothing that
succeeded has looked up a name in vain. So the components of a record depend neither on the records
that were added to its batch nor on the order of the batch. -/

namespace ToolSchema

namespace Expansion

open Generation (Scope)

variable {α β : Type} {enums : Table Enumeration} {lookup later : Lookup}

/-- Every value of the one is the value of the other; an error of the one says nothing. -/
def Kept (before after : Except GenerationError α) : Prop :=
  ∀ value, before = .ok value → after = .ok value

theorem kept_self (result : Except GenerationError α) : Kept result result := fun _ h => h

theorem Kept.bind {before after : Except GenerationError α}
    {next next' : α → Except GenerationError β} (h : Kept before after)
    (hn : ∀ value, Kept (next value) (next' value)) :
    Kept (before >>= next) (after >>= next') := by
  intro result hb
  obtain ⟨value, hv, hr⟩ := bind_eq_ok_iff.mp hb
  exact bind_eq_ok_iff.mpr ⟨value, h value hv, hn value result hr⟩

/-- A leaf that means no record is an error, so a lookup that finds nothing need not be kept. -/
theorem leaf_kept (h : ∀ name found, lookup name = .ok (some found) → later name = .ok (some found))
    (site : Site) (written name : List Char) :
    Kept (leaf enums lookup site written name) (leaf enums later site written name) := by
  unfold leaf
  cases primitives.find? (String.ofList name) with
  | some p => exact kept_self _
  | none =>
      cases enums.find? (String.ofList name) with
      | some enumeration => exact kept_self _
      | none =>
          intro fragment hl
          obtain ⟨found, hf, hl⟩ := bind_eq_ok_iff.mp hl
          cases found with
          | some components => exact bind_eq_ok_iff.mpr ⟨_, h _ _ hf, hl⟩
          | none =>
              dsimp only at hl
              split at hl <;> cases hl

theorem rawType_kept
    (h : ∀ name found, lookup name = .ok (some found) → later name = .ok (some found))
    (site : Site) (text : List Char) :
    Kept (rawType enums lookup site text) (rawType enums later site text) := by
  intro fragment hf
  obtain ⟨found, inner, hd, hl, rfl⟩ := rawType_eq_ok_iff.mp hf
  exact rawType_eq_ok_iff.mpr ⟨found, inner, hd, leaf_kept h site _ _ inner hl, rfl⟩

theorem fields_kept
    (h : ∀ name found, lookup name = .ok (some found) → later name = .ok (some found))
    (name : String) (components : Components) (declared : List Field) :
    Kept (fields enums lookup name components declared)
      (fields enums later name components declared) := by
  induction declared generalizing components with
  | nil => exact kept_self _
  | cons field rest ih => exact (rawType_kept h _ _).bind fun _ => ih _

end Expansion

/-- A scope with the same enumerations and at least the same targets, of which each has a name of its
own. -/
structure Generation.Scope.Within (scope larger : Generation.Scope) : Prop where
  enums : scope.enums = larger.enums
  targets : ∀ record ∈ scope.targets, record ∈ larger.targets
  distinct : (larger.targets.map Record.name).Nodup

theorem Generation.Scope.Within.target? {scope larger : Generation.Scope} (hw : scope.Within larger)
    {name : String} {record : Record} (h : scope.target? name = some record) :
    larger.target? name = some record := by
  obtain ⟨hm, rfl⟩ := Generation.Scope.target?_eq_some h
  exact Generation.Scope.target?_of_mem hw.distinct (hw.targets record hm)

theorem Generation.Scope.within_self {scope : Generation.Scope}
    (hd : (scope.targets.map Record.name).Nodup) : scope.Within scope :=
  ⟨rfl, fun _ h => h, hd⟩

namespace Expansion

open Generation (Scope)

variable {scope larger : Scope} {r : Record}

/-- A lookup is kept when the records that it can find are. -/
theorem target_kept_of (hw : scope.Within larger) {path shorter : List String}
    (hk : ∀ r ∈ scope.targets, Kept (record scope path r) (record larger shorter r))
    (name : String) (found : Components) (h : target scope path name = .ok (some found)) :
    target larger shorter name = .ok (some found) := by
  cases ht : scope.target? name with
  | none =>
      rw [target_of_none ht] at h
      cases h
  | some r =>
      exact (target_eq_ok_some_iff (hw.target? ht)).mpr
        (hk r (Scope.target?_eq_some ht).1 found ((target_eq_ok_some_iff ht).mp h))

/-- The targets off the path get fewer with every record that is entered, in the smaller scope. -/
theorem record_kept (hw : scope.Within larger) {path shorter : List String} (hs : shorter ⊆ path)
    (hr : r ∈ scope.targets) : Kept (record scope path r) (record larger shorter r) := by
  induction hn : scope.unvisited path using Nat.strongRecOn generalizing path shorter r with
  | _ n ih =>
      subst hn
      intro components hc
      have hp : r.name ∉ path := fun hin => by
        rw [record_eq, if_pos hin] at hc
        cases hc
      have hlonger : shorter ++ [r.name] ⊆ path ++ [r.name] :=
        List.append_subset.mpr ⟨fun _ h => List.mem_append_left _ (hs h),
          List.subset_append_right _ _⟩
      rw [record_of_not_mem hp, hw.enums] at hc
      rw [record_of_not_mem fun hin => hp (hs hin)]
      refine fields_kept (target_kept_of hw fun below hb => ?_) r.name {} r.fields components hc
      exact ih _ (Scope.unvisited_lt hr hp) hlonger hb rfl

theorem target_kept (hw : scope.Within larger) {path shorter : List String} (hs : shorter ⊆ path)
    (name : String) (found : Components) (h : target scope path name = .ok (some found)) :
    target larger shorter name = .ok (some found) :=
  target_kept_of hw (fun _ hr => record_kept hw hs hr) name found h

/-- The property of a field, unless a later field has its name, is what its type means by itself. -/
theorem property_of_lastIn (hd : (scope.targets.map Record.name).Nodup) (h : Expands scope [] r)
    {field : Field} (hl : field.LastIn r.fields) :
    ∃ fragment,
      rawType scope.enums (target scope []) ⟨r.name, field.name⟩ field.rawType.toList = .ok fragment ∧
        (components scope r).properties.find? field.name = some (field.describe fragment) := by
  have hfields := h.record_eq_ok
  rw [record_of_not_mem List.not_mem_nil] at hfields
  obtain ⟨fragment, hraw, hfind⟩ := find?_of_lastIn hfields hl
  exact ⟨fragment, rawType_kept (target_kept (Scope.within_self hd) (List.nil_subset _)) _ _ _ hraw,
    hfind⟩

theorem expands_of_within (hw : scope.Within larger) (hr : r ∈ scope.targets)
    (h : Expands scope [] r) : Expands larger [] r := by
  obtain ⟨found, hf⟩ := h
  exact ⟨found, record_kept hw (fun _ h => h) hr found hf⟩

theorem components_of_within (hw : scope.Within larger) (hr : r ∈ scope.targets)
    (h : Expands scope [] r) : components larger r = components scope r :=
  components_eq (record_kept hw (fun _ h => h) hr _ h.record_eq_ok)

end Expansion

/-! ### Reordered batches -/

open Generator Expansion

variable {batch larger : List Record}

/-- Records that are added to a batch, anywhere, change no components that there were; and a batch in
another order has the same components, and in every dialect the same entries in another order. -/
theorem components_stable_under_growth (enums : Table Enumeration)
    (hb : (batch.map Record.name).Nodup) (hl : (larger.map Record.name).Nodup)
    (hsub : ∀ record ∈ batch, record ∈ larger) :
    (∃ g g', ofBatch batch enums = .ok g ∧ ofBatch larger enums = .ok g' ∧
      ∀ record ∈ batch, ∀ components,
        (g.step (.generateRecord record)).answer = .ok (.components (some components)) →
          (g'.step (.generateRecord record)).answer = .ok (.components (some components))) ∧
    (batch.Perm larger →
      ((∃ results, generateSchemas batch enums = .ok results) ↔
        ∃ results, generateSchemas larger enums = .ok results) ∧
      ∀ results results', generateSchemas batch enums = .ok results →
        generateSchemas larger enums = .ok results' →
          (∀ name, results.find? name = results'.find? name) ∧
          ∀ dialect : Dialect, ∃ entries entries',
            formatSchemas batch (Components.table results) dialect.name = .ok entries ∧
              formatSchemas larger (Components.table results') dialect.name = .ok entries' ∧
              entries.Perm entries') := by
  have hw : Generation.Scope.Within ⟨batch, enums⟩ ⟨larger, enums⟩ := ⟨rfl, hsub, hl⟩
  refine ⟨⟨_, _, ofBatch_of_nodup enums hb, ofBatch_of_nodup enums hl, ?_⟩, fun hp => ?_⟩
  · intro r hr components h
    have hinj : Function.Injective fun found => Answer.components (some found) :=
      fun _ _ he => Option.some.inj (Answer.components.inj he)
    rw [fresh_answer_eq (s := .generateRecord r) (ofBatch_of_nodup enums hb) hr trivial] at h
    rw [fresh_answer_eq (s := .generateRecord r) (ofBatch_of_nodup enums hl) (hsub r hr) trivial]
    have hc := (reply_eq_ok_iff hinj).mp h
    exact (reply_eq_ok_iff hinj).mpr (record_kept hw (fun _ h => h) hr components hc)
  · have hw' : Generation.Scope.Within ⟨larger, enums⟩ ⟨batch, enums⟩ :=
      ⟨rfl, fun record hr => hp.mem_iff.mpr hr, hb⟩
    simp only [generateSchemas_eq_ok_iff hb, generateSchemas_eq_ok_iff hl]
    refine ⟨⟨?_, ?_⟩, ?_⟩
    · rintro ⟨_, he, -⟩
      exact ⟨_, fun r hr => expands_of_within hw (hp.mem_iff.mpr hr) (he r (hp.mem_iff.mpr hr)), rfl⟩
    · rintro ⟨_, he, -⟩
      exact ⟨_, fun r hr => expands_of_within hw' (hsub r hr) (he r (hsub r hr)), rfl⟩
    · rintro results results' ⟨he, rfl⟩ ⟨he', rfl⟩
      have hsame : ∀ r ∈ larger, components ⟨larger, enums⟩ r = components ⟨batch, enums⟩ r :=
        fun r hr => components_of_within hw (hp.mem_iff.mpr hr) (he r (hp.mem_iff.mpr hr))
      have hresults : larger.map (fun r => (r.name, components ⟨larger, enums⟩ r)) =
          larger.map fun r => (r.name, components ⟨batch, enums⟩ r) :=
        List.map_congr_left fun r hr => by rw [hsame r hr]
      refine ⟨fun name => ?_, fun dialect => ?_⟩
      · rw [hresults]
        refine Table.find?_of_perm ?_ (hp.map _) name
        rw [Table.keys, List.map_map]
        exact hb
      · refine ⟨_, _, formatSchemas_eq dialect hb fun r hr => (he r hr).schematic,
          formatSchemas_eq dialect hl fun r hr => (he' r hr).schematic, ?_⟩
        have hentries : larger.map (fun r => dialect.declare r (components ⟨larger, enums⟩ r)) =
            larger.map fun r => dialect.declare r (components ⟨batch, enums⟩ r) :=
          List.map_congr_left fun r hr => by rw [hsame r hr]
        rw [hentries]
        exact hp.map _

/-- `Leg` is generated on demand in the one order and before its turn comes in the other. -/
theorem journey_stable_under_reversal :
    ((journey "[Place]").map Record.name).Nodup ∧
      ((journey "[Place]").reverse.map Record.name).Nodup ∧
      (∀ record ∈ journey "[Place]", record ∈ (journey "[Place]").reverse) ∧
      (journey "[Place]").Perm (journey "[Place]").reverse ∧
      ∃ results results', generateSchemas (journey "[Place]") modes = .ok results ∧
        generateSchemas (journey "[Place]").reverse modes = .ok results' ∧
        (∀ name, results.find? name = results'.find? name) ∧
        ∃ entries entries',
          formatSchemas (journey "[Place]") (Components.table results) "gemini" = .ok entries ∧
            formatSchemas (journey "[Place]").reverse (Components.table results') "gemini" =
              .ok entries' ∧ entries.Perm entries' := by
  have hsub : ∀ record ∈ journey "[Place]", record ∈ (journey "[Place]").reverse :=
    fun _ h => List.mem_reverse.mpr h
  have hp := (List.reverse_perm (journey "[Place]")).symm
  obtain ⟨hiff, hsame⟩ :=
    (components_stable_under_growth modes (by decide) (by decide) hsub).2 hp
  have hok : (generateSchemas (journey "[Place]") modes).isOk = true := by cbv
  obtain ⟨results, hr⟩ := exists_of_isOk hok
  obtain ⟨results', hr'⟩ := hiff.mp ⟨results, hr⟩
  obtain ⟨hfind, hdoc⟩ := hsame results results' hr hr'
  exact ⟨by decide, by decide, hsub, hp, results, results', hr, hr', hfind, hdoc .gemini⟩

end ToolSchema
