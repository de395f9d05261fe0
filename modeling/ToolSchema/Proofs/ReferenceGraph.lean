import Mathlib.Data.List.Nodup
import Mathlib.Logic.Relation
import ToolSchema.Proofs.Memoisation

/-! When a batch has components. The records of a batch refer to each other through the leaves of
their fields. A batch is generated exactly when every field leads to a leaf that is known and no
record reaches itself along references. Both directions go over expansions: an expansion at a path
goes on along every reference, and a record that is not reached from itself is never on the path. -/

namespace ToolSchema

namespace TypeExpr

/-- Level by level, with no malformed level and no keys but text, to the name at the end. -/
inductive LeadsTo : List Char → String → Prop
  | named {text name optional} (h : shape text = .ok ⟨.named name, optional⟩) :
      LeadsTo text (String.ofList name)
  | array {text element optional name} (h : shape text = .ok ⟨.array element, optional⟩)
      (below : LeadsTo element name) : LeadsTo text name
  | map {text value optional name} (h : shape text = .ok ⟨.map keyType value, optional⟩)
      (below : LeadsTo value name) : LeadsTo text name

section Levels

variable {text : List Char} {optional : Bool}

theorem descend_of_malformed {why : Malformation} (h : shape text = .error why) :
    descend text = .error (.malformed text why) := by
  rw [descend]
  split <;> rename_i heq <;> rw [h] at heq <;> cases heq
  rfl

theorem descend_of_named {name : List Char} (h : shape text = .ok ⟨.named name, optional⟩) :
    descend text = .ok ⟨[], text, name⟩ := by
  rw [descend]
  split <;> rename_i heq <;> rw [h] at heq <;> cases heq
  rfl

theorem descend_of_array {element : List Char}
    (h : shape text = .ok ⟨.array element, optional⟩) :
    descend text = (descend element).map (Leaf.under .array) := by
  rw [descend]
  split <;> rename_i heq <;> rw [h] at heq <;> cases heq
  rfl

theorem descend_of_map {value : List Char}
    (h : shape text = .ok ⟨.map keyType value, optional⟩) :
    descend text = (descend value).map (Leaf.under .map) := by
  rw [descend]
  split <;> rename_i heq <;> rw [h] at heq <;> cases heq
  exact if_pos rfl

theorem descend_of_foreignKey {key value : List Char}
    (h : shape text = .ok ⟨.map key value, optional⟩) (hk : key ≠ keyType) :
    descend text = .error (.foreignKey text) := by
  rw [descend]
  split <;> rename_i heq <;> rw [h] at heq <;> cases heq
  exact if_neg hk

end Levels

theorem descend_of_leadsTo {text : List Char} {name : String} (h : LeadsTo text name) :
    ∃ leaf, descend text = .ok leaf ∧ String.ofList leaf.name = name := by
  induction h with
  | named h => exact ⟨_, descend_of_named h, rfl⟩
  | array h _ ih =>
      obtain ⟨leaf, hd, hn⟩ := ih
      exact ⟨Leaf.under .array leaf, by rw [descend_of_array h, hd]; rfl, hn⟩
  | map h _ ih =>
      obtain ⟨leaf, hd, hn⟩ := ih
      exact ⟨Leaf.under .map leaf, by rw [descend_of_map h, hd]; rfl, hn⟩

theorem eq_ok_of_map_eq_ok {ε α β : Type} {f : α → β} {before : Except ε α} {value : β}
    (h : before.map f = .ok value) : ∃ a, before = .ok a ∧ f a = value := by
  cases before with
  | error e => cases h
  | ok a => exact ⟨a, rfl, Except.ok.inj h⟩

theorem leadsTo_of_descend {text : List Char} {leaf : Leaf} (h : descend text = .ok leaf) :
    LeadsTo text (String.ofList leaf.name) := by
  fun_induction descend text generalizing leaf with
  | case1 => cases h
  | case2 text name optional hs =>
      cases h
      exact .named hs
  | case3 text element optional hs _ ih =>
      obtain ⟨inner, hd, rfl⟩ := eq_ok_of_map_eq_ok h
      have hi := ih hd
      exact .array hs hi
  | case4 text value optional hs _ ih =>
      obtain ⟨inner, hd, rfl⟩ := eq_ok_of_map_eq_ok h
      have hi := ih hd
      exact .map hs hi
  | case5 => cases h

theorem LeadsTo.unique {text : List Char} {name other : String} (h : LeadsTo text name)
    (h' : LeadsTo text other) : name = other := by
  obtain ⟨leaf, hd, rfl⟩ := descend_of_leadsTo h
  obtain ⟨leaf', hd', rfl⟩ := descend_of_leadsTo h'
  rw [hd] at hd'
  cases hd'
  rfl

end TypeExpr

/-! ### The reference graph -/

/-- The name of a leaf that can only mean a record. -/
def Record.RefersTo (enums : Table Enumeration) (record : Record) (name : String) : Prop :=
  name ∉ primitives.keys ∧ name ∉ enums.keys ∧
    ∃ field ∈ record.fields, TypeExpr.LeadsTo field.rawType.toList name

namespace Generation.Scope

variable (scope : Scope)

def Known (name : String) : Prop :=
  name ∈ primitives.keys ∨ name ∈ scope.enums.keys ∨ name ∈ scope.targets.map Record.name

/-- Every field of every target leads to a known name. -/
def Resolvable : Prop :=
  ∀ record ∈ scope.targets, ∀ field ∈ record.fields,
    ∃ name, TypeExpr.LeadsTo field.rawType.toList name ∧ scope.Known name

def Edge (source name : String) : Prop :=
  ∃ record ∈ scope.targets, record.name = source ∧ record.RefersTo scope.enums name

def Acyclic : Prop := ∀ name, ¬Relation.TransGen scope.Edge name name

end Generation.Scope

namespace Expansion

open Generation (Scope)

variable {scope : Scope} {enums : Table Enumeration} {lookup : Lookup} {path : List String}

/-- The names at the end of type expressions that have a fragment. -/
def Meant (enums : Table Enumeration) (lookup : Lookup) (name : String) : Prop :=
  name ∈ primitives.keys ∨ name ∈ enums.keys ∨ ∃ components, lookup name = .ok (some components)

theorem leaf_ok_iff (site : Site) (written name : List Char) :
    (∃ fragment, leaf enums lookup site written name = .ok fragment) ↔
      Meant enums lookup (String.ofList name) := by
  unfold leaf Meant
  cases hp : primitives.find? (String.ofList name) with
  | some p =>
      have hk := Table.mem_keys_of_find? hp
      exact ⟨fun _ => Or.inl hk, fun _ => ⟨_, rfl⟩⟩
  | none =>
      have hnp := Table.find?_eq_none_iff.mp hp
      cases he : enums.find? (String.ofList name) with
      | some enumeration =>
          have hk := Table.mem_keys_of_find? he
          exact ⟨fun _ => Or.inr (Or.inl hk), fun _ => ⟨_, rfl⟩⟩
      | none =>
          have hne := Table.find?_eq_none_iff.mp he
          dsimp only
          constructor
          · rintro ⟨fragment, h⟩
            obtain ⟨found, hf, h⟩ := bind_eq_ok_iff.mp h
            cases found with
            | some components => exact Or.inr (Or.inr ⟨components, hf⟩)
            | none =>
                dsimp only at h
                split at h
                · cases h
                · cases h
          · rintro (h | h | ⟨components, h⟩)
            · exact absurd h hnp
            · exact absurd h hne
            · exact ⟨Fragment.record components, bind_eq_ok_iff.mpr ⟨_, h, rfl⟩⟩

theorem rawType_ok_iff (site : Site) (text : List Char) :
    (∃ fragment, rawType enums lookup site text = .ok fragment) ↔
      ∃ name, TypeExpr.LeadsTo text name ∧ Meant enums lookup name := by
  rw [rawType_eq]
  constructor
  · rintro ⟨fragment, h⟩
    cases hd : TypeExpr.descend text with
    | error why =>
        rw [hd] at h
        cases h
    | ok found =>
        rw [hd] at h
        obtain ⟨inner, hl, -⟩ := bind_eq_ok_iff.mp h
        exact ⟨_, TypeExpr.leadsTo_of_descend hd, (leaf_ok_iff site _ _).mp ⟨inner, hl⟩⟩
  · rintro ⟨name, ht, hm⟩
    obtain ⟨found, hd, rfl⟩ := TypeExpr.descend_of_leadsTo ht
    obtain ⟨inner, hl⟩ := (leaf_ok_iff site found.written found.name).mpr hm
    rw [hd]
    exact ⟨_, bind_eq_ok_iff.mpr ⟨inner, hl, rfl⟩⟩

theorem fields_ok_iff (record : String) (components : Components) (declared : List Field) :
    (∃ result, fields enums lookup record components declared = .ok result) ↔
      ∀ field ∈ declared, ∃ name, TypeExpr.LeadsTo field.rawType.toList name ∧
        Meant enums lookup name := by
  induction declared generalizing components with
  | nil => exact ⟨fun _ _ h => absurd h List.not_mem_nil, fun _ => ⟨components, rfl⟩⟩
  | cons field rest ih =>
      rw [fields, List.forall_mem_cons]
      constructor
      · rintro ⟨result, h⟩
        obtain ⟨fragment, hf, hr⟩ := bind_eq_ok_iff.mp h
        exact ⟨(rawType_ok_iff _ _).mp ⟨fragment, hf⟩, (ih _).mp ⟨result, hr⟩⟩
      · rintro ⟨hf, hr⟩
        obtain ⟨fragment, hf⟩ := (rawType_ok_iff ⟨record, field.name⟩ _).mpr hf
        obtain ⟨result, hr⟩ := (ih (components.add field fragment)).mpr hr
        exact ⟨result, bind_eq_ok_iff.mpr ⟨fragment, hf, hr⟩⟩

/-- A record has components at a path. -/
def Expands (scope : Scope) (path : List String) (r : Record) : Prop :=
  ∃ components, record scope path r = .ok components

theorem target_ok_iff {name : String} :
    (∃ components, target scope path name = .ok (some components)) ↔
      ∃ found, scope.target? name = some found ∧ Expands scope path found := by
  cases ht : scope.target? name with
  | none =>
      rw [target_of_none ht]
      constructor
      · rintro ⟨components, h⟩
        cases h
      · rintro ⟨found, h, -⟩
        cases h
  | some found =>
      constructor
      · rintro ⟨components, h⟩
        exact ⟨found, rfl, components, (target_eq_ok_some_iff ht).mp h⟩
      · rintro ⟨other, he, components, h⟩
        cases he
        exact ⟨components, (target_eq_ok_some_iff ht).mpr h⟩

/-- Expansion at a path goes on along every reference, at the path with the record on it. -/
theorem expands_iff {r : Record} :
    Expands scope path r ↔ r.name ∉ path ∧ ∀ field ∈ r.fields, ∃ name,
      TypeExpr.LeadsTo field.rawType.toList name ∧
        (name ∈ primitives.keys ∨ name ∈ scope.enums.keys ∨
          ∃ found, scope.target? name = some found ∧ Expands scope (path ++ [r.name]) found) := by
  by_cases hp : r.name ∈ path
  · refine ⟨fun ⟨components, h⟩ => ?_, fun h => absurd hp h.1⟩
    rw [record_eq, if_pos hp] at h
    cases h
  · unfold Expands
    rw [record_of_not_mem hp, fields_ok_iff]
    unfold Meant
    simp only [target_ok_iff]
    exact ⟨fun h => ⟨hp, h⟩, fun h => h.2⟩

theorem batch_ok_iff {records : List Record} :
    (∃ results, batch scope records = .ok results) ↔ ∀ r ∈ records, Expands scope [] r := by
  induction records with
  | nil => exact ⟨fun _ _ h => absurd h List.not_mem_nil, fun _ => ⟨[], rfl⟩⟩
  | cons r rest ih =>
      rw [batch_cons, List.forall_mem_cons, ← ih]
      constructor
      · rintro ⟨results, h⟩
        obtain ⟨components, hr, h⟩ := bind_eq_ok_iff.mp h
        obtain ⟨others, ho, -⟩ := bind_eq_ok_iff.mp h
        exact ⟨⟨components, hr⟩, others, ho⟩
      · rintro ⟨⟨components, hr⟩, others, ho⟩
        exact ⟨_, bind_eq_ok_iff.mpr ⟨components, hr, bind_eq_ok_iff.mpr ⟨others, ho, rfl⟩⟩⟩

theorem keys_of_batch {records : List Record} {results : Table Components}
    (h : batch scope records = .ok results) : results.keys = records.map Record.name := by
  induction records generalizing results with
  | nil =>
      cases h
      rfl
  | cons r rest ih =>
      rw [batch_cons] at h
      obtain ⟨components, -, h⟩ := bind_eq_ok_iff.mp h
      obtain ⟨others, ho, h⟩ := bind_eq_ok_iff.mp h
      cases h
      rw [Table.keys_cons, ih ho, List.map_cons]

/-! ### Expansion along the reference graph -/

/-- A record that is expanded takes the expansion along every edge, its own name on the path. -/
theorem expands_of_edge (hd : (scope.targets.map Record.name).Nodup) {r : Record}
    (hr : r ∈ scope.targets) (h : Expands scope path r) {name : String}
    (he : scope.Edge r.name name) :
    ∃ found ∈ scope.targets, found.name = name ∧ Expands scope (path ++ [r.name]) found := by
  obtain ⟨source, hs, hsn, hp, hen, field, hf, ht⟩ := he
  have hsr : source = r := List.inj_on_of_nodup_map hd hs hr hsn
  subst hsr
  obtain ⟨other, hl, hm⟩ := (expands_iff.mp h).2 field hf
  have hon := hl.unique ht
  subst hon
  rcases hm with hm | hm | ⟨found, hfound, hx⟩
  · exact absurd hm hp
  · exact absurd hm hen
  · obtain ⟨hmem, hname⟩ := Scope.target?_eq_some hfound
    exact ⟨found, hmem, hname, hx⟩

theorem expands_of_path (hd : (scope.targets.map Record.name).Nodup) {r : Record}
    (hr : r ∈ scope.targets) (h : Expands scope path r) {name : String}
    (he : Relation.TransGen scope.Edge r.name name) :
    ∃ longer, ∃ found ∈ scope.targets,
      found.name = name ∧ r.name ∈ longer ∧ Expands scope longer found := by
  induction he with
  | single he =>
      obtain ⟨found, hm, hn, hx⟩ := expands_of_edge hd hr h he
      exact ⟨_, found, hm, hn, List.mem_append_right _ List.mem_cons_self, hx⟩
  | tail _ he ih =>
      obtain ⟨longer, middle, hm, rfl, hin, hx⟩ := ih
      obtain ⟨found, hm', hn, hx'⟩ := expands_of_edge hd hm hx he
      exact ⟨_, found, hm', hn, List.mem_append_left _ hin, hx'⟩

/-- No record of a batch that expands reaches itself. -/
theorem acyclic_of_expands (hd : (scope.targets.map Record.name).Nodup)
    (h : ∀ r ∈ scope.targets, Expands scope [] r) : scope.Acyclic := by
  intro name hc
  obtain ⟨r, hr, hn⟩ : ∃ r ∈ scope.targets, r.name = name := by
    obtain ⟨_, ⟨r, hr, hn, -⟩, -⟩ := Relation.TransGen.head'_iff.mp hc
    exact ⟨r, hr, hn⟩
  subst hn
  obtain ⟨longer, found, -, hname, hin, hx⟩ := expands_of_path hd hr (h r hr) hc
  exact (expands_iff.mp hx).1 (hname ▸ hin)

theorem resolvable_of_expands (h : ∀ r ∈ scope.targets, Expands scope [] r) :
    scope.Resolvable := by
  intro r hr field hf
  obtain ⟨name, ht, hm⟩ := (expands_iff.mp (h r hr)).2 field hf
  refine ⟨name, ht, ?_⟩
  rcases hm with hm | hm | ⟨found, hfound, -⟩
  · exact Or.inl hm
  · exact Or.inr (Or.inl hm)
  · obtain ⟨hmem, rfl⟩ := Scope.target?_eq_some hfound
    exact Or.inr (Or.inr (List.mem_map_of_mem hmem))

/-- The names on the path all reach the record, so the record is not among them, and no path holds
all the targets for ever. -/
theorem expands_of_acyclic (hd : (scope.targets.map Record.name).Nodup)
    (hres : scope.Resolvable) (hac : scope.Acyclic) (path : List String) {r : Record}
    (hr : r ∈ scope.targets)
    (hreach : ∀ name ∈ path, Relation.TransGen scope.Edge name r.name) :
    Expands scope path r := by
  induction hn : scope.unvisited path using Nat.strongRecOn generalizing path r with
  | _ n ih =>
      subst hn
      have hp : r.name ∉ path := fun hin => hac _ (hreach _ hin)
      refine expands_iff.mpr ⟨hp, fun field hf => ?_⟩
      obtain ⟨name, ht, hk⟩ := hres r hr field hf
      refine ⟨name, ht, ?_⟩
      by_cases hprim : name ∈ primitives.keys
      · exact Or.inl hprim
      by_cases henum : name ∈ scope.enums.keys
      · exact Or.inr (Or.inl henum)
      have hbatch : name ∈ scope.targets.map Record.name := by
        rcases hk with h | h | h
        · exact absurd h hprim
        · exact absurd h henum
        · exact h
      obtain ⟨found, hfound, rfl⟩ := List.mem_map.mp hbatch
      have hedge : scope.Edge r.name found.name := ⟨r, hr, rfl, hprim, henum, field, hf, ht⟩
      refine Or.inr (Or.inr ⟨found, Scope.target?_of_mem hd hfound, ?_⟩)
      refine ih _ (Scope.unvisited_lt hr hp) (path ++ [r.name]) hfound (fun other hin => ?_) rfl
      rcases List.mem_append.mp hin with hin | hin
      · exact (hreach other hin).tail hedge
      · rw [List.mem_singleton.mp hin]
        exact .single hedge

end Expansion

/-- A batch has components exactly when every field leads to a known name and no record needs itself.
The components stand in the order of the batch. -/
theorem generateSchemas_succeeds_iff (records : List Record) (enums : Table Enumeration)
    (hd : (records.map Record.name).Nodup) :
    ((∃ results, generateSchemas records enums = .ok results) ↔
      Generation.Scope.Resolvable ⟨records, enums⟩ ∧ Generation.Scope.Acyclic ⟨records, enums⟩) ∧
    ∀ results, generateSchemas records enums = .ok results →
      results.keys = records.map Record.name := by
  have he : generateSchemas records enums = Expansion.batch ⟨records, enums⟩ records := by
    rw [Generator.generateSchemas_of_nodup enums hd]
    exact (Generation.generate_follows ⟨records, enums⟩ hd (Generation.steady_nil _)).1
  rw [he, Expansion.batch_ok_iff]
  refine ⟨⟨fun h => ?_, fun h r hr => ?_⟩, fun results h => Expansion.keys_of_batch h⟩
  · exact ⟨Expansion.resolvable_of_expands h, Expansion.acyclic_of_expands hd h⟩
  · exact Expansion.expands_of_acyclic hd h.1 h.2 [] hr fun _ h => absurd h List.not_mem_nil

/-- `Place` is needed twice without harm; what `Leg` goes via decides. -/
theorem journey_succeeds_iff :
    ((journey "[Place]").map Record.name).Nodup ∧ ((journey "[Trip]").map Record.name).Nodup ∧
      (Generation.Scope.Resolvable ⟨journey "[Place]", modes⟩ ∧
        Generation.Scope.Acyclic ⟨journey "[Place]", modes⟩) ∧
      ¬(Generation.Scope.Resolvable ⟨journey "[Trip]", modes⟩ ∧
        Generation.Scope.Acyclic ⟨journey "[Trip]", modes⟩) := by
  refine ⟨by decide, by decide, ?_, fun h => ?_⟩
  · apply (generateSchemas_succeeds_iff (journey "[Place]") modes (by decide)).1.mp
    have hok : (generateSchemas (journey "[Place]") modes).isOk = true := by cbv
    cases hg : generateSchemas (journey "[Place]") modes with
    | ok results => exact ⟨results, rfl⟩
    | error error =>
        rw [hg] at hok
        cases hok
  · obtain ⟨results, hg⟩ :=
      (generateSchemas_succeeds_iff (journey "[Trip]") modes (by decide)).1.mpr h
    have hok : (generateSchemas (journey "[Trip]") modes).isOk = false := by cbv
    rw [hg] at hok
    cases hok

end ToolSchema
