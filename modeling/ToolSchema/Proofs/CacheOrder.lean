import Mathlib.Data.List.Induction
import ToolSchema.Proofs.NestedDeclarations
import ToolSchema.Proofs.ReturningCalls

/-! The order of a cache. A call gives what the cache that it leaves says: the fields of a record are
what they expand to when every name is looked up in that cache. As a record is stored after its fields
are mapped, its entry is what its fields expand to over the entries before it, and so the cache is in an
order of dependency from the first entry to the last, whatever has been asked for, brought in and failed
on the way. -/

namespace ToolSchema

namespace Table

variable {α : Type} {t middle later : Table α} {key : String} {value : α}

/-- What is found in the one is found in the other. -/
def Within (t later : Table α) : Prop :=
  ∀ key value, t.find? key = some value → later.find? key = some value

theorem within_nil : Table.Within ([] : Table α) later := by
  rintro _ _ ⟨⟩

theorem within_self (t : Table α) : t.Within t := fun _ _ h => h

theorem Within.trans (h : t.Within middle) (hl : middle.Within later) : t.Within later :=
  fun key value hf => hl key value (h key value hf)

theorem within_of_prefix (h : t <+: later) : t.Within later := by
  obtain ⟨rest, rfl⟩ := h
  intro key value hf
  induction t with
  | nil => cases hf
  | cons entry t ih =>
      rw [List.cons_append, find?_cons]
      rw [find?_cons] at hf
      split
      · rwa [if_pos (by assumption)] at hf
      · exact ih (by rwa [if_neg (by assumption)] at hf)

theorem within_put (h : key ∉ t.keys) (value : α) : t.Within (t.put key value) := by
  rw [put_of_not_mem h]
  exact within_of_prefix (List.prefix_append t _)

/-- Values that are found elsewhere stay so with one more that is found there. -/
theorem Within.put (h : t.Within later) (hf : later.find? key = some value) :
    (t.put key value).Within later := by
  intro other found ho
  rw [find?_put] at ho
  split at ho
  · rename_i hk
    cases ho
    exact hk ▸ hf
  · exact h other found ho

end Table

namespace Generation

open Expansion (bind_eq_ok_iff)

variable {α β : Type} {scope : Scope} {path : List String} {cache after earlier : Table Components}
  {call : Call} {outcome : Outcome call.Value} {r : Record} {components : Components}

/-! ### Calls only add to the cache -/

/-- Nothing on the path has come into the cache, and what was in it is in it still. -/
structure Adds (path : List String) (cache after : Table Components) : Prop where
  apart : path.Disjoint after.keys
  within : cache.Within after

theorem adds_self (hd : path.Disjoint cache.keys) : Adds path cache cache :=
  ⟨hd, cache.within_self⟩

theorem Adds.trans {middle : Table Components} (h : Adds path cache middle)
    (hl : Adds path middle after) : Adds path cache after :=
  ⟨hl.apart, h.within.trans hl.within⟩

/-- What is added below a record that is entered is added, and the record can be stored. -/
theorem Adds.below (h : Adds (path ++ [r.name]) cache after) :
    Adds path cache after ∧ r.name ∉ after.keys := by
  obtain ⟨hpath, hname⟩ := disjoint_concat.mp h.apart
  exact ⟨⟨hpath, h.within⟩, hname⟩

/-- However a call ends, it has only added to the cache. -/
theorem Returns.adds (h : Returns scope path call cache outcome) (hd : path.Disjoint cache.keys) :
    Adds path cache outcome.cache := by
  induction h with
  | found | unknown | remembered | cycle | done | malformed | foreignKey | primitive | enumeration
  | ended => exact adds_self hd
  | target _ _ _ ih | refused _ ih | array _ _ ih | map _ _ ih | reference _ _ _ _ ih
  | passed _ _ ih | stopped _ _ ih | finished _ ih | failed _ ih => exact ih hd
  | built hc hp _ ih =>
      have huncached := Table.find?_eq_none_iff.mp hc
      obtain ⟨hadds, hname⟩ := (ih (disjoint_concat.mpr ⟨hd, huncached⟩)).below
      exact ⟨Table.disjoint_keys_put.mpr ⟨hadds.apart, hp⟩,
        hadds.within.trans (Table.within_put hname _)⟩
  | abandoned hc hp _ ih =>
      exact (ih (disjoint_concat.mpr ⟨hd, Table.find?_eq_none_iff.mp hc⟩)).below.1
  | field _ _ hf hr => exact (hf hd).trans (hr (hf hd).apart)
  | next _ _ _ hr hn => exact (hr hd).trans (hn (hr hd).apart)

/-! ### Calls give what the cache says -/

/-- Names looked up in a cache, where nothing is expanded. -/
def inCache (cache : Table Components) : Expansion.Lookup := fun name => .ok (cache.find? name)

theorem inCache_of_within (h : cache.Within after) (name : String) (found : Components)
    (hf : inCache cache name = .ok (some found)) : inCache after name = .ok (some found) :=
  congrArg Except.ok (h name found (Except.ok.inj hf))

/-- Results that are in a cache, with some names among them. -/
structure Gathers (after : Table Components) (names : List String) (results : Table Components) :
    Prop where
  within : results.Within after
  names : names ⊆ results.keys

/-- What a call gives, as it is read off a cache. -/
def Call.Reads (scope : Scope) (after : Table Components) : (call : Call) → call.Value → Prop
  | .resolve name, found => ∀ components, found = some components → after.find? name = some components
  | .record r, components => after.find? r.name = some components
  | .fields name before rest, components =>
    Expansion.fields scope.enums (inCache after) name before rest = .ok components
  | .type site text, fragment =>
    Expansion.rawType scope.enums (inCache after) site text = .ok fragment
  | .each results rest, found =>
    results.Within after → Gathers after (results.keys ++ rest.map Record.name) found
  | .batch records, found => Gathers after (records.map Record.name) found

theorem Outcome.result_map_eq_ok_iff {f : α → β} {outcome : Outcome α} {value : β} :
    (outcome.map f).result = .ok value ↔ ∃ found, outcome.result = .ok found ∧ f found = value := by
  rcases outcome with ⟨_ | found, after, events⟩
  · exact ⟨nofun, nofun⟩
  · simp [Outcome.map, Except.map]

theorem referenced_eq_ok_iff {site : Site} {written name : List Char}
    {result : Except GenerationError (Option Components)} {fragment : Json} :
    referenced site written name result = .ok fragment ↔
      ∃ components, result = .ok (some components) ∧ Fragment.record components = fragment := by
  rcases result with error | _ | components
  · exact ⟨nofun, nofun⟩
  · exact ⟨nofun, nofun⟩
  · simp [referenced]

theorem Gathers.of_names {names more : List String} {results : Table Components}
    (h : Gathers after names results) (hs : more ⊆ names) : Gathers after more results :=
  ⟨h.within, List.Subset.trans hs h.names⟩

/-- A value that a call gives is the one that is read off the cache it leaves: what it has looked up on
the way is still there. -/
theorem Returns.reads (h : Returns scope path call cache outcome) (hd : path.Disjoint cache.keys)
    {value : call.Value} (hv : outcome.result = .ok value) : call.Reads scope outcome.cache value := by
  induction h with
  | found h =>
      cases hv
      rintro _ ⟨⟩
      exact h
  | unknown =>
      cases hv
      rintro _ ⟨⟩
  | target hc ht _ ih =>
      obtain ⟨components, hr, rfl⟩ := Outcome.result_map_eq_ok_iff.mp hv
      obtain ⟨-, rfl⟩ := Scope.target?_eq_some ht
      rintro _ ⟨⟩
      exact ih hd hr
  | remembered h =>
      cases hv
      exact h
  | built =>
      cases hv
      rw [Call.Reads, Table.find?_put, if_pos rfl]
  | done =>
      cases hv
      rfl
  | @field _ _ _ _ _ fragment _ _ _ _ hf hr ihf ihr =>
      -- The type was mapped from an earlier cache than the one that the other fields leave.
      have hadds := hf.adds hd
      have hlater := (hr.adds hadds.apart).within
      have hraw := Expansion.rawType_kept (inCache_of_within hlater) _ _ fragment (ihf hd rfl)
      exact bind_eq_ok_iff.mpr ⟨fragment, hraw, ihr hadds.apart hv⟩
  | array h _ ih =>
      obtain ⟨fragment, hr, rfl⟩ := Outcome.result_map_eq_ok_iff.mp hv
      rw [Call.Reads, Expansion.rawType_of_array h]
      exact bind_eq_ok_iff.mpr ⟨fragment, ih hd hr, rfl⟩
  | map h _ ih =>
      obtain ⟨fragment, hr, rfl⟩ := Outcome.result_map_eq_ok_iff.mp hv
      rw [Call.Reads, Expansion.rawType_of_map h, if_pos rfl]
      exact bind_eq_ok_iff.mpr ⟨fragment, ih hd hr, rfl⟩
  | primitive h hp =>
      cases hv
      rw [Call.Reads, Expansion.rawType_of_named h, Expansion.leaf, hp]
      rfl
  | enumeration h hp he =>
      cases hv
      rw [Call.Reads, Expansion.rawType_of_named h, Expansion.leaf, hp, he]
      rfl
  | reference h hp he _ ih =>
      obtain ⟨components, hr, rfl⟩ := referenced_eq_ok_iff.mp hv
      have hfound := ih hd hr components rfl
      rw [Call.Reads, Expansion.rawType_of_named h, Expansion.leaf, hp, he]
      exact bind_eq_ok_iff.mpr ⟨some components, congrArg Except.ok hfound, rfl⟩
  | ended =>
      cases hv
      exact fun hw => ⟨hw, by simp⟩
  | passed h _ ih =>
      refine fun hw => (ih hd hv hw).of_names ?_
      rw [List.map_cons]
      refine List.append_subset_of_subset_of_subset (List.subset_append_left _ _) ?_
      exact List.cons_subset.mpr ⟨List.mem_append_left _ h, List.subset_append_right _ _⟩
  | next _ hr hn ihr ihn =>
      intro hw
      have hadds := hr.adds hd
      have hfound := (hn.adds hadds.apart).within _ _ (ihr hd rfl)
      refine (ihn hadds.apart hv (hw.put hfound)).of_names fun name hm => ?_
      rw [List.mem_append, Table.mem_keys_put]
      rw [List.mem_append, List.map_cons, List.mem_cons] at hm
      rwa [or_assoc]
  | finished _ ih =>
      cases hv
      exact ih hd rfl Table.within_nil
  | _ => cases hv

/-! ### One entry after the other -/

/-- A record is not in the cache when it has its turn, and leaves its entry there behind the earlier
ones. -/
def Fills (scope : Scope) (earlier : Table Components) (r : Record) (components : Components) : Prop :=
  ∃ path before events, path.Disjoint before.keys ∧ before.find? r.name = none ∧
    Returns scope path (.record r) before ⟨.ok components, earlier ++ [(r.name, components)], events⟩

theorem Returns.built_of_uncached {outcome : Outcome Components}
    (h : Returns scope path (.record r) cache outcome) (hc : cache.find? r.name = none)
    (hv : outcome.result = .ok components) :
    ∃ after events, Returns scope (path ++ [r.name]) (.fields r.name {} r.fields) cache
      ⟨.ok components, after, events⟩ ∧ outcome.cache = after.put r.name components := by
  cases h with
  | remembered hf =>
      rw [hc] at hf
      cases hf
  | cycle => cases hv
  | built _ _ h =>
      cases hv
      exact ⟨_, _, h, rfl⟩
  | abandoned => cases hv

/-- An entry is what the fields of its record expand to over the entries before it. -/
theorem Fills.fields_eq (h : Fills scope earlier r components) : r.name ∉ earlier.keys ∧
    Expansion.fields scope.enums (inCache earlier) r.name {} r.fields = .ok components := by
  obtain ⟨path, before, events, hd, hc, h⟩ := h
  obtain ⟨after, events, hf, hcache⟩ := h.built_of_uncached hc rfl
  have hbelow := disjoint_concat.mpr ⟨hd, Table.find?_eq_none_iff.mp hc⟩
  have hname := (hf.adds hbelow).below.2
  rw [Table.put_of_not_mem hname] at hcache
  obtain ⟨rfl, -⟩ := List.append_inj' hcache rfl
  exact ⟨hname, hf.reads hbelow rfl⟩

/-- A cache in which every entry is that of a known record and was put behind those before. -/
inductive Chronicle (scope : Scope) (known : List Record) : Table Components → Prop
  | start : Chronicle scope known []
  | entry {earlier : Table Components} {r : Record} {components : Components}
      (h : Chronicle scope known earlier) (hk : r ∈ known) (hf : Fills scope earlier r components) :
      Chronicle scope known (earlier ++ [(r.name, components)])

namespace Chronicle

variable {known wider : List Record}

theorem mono (h : Chronicle scope known cache) (hk : known ⊆ wider) :
    Chronicle scope wider cache := by
  induction h with
  | start => exact .start
  | entry _ hr hf ih => exact .entry ih (hk hr) hf

theorem nodup_keys (h : Chronicle scope known cache) : cache.keys.Nodup := by
  induction h with
  | start => exact List.nodup_nil
  | @entry earlier r components _ _ hf ih =>
      have hkeys := ih.concat hf.fields_eq.1
      rw [List.concat_eq_append] at hkeys
      rw [Table.keys, List.map_append]
      exact hkeys

theorem exists_fills {name : String} {later : Table Components} (h : Chronicle scope known cache)
    (he : cache = earlier ++ (name, components) :: later) :
    ∃ r ∈ known, r.name = name ∧ Fills scope earlier r components := by
  induction h generalizing later with
  | start => exact absurd he.symm (List.append_ne_nil_of_right_ne_nil _ (List.cons_ne_nil _ _))
  | @entry front r last _ hr hf ih =>
      rcases List.eq_nil_or_concat later with rfl | ⟨middle, entry, rfl⟩
      · obtain ⟨rfl, hentry⟩ := List.append_inj' he rfl
        cases hentry
        exact ⟨r, hr, rfl, hf⟩
      · rw [List.concat_eq_append, ← List.cons_append, ← List.append_assoc] at he
        obtain ⟨hfront, -⟩ := List.append_inj' he rfl
        exact ih hfront

end Chronicle

/-- The records that a call is given. -/
def Call.records : Call → List Record
  | .record r => [r]
  | .each _ rest => rest
  | .batch records => records
  | _ => []

/-- A call, however it ends, puts entries behind those that are there. -/
theorem Returns.chronicle {known : List Record} (h : Returns scope path call cache outcome)
    (hd : path.Disjoint cache.keys) (ht : scope.targets ⊆ known) (hk : call.records ⊆ known)
    (hc : Chronicle scope known cache) : Chronicle scope known outcome.cache := by
  induction h with
  | target _ hs _ ih =>
      exact ih hd (List.cons_subset.mpr ⟨ht (Scope.target?_eq_some hs).1, List.nil_subset _⟩) hc
  | @built path cache after components _ r hcache hp h ih =>
      have hbelow := disjoint_concat.mpr ⟨hd, Table.find?_eq_none_iff.mp hcache⟩
      have hput := Table.put_of_not_mem (h.adds hbelow).below.2 components
      have hreturns := Returns.built hcache hp h
      rw [hput] at hreturns
      change Chronicle scope known (after.put r.name components)
      rw [hput]
      exact .entry (ih hbelow (List.nil_subset _) hc) (hk List.mem_cons_self)
        ⟨path, cache, _, hd, hcache, hreturns⟩
  | abandoned hcache hp _ ih =>
      exact ih (disjoint_concat.mpr ⟨hd, Table.find?_eq_none_iff.mp hcache⟩) (List.nil_subset _) hc
  | field hf _ ihf ihr =>
      exact ihr (hf.adds hd).apart (List.nil_subset _) (ihf hd (List.nil_subset _) hc)
  | refused _ ih | array _ _ ih | map _ _ ih | reference _ _ _ _ ih =>
      exact ih hd (List.nil_subset _) hc
  | passed _ _ ih => exact ih hd (List.cons_subset.mp hk).2 hc
  | next _ hr _ ihr ihn =>
      obtain ⟨hfirst, hrest⟩ := List.cons_subset.mp hk
      have hmiddle := ihr hd (List.cons_subset.mpr ⟨hfirst, List.nil_subset _⟩) hc
      exact ihn (hr.adds hd).apart hrest hmiddle
  | stopped _ _ ih =>
      exact ih hd (List.cons_subset.mpr ⟨(List.cons_subset.mp hk).1, List.nil_subset _⟩) hc
  | finished _ ih | failed _ ih => exact ih hd hk hc
  | _ => exact hc

end Generation

/-! ### What an entry embeds -/

/-- Below some levels of a property is the object schema of other components. -/
def Components.Embeds (components : Components) (name : String) (levels : List TypeExpr.Level)
    (nested : Components) : Prop :=
  ∃ property reached, components.properties.find? name = some property ∧
    property.inside levels = some reached ∧
    reached.member? "type" = some (.str "object") ∧
    reached.member? "properties" = some (.obj nested.properties) ∧
    reached.member? "required" = some (Fragment.names nested.required)

theorem Field.embeds {field : Field} {levels : List TypeExpr.Level} {components nested : Components}
    (h : components.properties.find? field.name =
      some (field.describe (Fragment.wrap levels (Fragment.record nested)))) :
    components.Embeds field.name levels nested := by
  obtain ⟨reached, hreached, hdeclares⟩ := Dialect.openai.declares_inside field levels nested
  refine ⟨_, reached, h, hreached, hdeclares.type, ?_, hdeclares.required⟩
  have hid : Dialect.openai.properties nested = nested.properties := List.map_id _
  rw [← hid]
  exact hdeclares.properties

namespace Generation

variable {scope : Scope} {earlier : Table Components} {r : Record} {components : Components}

/-- The type of each field leads to a leaf, and a leaf that names a record names one that was there
before. -/
theorem Fills.exists_leaf (h : Fills scope earlier r components) {field : Field}
    (hf : field ∈ r.fields) :
    ∃ leaf, TypeExpr.descend field.rawType.toList = .ok leaf ∧
      (String.ofList leaf.name ∉ primitives.keys → String.ofList leaf.name ∉ scope.enums.keys →
        ∃ nested, earlier.find? (String.ofList leaf.name) = some nested ∧
          ((r.fields.map Field.name).Nodup →
            components.Embeds field.name leaf.levels nested)) := by
  have hfields := Expansion.fields_eq_ok_iff.mp h.fields_eq.2
  obtain ⟨fragment, hraw⟩ := hfields.exists_fits hf
  obtain ⟨leaf, inner, hleaf, hinner, rfl⟩ := Expansion.rawType_eq_ok_iff.mp hraw
  refine ⟨leaf, hleaf, fun hp he => ?_⟩
  obtain ⟨nested, hnested, rfl⟩ := Expansion.leaf_of_target hp he hinner
  refine ⟨nested, Except.ok.inj hnested, fun hn => Field.embeds ?_⟩
  obtain ⟨last, hlast, hfind⟩ := hfields.find?_of_lastIn (Field.lastIn_of_nodup hn hf)
  cases hraw.symm.trans hlast
  exact hfind

end Generation

/-! ### Sessions -/

namespace Generator

open Generation

theorem scope_after {g : Generator} {steps : List Step} (hs : ∀ s ∈ steps, s.declared = []) :
    (g.after steps).scope = g.scope := by
  induction steps generalizing g with
  | nil => rfl
  | cons s rest ih =>
      obtain ⟨hfirst, hrest⟩ := List.forall_mem_cons.mp hs
      refine (ih hrest).trans ?_
      cases s with
      | addEnum _ => cases hfirst
      | _ => rfl

/-- A step puts entries of the batch, of the public list and of what it brings in behind those that
are there. -/
theorem step_chronicle {g : Generator} {known : List Record} (ht : g.targets ⊆ known)
    (hr : g.records ⊆ known) {s : Step} (hs : s.introduced ⊆ known)
    (hc : Chronicle g.scope known g.cache) :
    Chronicle g.scope known (g.step s).generator.cache := by
  have hrun (call : Call) (hk : call.records ⊆ known) :
      Chronicle g.scope known (Generation.run g.scope [] call g.cache).cache :=
    (run_returns g.scope call g.cache).chronicle (List.disjoint_nil_left _) ht hk hc
  cases hcall : g.call? s with
  | some call =>
      rw [g.step_eq_run hcall]
      refine hrun call ?_
      cases s with
      | generate =>
          cases hcall
          exact hr
      | generateRecord record =>
          cases hcall
          exact hs
      | resolve _ | mapType _ _ =>
          cases hcall
          exact List.nil_subset _
      | _ => cases hcall
  | none =>
      cases s with
      | format _ _ | addEnum _ | appendRecord _ => exact hc
      | _ => cases hcall

theorem chronicle_after {g : Generator} (hr : g.records = g.targets) (hc : g.cache = [])
    {steps : List Step} (hs : ∀ s ∈ steps, s.declared = []) :
    Chronicle g.scope (g.targets ++ steps.flatMap Step.introduced) (g.after steps).cache := by
  induction steps using List.reverseRecOn with
  | nil =>
      rw [show (g.after []).cache = [] from hc]
      exact .start
  | append_singleton earlier s ih =>
      have hearlier : ∀ step ∈ earlier, step.declared = [] :=
        fun step hm => hs step (List.mem_append_left [s] hm)
      have hscope : (g.after earlier).scope = g.scope := scope_after hearlier
      have hkept := keepsTo_after hr hc earlier
      rw [List.flatMap_append, List.flatMap_singleton, ← List.append_assoc]
      have hbefore := (ih hearlier).mono (List.subset_append_left _ s.introduced)
      rw [after_append]
      rw [← hscope] at hbefore ⊢
      exact step_chronicle (fun r hm => List.mem_append_left _ (hkept.targets r hm))
        (fun r hm => List.mem_append_left _ (hkept.records r hm))
        (List.subset_append_right _ _) hbefore

end Generator

open Generator Generation

/-- As long as no enumeration is added, a session leaves a cache in an order of dependency. Each entry
is that of a record of its name, from the batch or brought in, that was not in the cache on its turn. The
type of each of its fields leads to a leaf; a leaf that is neither a primitive nor an enumeration names
an entry before this one, and if the names of the fields are distinct, the property has the object
schema of that entry below the levels of the type. -/
theorem cache_is_in_dependency_order {records : List Record} {enums : Table Enumeration}
    {g : Generator} (hg : ofBatch records enums = .ok g) {steps : List Step}
    (hs : ∀ s ∈ steps, s.declared = []) :
    let cache := (g.after steps).cache
    cache.keys.Nodup ∧
    ∀ earlier name components later, cache = earlier ++ (name, components) :: later →
      (∃ r ∈ records ++ steps.flatMap Step.introduced, r.name = name ∧
        Fills g.scope earlier r components) ∧
      ∀ r, Fills g.scope earlier r components → ∀ field ∈ r.fields,
        ∃ leaf, TypeExpr.descend field.rawType.toList = .ok leaf ∧
          (String.ofList leaf.name ∉ primitives.keys → String.ofList leaf.name ∉ enums.keys →
            ∃ nested, earlier.find? (String.ofList leaf.name) = some nested ∧
              cache.find? (String.ofList leaf.name) = some nested ∧
              ((r.fields.map Field.name).Nodup →
                components.Embeds field.name leaf.levels nested)) := by
  intro cache
  obtain ⟨hr, rfl, rfl, hc⟩ := eq_of_ofBatch hg
  have hchronicle := chronicle_after hr hc hs
  refine ⟨hchronicle.nodup_keys, fun earlier name components later he => ?_⟩
  refine ⟨hchronicle.exists_fills he, fun r hf field hm => ?_⟩
  obtain ⟨leaf, hleaf, hreferred⟩ := hf.exists_leaf hm
  refine ⟨leaf, hleaf, fun hp hn => ?_⟩
  obtain ⟨nested, hnested, hembeds⟩ := hreferred hp hn
  have hwithin : earlier.Within cache := by
    rw [he]
    exact Table.within_of_prefix (List.prefix_append _ _)
  exact ⟨nested, hnested, hwithin _ _ hnested, hembeds⟩

/-- A record that fails behind its first field. -/
def lost : Record :=
  { name := "Lost", fields := [⟨"from", "Place", none, false⟩, ⟨"to", "Nowhere", none, false⟩] }

/-- `Place` is there since a record failed that needed it, before a visitor refers to it. -/
theorem traveller_cache_in_order :
    ofBatch (journey "[Place]") modes = .ok traveller ∧
      (∀ s ∈ [Step.generateRecord lost, .generateRecord visitor], s.declared = []) ∧
      ∃ place components,
        (traveller.after [.generateRecord lost, .generateRecord visitor]).cache =
          [("Place", place), ("Visitor", components)] ∧
        components.Embeds "at" [] place := by
  have hg : ofBatch (journey "[Place]") modes = .ok traveller := ofBatch_of_nodup modes (by decide)
  have hs : ∀ s ∈ [Step.generateRecord lost, .generateRecord visitor], s.declared = [] := by
    simp [Step.declared]
  have hkeys : (traveller.after [.generateRecord lost, .generateRecord visitor]).cache.keys =
      ["Place", "Visitor"] := by decide +kernel
  obtain ⟨-, horder⟩ := cache_is_in_dependency_order hg hs
  refine ⟨hg, hs, ?_⟩
  generalize (traveller.after [.generateRecord lost, .generateRecord visitor]).cache = cache
    at hkeys horder ⊢
  obtain ⟨⟨_, place⟩, rest, rfl, rfl, hrest⟩ := List.map_eq_cons_iff.mp hkeys
  obtain ⟨⟨_, components⟩, none, rfl, rfl, hnone⟩ := List.map_eq_cons_iff.mp hrest
  cases List.map_eq_nil_iff.mp hnone
  obtain ⟨⟨r, hr, hname, hfills⟩, hentry⟩ := horder [("Place", place)] "Visitor" components [] rfl
  have hall : ∀ r ∈ journey "[Place]" ++ [lost, visitor], r.name = "Visitor" → r = visitor := by
    decide
  cases hall r hr hname
  obtain ⟨leaf, hleaf, hreferred⟩ := hentry visitor hfills _ List.mem_cons_self
  have hplace : TypeExpr.descend "Place".toList = .ok ⟨[], "Place".toList, "Place".toList⟩ := by cbv
  cases hplace.symm.trans hleaf
  obtain ⟨nested, hnested, -, hembeds⟩ := hreferred (by decide) (by decide)
  cases hnested
  exact ⟨place, components, rfl, hembeds (by decide)⟩

end ToolSchema
