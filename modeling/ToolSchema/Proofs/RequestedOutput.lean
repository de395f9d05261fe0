import ToolSchema.Proofs.ReportedErrors
import ToolSchema.Proofs.Selections

/-! What a document depends on. Enumerations are looked up only by leaves, a leaf is a part of the type it
stands in, and records are looked up only among the targets. So a generation asks a table of enumerations
for nothing but names that stand in the types of its targets, at whatever depth they are asked for, and two
tables that agree on those lead to the same computation: on every cache the same result, the same cache and
the same events. -/

namespace ToolSchema

/-- Two tables that hold the same under every name that is asked for. -/
def Table.AgreeOn {α : Type} (asked : String → Prop) (table other : Table α) : Prop :=
  ∀ name, asked name → table.find? name = other.find? name

theorem Table.AgreeOn.mono {α : Type} {asked fewer : String → Prop} {table other : Table α}
    (h : AgreeOn asked table other) (hf : ∀ name, fewer name → asked name) :
    AgreeOn fewer table other := fun name hn => h name (hf name hn)

/-- The name stands in the text. -/
def StandsIn (text name : String) : Prop := name.toList <:+: text.toList

/-- The name stands in the type of a field. -/
def Record.Mentions (record : Record) (name : String) : Prop :=
  ∃ field ∈ record.fields, StandsIn field.rawType name

theorem TypeExpr.leaf_standsIn {text : String} {leaf : Leaf} (h : descend text.toList = .ok leaf) :
    StandsIn text (String.ofList leaf.name) := by
  have hends := descend_ends text.toList
  rw [h] at hends
  obtain ⟨hwritten, optional, hs⟩ := hends
  rw [StandsIn, String.toList_ofList]
  exact (infix_of_shape hs).trans hwritten

/-! ### Generation under two tables -/

namespace Generation

variable {enums others : Table Enumeration}

theorem leafFragment_congr {leaf : TypeExpr.Leaf}
    (h : enums.find? (String.ofList leaf.name) = others.find? (String.ofList leaf.name))
    (resolver : Resolver) (site : Site) :
    leafFragment enums resolver site leaf = leafFragment others resolver site leaf := by
  unfold leafFragment
  dsimp only
  rw [h]

theorem mapType_congr {rawType : String} (h : Table.AgreeOn (StandsIn rawType) enums others)
    (resolver : Resolver) (site : Site) :
    mapType enums resolver site rawType = mapType others resolver site rawType := by
  unfold mapType
  split
  · rfl
  · rfl
  · rename_i leaf hleaf
    rw [leafFragment_congr (h _ (TypeExpr.leaf_standsIn hleaf))]

theorem mapFields_congr {fields : List Field}
    (h : ∀ field ∈ fields, Table.AgreeOn (StandsIn field.rawType) enums others)
    (resolver : Resolver) (record : String) (components : Components) :
    mapFields enums resolver record components fields =
      mapFields others resolver record components fields := by
  induction fields generalizing components with
  | nil => rfl
  | cons field rest ih =>
      rw [mapFields, mapFields, mapType_congr (h field List.mem_cons_self)]
      congr 1
      funext fragment
      exact ih (fun other ho => h other (List.mem_cons_of_mem field ho)) _

theorem build_congr {record : Record} (h : Table.AgreeOn record.Mentions enums others)
    (resolver : Resolver) : build enums resolver record = build others resolver record := by
  rw [build, build, mapFields_congr fun field hf => h.mono fun name hn => ⟨field, hf, hn⟩]

variable {targets : List Record}

/-- Where the tables agree on what the targets mention, they agree on a target and on all that it leads
to: the path of records in progress gets longer by a target each time. -/
theorem resolve_congr (h : ∀ r ∈ targets, Table.AgreeOn r.Mentions enums others)
    (path : List String) : resolve ⟨targets, enums⟩ path = resolve ⟨targets, others⟩ path := by
  induction hn : Scope.unvisited ⟨targets, enums⟩ path using Nat.strong_induction_on
    generalizing path with
  | h n ih =>
      have hfetch (name : String) :
          fetch ⟨targets, enums⟩ path name = fetch ⟨targets, others⟩ path name := by
        unfold fetch
        cases ht : Scope.target? ⟨targets, enums⟩ name with
        | none =>
            rw [show Scope.target? ⟨targets, others⟩ name = none from ht]
        | some record =>
            obtain ⟨hr, -⟩ := Scope.target?_eq_some ht
            rw [show Scope.target? ⟨targets, others⟩ name = some record from ht]
            dsimp only
            split
            · rfl
            · rename_i hp
              rw [build_congr (h record hr), ih _ (hn ▸ Scope.unvisited_lt hr hp) _ rfl]
      funext name
      rw [resolve_eq, resolve_eq, hfetch]

theorem generateRecord_congr (h : ∀ r ∈ targets, Table.AgreeOn r.Mentions enums others)
    {record : Record} (hr : record ∈ targets) :
    generateRecord ⟨targets, enums⟩ record = generateRecord ⟨targets, others⟩ record := by
  rw [generateRecord, generateRecord, build_congr (h record hr), resolve_congr h]

theorem generateEach_congr (h : ∀ r ∈ targets, Table.AgreeOn r.Mentions enums others)
    {records : List Record} (hsub : records ⊆ targets) (results : Table Components) :
    generateEach ⟨targets, enums⟩ results records =
      generateEach ⟨targets, others⟩ results records := by
  induction records generalizing results with
  | nil => rfl
  | cons record rest ih =>
      obtain ⟨hr, hrest⟩ := List.cons_subset.mp hsub
      rw [generateEach, generateEach, generateRecord_congr h hr]
      simp only [ih hrest]

theorem generate_congr (h : ∀ r ∈ targets, Table.AgreeOn r.Mentions enums others) :
    generate ⟨targets, enums⟩ targets = generate ⟨targets, others⟩ targets := by
  rw [generate, generate, generateEach_congr h (List.Subset.refl targets)]

end Generation

theorem generateLogged_of_nodup {targets : List Record} (hd : (targets.map Record.name).Nodup)
    (enums : Table Enumeration) :
    generateLogged targets enums =
      ⟨(Generation.generate ⟨targets, enums⟩ targets []).result,
        (Generation.generate ⟨targets, enums⟩ targets []).events.filterMap
          Generation.Event.entry?⟩ := by
  rw [generateLogged, Generator.ofBatch_of_nodup enums hd]
  rfl

theorem buildDocument_congr {targets : List Record} {enums others : Table Enumeration}
    (hd : (targets.map Record.name).Nodup)
    (h : ∀ r ∈ targets, Table.AgreeOn r.Mentions enums others) (format : String) :
    buildDocument targets enums format = buildDocument targets others format := by
  rw [buildDocument, buildDocument, generateLogged_of_nodup hd, generateLogged_of_nodup hd,
    Generation.generate_congr h]

/-! ### Requests to two sets -/

namespace DescriptorSet

variable {set other : DescriptorSet} {names : List String}

theorem select_congr (h : ∀ name ∈ names, set.record? name = other.record? name) :
    set.select names = other.select names := by
  have hname : ∀ name ∈ firsts id names, set.record? name = other.record? name :=
    fun name hn => h name (mem_firstsAfter hn).1
  rw [select, select]
  congr 1
  · exact List.filterMap_congr hname
  · exact List.filter_congr fun name hn => by rw [hname name hn]

/-- What comes of a request depends on what is requested. Two sets in which the names of a request have
the same records, and in which everything that stands in the types of these records means the same
enumeration or none, give the same targets and missing names, and in every format the same document or
the same error, with the same log. Nothing is seen of other records, of other enumerations or of the order
of either. -/
theorem output_depends_on_request (hd : set.recordNames.Nodup) (ho : other.recordNames.Nodup)
    (hr : ∀ r, r.name ∈ names → (r ∈ set.records ↔ r ∈ other.records))
    (he : ∀ r ∈ set.records, r.name ∈ names → Table.AgreeOn r.Mentions set.enums other.enums) :
    set.select names = other.select names ∧
      ∀ format, buildDocument (set.select names).targets set.enums format =
        buildDocument (other.select names).targets other.enums format := by
  have hselect : set.select names = other.select names := by
    refine select_congr fun name hn => Option.ext fun r => ?_
    rw [record?_eq_some_iff hd, record?_eq_some_iff ho]
    constructor
    · rintro ⟨hm, rfl⟩
      exact ⟨(hr r hn).mp hm, rfl⟩
    · rintro ⟨hm, rfl⟩
      exact ⟨(hr r hn).mpr hm, rfl⟩
  refine ⟨hselect, fun format => ?_⟩
  rw [← hselect]
  refine buildDocument_congr (set.nodup_targets names) (fun r ht => ?_) format
  obtain ⟨hm, hn⟩ := (mem_targets_iff hd).mp ht
  exact he r hm hn

/-- The timetable the other way round, among records and enumerations of its own. -/
def depotSet : DescriptorSet where
  records := { name := "Depot", fields := [⟨"at", "[Place", none, false⟩] } ::
    timetableSet.records.reverse
  enums := ("Fare", ⟨"Fare", none, [⟨"day", none⟩]⟩) :: timetableSet.enums

theorem depot_timetable_output :
    timetableSet.select ["Leg", "Place", "Nobody"] = depotSet.select ["Leg", "Place", "Nobody"] ∧
      ∀ format,
        buildDocument (timetableSet.select ["Leg", "Place", "Nobody"]).targets timetableSet.enums
            format =
          buildDocument (depotSet.select ["Leg", "Place", "Nobody"]).targets depotSet.enums
            format := by
  refine output_depends_on_request (by decide) (by decide) (fun r hn => ?_) fun r hr hn name hm => ?_
  · have hne : ¬"Depot" ∈ ["Leg", "Place", "Nobody"] := by decide
    rw [depotSet, List.mem_cons, List.mem_reverse]
    refine ⟨Or.inr, fun h => h.resolve_left ?_⟩
    rintro rfl
    exact hne hn
  · have hfare : ∀ r ∈ timetableSet.records, r.name ∈ ["Leg", "Place", "Nobody"] →
        ∀ field ∈ r.fields, ¬"Fare".toList <:+: field.rawType.toList := by decide +kernel
    rw [depotSet, Table.find?_cons, if_neg]
    rintro rfl
    obtain ⟨field, hf, hi⟩ := hm
    exact hfare r hr hn field hf hi

end DescriptorSet

end ToolSchema
