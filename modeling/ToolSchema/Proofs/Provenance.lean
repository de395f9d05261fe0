import ToolSchema.Proofs.FieldComponents
import ToolSchema.Proofs.Memoisation
import ToolSchema.Proofs.SessionOrder

/-! Where the entries of a cache come from. A rule says what holds of the fragments and of the entries
that are put together from them; whatever a generator does, its cache and its answers keep to the rule
as long as the records and the enumerations it is given are known to the rule. So an entry is always
built from the fields of a record of its name. That need not be a target: the cache is asked before the
targets are, so a record that a session brings in can be resolved by its name, also in place of a
target. -/

namespace ToolSchema

namespace Generation

/-- What fragments mean and what entries hold. An entry is built from the fields of a known record, and
it is a fragment wherever it is referred to. -/
structure Rule where
  Known : Record → Prop
  Declared : Enumeration → Prop
  Means : Json → Prop
  Entry : String → Components → Prop
  primitive : ∀ name p, primitives.find? name = some p → Means (Fragment.primitive p)
  enumeration : ∀ e, Declared e → Means e.fragment
  level : ∀ level fragment, Means fragment → Means (Fragment.level level fragment)
  reference : ∀ name components, Entry name components → Means (Fragment.record components)
  built : ∀ record components, Known record →
    Components.Extends (fun _ => Means) {} record.fields components → Entry record.name components

variable {α β : Type} {rule : Rule} {cache : Table Components}

namespace Rule

def Holds (rule : Rule) (cache : Table Components) : Prop :=
  ∀ name components, cache.find? name = some components → rule.Entry name components

def Declares (rule : Rule) (enums : Table Enumeration) : Prop :=
  ∀ name e, enums.find? name = some e → rule.Declared e

/-- On a cache that keeps to the rule a computation leaves such a cache, however it ends, and gives such
a value. -/
def Maintains (rule : Rule) (post : α → Prop) (computation : Generation α) : Prop :=
  ∀ cache, rule.Holds cache → rule.Holds (computation cache).cache ∧
    ∀ value, (computation cache).result = .ok value → post value

theorem holds_nil : rule.Holds [] := nofun

theorem holds_put {name : String} {components : Components} (h : rule.Holds cache)
    (he : rule.Entry name components) : rule.Holds (cache.put name components) := by
  intro other found hf
  rw [Table.find?_put] at hf
  split at hf
  · rename_i hn
    cases hf
    exact hn ▸ he
  · exact h other found hf

theorem declares_put {enums : Table Enumeration} (h : rule.Declares enums) {e : Enumeration}
    (he : rule.Declared e) : rule.Declares (enums.put e.name e) := by
  intro other found hf
  rw [Table.find?_put] at hf
  split at hf
  · cases hf
    exact he
  · exact h other found hf

/-! ### Computations -/

theorem ok_maintains {post : α → Prop} {value : α} (h : post value) :
    rule.Maintains post (ok value) :=
  fun _ hc => ⟨hc, fun _ hv => Except.ok.inj hv ▸ h⟩

theorem fail_maintains {post : α → Prop} (error : GenerationError) :
    rule.Maintains post (fail error : Generation α) :=
  fun _ hc => ⟨hc, nofun⟩

theorem note_maintains (event : Event) : rule.Maintains (fun _ => True) (note event) :=
  fun _ hc => ⟨hc, fun _ _ => trivial⟩

theorem cached?_maintains (name : String) :
    rule.Maintains (fun found => ∀ components ∈ found, rule.Entry name components) (cached? name) :=
  fun _ hc => ⟨hc, fun _ hv components hm => hc name components (Except.ok.inj hv ▸ hm)⟩

theorem store_maintains {name : String} {components : Components}
    (h : rule.Entry name components) : rule.Maintains (fun _ => True) (store name components) :=
  fun _ hc => ⟨holds_put hc h, fun _ _ => trivial⟩

theorem within_maintains {post : α → Prop} {body : Generation α} (name : String)
    (h : rule.Maintains post body) : rule.Maintains post (within name body) :=
  fun cache hc => h cache hc

theorem bind_maintains {middle : α → Prop} {post : β → Prop} {first : Generation α}
    {next : α → Generation β} (hf : rule.Maintains middle first)
    (hn : ∀ value, middle value → rule.Maintains post (next value)) :
    rule.Maintains post (first >>= next) := by
  intro cache hc
  obtain ⟨hcache, hvalue⟩ := hf cache hc
  rcases hr : first cache with ⟨result, after, events⟩
  rw [hr] at hcache hvalue
  cases result with
  | error error =>
      rw [bind_of_error hr]
      exact ⟨hcache, nofun⟩
  | ok value =>
      rw [bind_of_ok hr]
      exact hn value (hvalue value rfl) after hcache

/-! ### Generation -/

section Mapping

variable {enums : Table Enumeration} {resolver : Resolver}

/-- What a resolver finds under a name is an entry of the name. -/
def Finds (rule : Rule) (resolver : Resolver) : Prop :=
  ∀ name, rule.Maintains (fun found => ∀ components ∈ found, rule.Entry name components)
    (resolver name)

theorem means_wrap {fragment : Json} (h : rule.Means fragment) (levels : List TypeExpr.Level) :
    rule.Means (Fragment.wrap levels fragment) := by
  induction levels with
  | nil => exact h
  | cons level rest ih => exact rule.level level _ ih

theorem leafFragment_maintains (he : rule.Declares enums) (hr : rule.Finds resolver) (site : Site)
    (leaf : TypeExpr.Leaf) : rule.Maintains rule.Means (leafFragment enums resolver site leaf) := by
  unfold leafFragment
  dsimp only
  split
  · rename_i p hp
    exact ok_maintains (rule.primitive _ p hp)
  · split
    · rename_i e hf
      exact ok_maintains (rule.enumeration e (he _ e hf))
    · apply bind_maintains (hr _)
      intro found hf
      cases found with
      | some components => exact ok_maintains (rule.reference _ components (hf components rfl))
      | none =>
          dsimp only
          split
          · exact fail_maintains _
          · exact fail_maintains _

theorem mapType_maintains (he : rule.Declares enums) (hr : rule.Finds resolver) (site : Site)
    (rawType : String) : rule.Maintains rule.Means (mapType enums resolver site rawType) := by
  unfold mapType
  split
  · exact fail_maintains _
  · exact fail_maintains _
  · rename_i leaf _
    apply bind_maintains (leafFragment_maintains he hr site leaf)
    intro fragment hf
    exact ok_maintains (means_wrap hf leaf.levels)

theorem mapFields_maintains (he : rule.Declares enums) (hr : rule.Finds resolver) (record : String)
    (components : Components) (fields : List Field) :
    rule.Maintains (Components.Extends (fun _ => rule.Means) components fields)
      (mapFields enums resolver record components fields) := by
  induction fields generalizing components with
  | nil => exact ok_maintains .done
  | cons field rest ih =>
      rw [mapFields]
      apply bind_maintains (mapType_maintains he hr _ _)
      intro fragment hf cache hc
      obtain ⟨hcache, hvalue⟩ := ih (components.add field fragment) cache hc
      exact ⟨hcache, fun after ha => .add hf (hvalue after ha)⟩

theorem build_maintains (he : rule.Declares enums) (hr : rule.Finds resolver) {record : Record}
    (hk : rule.Known record) :
    rule.Maintains (rule.Entry record.name) (build enums resolver record) := by
  unfold build
  apply bind_maintains (within_maintains _ (mapFields_maintains he hr record.name {} record.fields))
  intro components hx
  have hentry := rule.built record components hk hx
  exact bind_maintains (store_maintains hentry) fun _ _ => ok_maintains hentry

end Mapping

variable {scope : Scope}

theorem resolve_finds (he : rule.Declares scope.enums) (hk : ∀ r ∈ scope.targets, rule.Known r)
    (path : List String) : rule.Finds (resolve scope path) := by
  induction hn : scope.unvisited path using Nat.strongRecOn generalizing path with
  | _ n ih =>
      subst hn
      intro name
      rw [resolve_eq]
      apply bind_maintains (cached?_maintains name)
      intro found hf
      cases found with
      | some components => exact ok_maintains hf
      | none =>
          unfold fetch
          dsimp only
          split
          · exact ok_maintains nofun
          · rename_i record ht
            obtain ⟨hmem, rfl⟩ := Scope.target?_eq_some ht
            split
            · exact bind_maintains (note_maintains _) fun _ _ => fail_maintains _
            · rename_i hp
              have hfinds := ih _ (Scope.unvisited_lt hmem hp) (path ++ [record.name]) rfl
              apply bind_maintains (build_maintains he hfinds (hk record hmem))
              intro components hentry
              refine ok_maintains fun other ho => ?_
              cases ho
              exact hentry

theorem generateRecord_maintains (he : rule.Declares scope.enums)
    (hk : ∀ r ∈ scope.targets, rule.Known r) {record : Record} (hr : rule.Known record) :
    rule.Maintains (rule.Entry record.name) (generateRecord scope record) := by
  unfold generateRecord
  apply bind_maintains (cached?_maintains record.name)
  intro found hf
  cases found with
  | some components => exact ok_maintains (hf components rfl)
  | none => exact build_maintains he (resolve_finds he hk [record.name]) hr

theorem generateEach_maintains (he : rule.Declares scope.enums)
    (hk : ∀ r ∈ scope.targets, rule.Known r) {results : Table Components} {records : List Record}
    (hr : ∀ r ∈ records, rule.Known r) (hs : rule.Holds results) :
    rule.Maintains rule.Holds (generateEach scope results records) := by
  induction records generalizing results with
  | nil => exact ok_maintains hs
  | cons record rest ih =>
      obtain ⟨hrecord, hrest⟩ := List.forall_mem_cons.mp hr
      by_cases hm : record.name ∈ results.keys
      · rw [generateEach_cons_of_mem hm]
        exact ih hrest hs
      intro cache hc
      obtain ⟨hcache, hvalue⟩ := generateRecord_maintains he hk hrecord cache hc
      rcases ho : generateRecord scope record cache with ⟨result, middle, events⟩
      rw [ho] at hcache hvalue
      cases result with
      | error error =>
          rw [generateEach_cons_of_error hm ho]
          exact ⟨hcache, nofun⟩
      | ok components =>
          rw [generateEach_cons_of_ok hm ho]
          exact ih hrest (holds_put hs (hvalue components rfl)) middle hcache

theorem generate_maintains (he : rule.Declares scope.enums) (hk : ∀ r ∈ scope.targets, rule.Known r)
    {records : List Record} (hr : ∀ r ∈ records, rule.Known r) :
    rule.Maintains rule.Holds (generate scope records) := by
  unfold generate
  apply bind_maintains (note_maintains _)
  intro _ _
  apply bind_maintains (generateEach_maintains he hk hr holds_nil)
  intro results hs
  exact bind_maintains (note_maintains _) fun _ _ => ok_maintains hs

end Rule

end Generation

/-! ### Sessions -/

namespace Generator

open Generation

/-- The records that a step brings in. -/
def Step.introduced : Step → List Record
  | .generateRecord record => [record]
  | .appendRecord record => [record]
  | _ => []

/-- The enumerations that a step brings in. -/
def Step.declared : Step → List Enumeration
  | .addEnum enumeration => [enumeration]
  | _ => []

/-- A generator whose records and enumerations are known and whose cache keeps to the rule. -/
structure KeepsTo (g : Generator) (rule : Rule) : Prop where
  targets : ∀ r ∈ g.targets, rule.Known r
  records : ∀ r ∈ g.records, rule.Known r
  enums : rule.Declares g.enums
  cache : rule.Holds g.cache

/-- All that a step brings in is known to the rule. -/
structure Step.KeepsTo (s : Step) (rule : Rule) : Prop where
  introduced : ∀ r ∈ s.introduced, rule.Known r
  declared : ∀ e ∈ s.declared, rule.Declared e

/-- What an answer gives keeps to the rule. -/
def Answer.KeepsTo (rule : Rule) : Answer → Prop
  | .batch results => rule.Holds results
  | .components found => ∀ components ∈ found, ∃ name, rule.Entry name components
  | .fragment value => rule.Means value
  | .document _ => True
  | .done => True

variable {rule : Rule} {g : Generator}

/-- A computation on the cache of a generator that keeps to the rule gives such a generator, and such an
answer. -/
theorem KeepsTo.run {α : Type} {post : α → Prop} {computation : Generation α} {answer : α → Answer}
    (h : g.KeepsTo rule) (hm : rule.Maintains post computation)
    (hp : ∀ value, post value → (answer value).KeepsTo rule) :
    (g.run answer computation).generator.KeepsTo rule ∧
      ∀ found, (g.run answer computation).answer = .ok found → found.KeepsTo rule := by
  obtain ⟨hcache, hvalue⟩ := hm g.cache h.cache
  refine ⟨{ h with cache := hcache }, fun found hf => ?_⟩
  unfold Generator.run at hf
  dsimp only at hf
  split at hf
  · rename_i value hv
    cases hf
    exact hp value (hvalue value hv)
  · cases hf

theorem KeepsTo.step (h : g.KeepsTo rule) {s : Step} (hs : s.KeepsTo rule) :
    (g.step s).generator.KeepsTo rule ∧
      ∀ found, (g.step s).answer = .ok found → found.KeepsTo rule := by
  have hfinds : rule.Finds (Generation.resolve g.scope []) :=
    Rule.resolve_finds h.enums h.targets []
  cases s with
  | generate => exact h.run (Rule.generate_maintains h.enums h.targets h.records) fun _ hv => hv
  | generateRecord record =>
      have hr := hs.introduced record List.mem_cons_self
      refine h.run (Rule.generateRecord_maintains h.enums h.targets hr) fun components he other ho => ?_
      cases ho
      exact ⟨record.name, he⟩
  | resolve name => exact h.run (hfinds name) fun _ hf components hm => ⟨name, hf components hm⟩
  | mapType rawType site =>
      exact h.run (Rule.mapType_maintains h.enums hfinds site rawType) fun _ hv => hv
  | format format records =>
      refine ⟨h, fun found hf => ?_⟩
      unfold Generator.step at hf
      dsimp only at hf
      split at hf
      · cases hf
        trivial
      · cases hf
  | addEnum enumeration =>
      have hd := Rule.declares_put h.enums (hs.declared enumeration List.mem_cons_self)
      refine ⟨⟨h.targets, h.records, hd, h.cache⟩, fun found hf => ?_⟩
      cases hf
      trivial
  | appendRecord record =>
      refine ⟨{ h with records := fun r hr => ?_ }, fun found hf => ?_⟩
      · rcases List.mem_append.mp hr with hr | hr
        · exact h.records r hr
        · exact hs.introduced r hr
      · cases hf
        trivial

theorem KeepsTo.after (h : g.KeepsTo rule) {steps : List Step}
    (hs : ∀ s ∈ steps, s.KeepsTo rule) : (g.after steps).KeepsTo rule := by
  induction steps generalizing g with
  | nil => exact h
  | cons s rest ih =>
      obtain ⟨hfirst, hrest⟩ := List.forall_mem_cons.mp hs
      exact ih (h.step hfirst).1 hrest

theorem targets_after (g : Generator) (steps : List Step) : (g.after steps).targets = g.targets := by
  induction steps generalizing g with
  | nil => rfl
  | cons s rest ih =>
      refine (ih _).trans ?_
      cases s <;> rfl

/-- A name that is no target is asked of the cache alone. -/
theorem answer_of_untargeted {name : String} (h : name ∉ g.targets.map Record.name) :
    (g.step (.resolve name)).answer = .ok (.components (g.cache.find? name)) := by
  change reply .components (resolve g.scope [] name g.cache).result = _
  cases hc : g.cache.find? name with
  | some components =>
      rw [resolve_of_cached hc]
      rfl
  | none =>
      have ht : g.scope.target? name = none := by
        refine List.find?_eq_none.mpr fun r hr he => h ?_
        exact List.mem_map.mpr ⟨r, hr, of_decide_eq_true he⟩
      rw [resolve_of_uncached hc, fetch_of_unknown ht]
      rfl

end Generator

/-- An entry has the fields of some known record of its name. -/
def Generation.Rule.builtFrom (known : List Record) : Generation.Rule where
  Known := (· ∈ known)
  Declared := fun _ => True
  Means := fun _ => True
  Entry := fun name components => ∃ r ∈ known, r.name = name ∧
    components.properties.keys = (r.fields.map Field.name).eraseDups
  primitive := fun _ _ _ => trivial
  enumeration := fun _ _ => trivial
  level := fun _ _ _ => trivial
  reference := fun _ _ _ => trivial
  built := fun record _ hk hx => ⟨record, hk, rfl, hx.keys_eq List.nodup_nil⟩

namespace Generator

/-- What a session has in its cache is built from the targets and from what the steps bring in. -/
theorem keepsTo_after {g : Generator} (hr : g.records = g.targets) (hc : g.cache = [])
    (steps : List Step) :
    (g.after steps).KeepsTo (.builtFrom (g.targets ++ steps.flatMap Step.introduced)) := by
  have hstart : g.KeepsTo (.builtFrom (g.targets ++ steps.flatMap Step.introduced)) := by
    refine ⟨fun r h => List.mem_append_left _ h, fun r h => ?_, fun _ _ _ => trivial, ?_⟩
    · exact List.mem_append_left _ (hr ▸ h)
    · rw [hc]
      exact Generation.Rule.holds_nil
  refine hstart.after fun s hs => ⟨fun r h => ?_, fun _ _ => trivial⟩
  exact List.mem_append_right _ (List.mem_flatMap.mpr ⟨s, hs, h⟩)

theorem KeepsTo.resolved {known : List Record} {g : Generator} (h : g.KeepsTo (.builtFrom known))
    {name : String} {components : Components}
    (ha : (g.step (.resolve name)).answer = .ok (.components (some components))) :
    ∃ r ∈ known, r.name = name ∧
      components.properties.keys = (r.fields.map Field.name).eraseDups := by
  have hresult := (reply_eq_ok_iff fun _ _ h => by cases h; rfl).mp ha
  have hfinds : Generation.Rule.Finds _ (Generation.resolve g.scope []) :=
    Generation.Rule.resolve_finds h.enums h.targets []
  exact (hfinds name _ h.cache).2 _ hresult components rfl

end Generator

open Generator

/-- After any steps, a name that is no target is resolved as the cache has it, and what is resolved has
the fields of a record of the name, from the batch or brought in by a step. As long as every record that
is brought in under the name is the target itself, only a target is resolved, and as itself. -/
theorem resolved_as_introduced {records : List Record} {enums : Table Enumeration} {g : Generator}
    (hg : ofBatch records enums = .ok g) (steps : List Step) (name : String) :
    let introduced := steps.flatMap Step.introduced
    let answer := ((g.after steps).step (.resolve name)).answer
    (name ∉ records.map Record.name →
      answer = .ok (.components ((g.after steps).cache.find? name))) ∧
    (∀ components, answer = .ok (.components (some components)) →
      ∃ r ∈ records ++ introduced, r.name = name ∧
        components.properties.keys = (r.fields.map Field.name).eraseDups) ∧
    ((∀ r ∈ introduced, r.name = name → r ∈ records) →
      (name ∉ records.map Record.name → answer = .ok (.components none)) ∧
      ∀ components, answer = .ok (.components (some components)) →
        ∃ r ∈ records, r.name = name ∧
          components.properties.keys = (r.fields.map Field.name).eraseDups) := by
  intro introduced answer
  obtain ⟨hr, rfl, -, hc⟩ := eq_of_ofBatch hg
  have hkept : (g.after steps).KeepsTo (.builtFrom (g.targets ++ introduced)) :=
    keepsTo_after hr hc steps
  have huntargeted : name ∉ g.targets.map Record.name →
      answer = .ok (.components ((g.after steps).cache.find? name)) := by
    intro hn
    rw [← targets_after g steps] at hn
    exact answer_of_untargeted hn
  refine ⟨huntargeted, fun components ha => hkept.resolved ha, fun hown => ?_⟩
  have htarget : ∀ components, answer = .ok (.components (some components)) →
      ∃ r ∈ g.targets, r.name = name ∧
        components.properties.keys = (r.fields.map Field.name).eraseDups := by
    intro components ha
    obtain ⟨r, hmem, hname, hkeys⟩ := hkept.resolved ha
    rcases List.mem_append.mp hmem with hmem | hmem
    · exact ⟨r, hmem, hname, hkeys⟩
    · exact ⟨r, hown r hmem hname, hname, hkeys⟩
  refine ⟨fun hn => ?_, htarget⟩
  rw [huntargeted hn]
  cases hf : (g.after steps).cache.find? name with
  | none => rfl
  | some components =>
      obtain ⟨r, hmem, hname, -⟩ := htarget components (by rw [huntargeted hn, hf])
      exact absurd (List.mem_map.mpr ⟨r, hmem, hname⟩) hn

/-- The names of the properties that an answer gives. -/
def Generator.Answer.keys? : Answer → Option (List String)
  | .components (some found) => some found.properties.keys
  | _ => none

theorem exists_of_keys? {answer : Except StepError Answer} {keys : List String}
    (h : answer.toOption.bind Answer.keys? = some keys) :
    ∃ components, answer = .ok (.components (some components)) ∧
      components.properties.keys = keys := by
  obtain ⟨value, ha, hk⟩ := Option.bind_eq_some_iff.mp h
  cases answer with
  | error error => cases ha
  | ok found =>
      cases ha
      unfold Answer.keys? at hk
      split at hk
      · cases hk
        exact ⟨_, rfl, rfl⟩
      · cases hk

def traveller : Generator := ⟨journey "[Place]", journey "[Place]", modes, [], by decide⟩

def visitor : Record := { name := "Visitor", fields := [⟨"at", "Place", none, false⟩] }

def namesake : Record := { name := "Place", fields := [⟨"z", "Int", none, false⟩] }

/-- A record from outside that refers to `Place` leaves it as it is. -/
theorem traveller_resolves_own :
    ofBatch (journey "[Place]") modes = .ok traveller ∧
      ∃ components,
        ((traveller.after [.generateRecord visitor, .generate]).step (.resolve "Place")).answer =
          .ok (.components (some components)) ∧
        components.properties.keys = ["x"] := by
  have hg : ofBatch (journey "[Place]") modes = .ok traveller := ofBatch_of_nodup modes (by decide)
  have hplace : ((traveller.after [.generateRecord visitor, .generate]).step
      (.resolve "Place")).answer.toOption.bind Answer.keys? = some ["x"] := by decide +kernel
  obtain ⟨components, ha, -⟩ := exists_of_keys? hplace
  obtain ⟨-, -, hown⟩ := resolved_as_introduced hg [.generateRecord visitor, .generate] "Place"
  obtain ⟨r, hr, hname, hkeys⟩ := (hown (by decide)).2 components ha
  have hall : ∀ s ∈ journey "[Place]", s.name = "Place" → s = (journey "[Place]")[2] := by decide
  rw [hall r hr hname] at hkeys
  exact ⟨hg, components, ha, hkeys⟩

/-- A record from outside is resolved though it is no target, and one that is called `Place` is
resolved in place of the target. -/
theorem traveller_resolves_visitors :
    ofBatch (journey "[Place]") modes = .ok traveller ∧
      "Visitor" ∉ (journey "[Place]").map Record.name ∧
      (∃ components,
        ((traveller.after [.generateRecord visitor]).step (.resolve "Visitor")).answer =
          .ok (.components (some components))) ∧
      ∃ components,
        ((traveller.after [.generateRecord namesake]).step (.resolve "Place")).answer =
          .ok (.components (some components)) ∧
        components.properties.keys = ["z"] := by
  refine ⟨ofBatch_of_nodup modes (by decide), by decide, ?_, exists_of_keys? (by decide +kernel)⟩
  have hvisitor : ((traveller.after [.generateRecord visitor]).step
      (.resolve "Visitor")).answer.toOption.bind Answer.keys? = some ["at"] := by decide +kernel
  obtain ⟨components, ha, -⟩ := exists_of_keys? hvisitor
  exact ⟨components, ha⟩

end ToolSchema
