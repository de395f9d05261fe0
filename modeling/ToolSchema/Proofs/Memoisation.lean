import ToolSchema.Proofs.Expansion
import ToolSchema.Proofs.Trace

/-! Generation with a cache gives what expansion without one gives. The cache of a generator is
steady: each entry is what its target expands to at every path that avoids the names in the cache.
No record in progress is in the cache, so a path is always such a path, and an entry made at one
path is good at all later ones. A computation on a steady cache follows its expansion: it ends with
the same value or the same error, and leaves a steady cache behind. -/

namespace ToolSchema.Generation

variable {α β : Type} {scope : Scope} {path : List String} {cache : Table Components}

def Steady (scope : Scope) (cache : Table Components) : Prop :=
  ∀ name components, cache.find? name = some components →
    ∀ other : List String, other.Disjoint cache.keys →
      Expansion.target scope other name = .ok (some components)

theorem steady_nil (scope : Scope) : Steady scope [] := by
  intro name components h
  cases h

/-- How a run from a cache relates to an expansion that depends on the path. A value is good at every
path that avoids the names in the new cache; an error tells the path, so it is that of this path. -/
structure Follows (scope : Scope) (path : List String) (cache : Table Components)
    (expansion : List String → Except GenerationError α) (outcome : Outcome α) : Prop where
  steady : Steady scope outcome.cache
  apart : path.Disjoint outcome.cache.keys
  grows : cache.keys ⊆ outcome.cache.keys
  value : ∀ v, outcome.result = .ok v →
    ∀ other : List String, other.Disjoint outcome.cache.keys → expansion other = .ok v
  error : ∀ e, outcome.result = .error e → expansion path = .error e

theorem Follows.of_ok {expansion : List String → Except GenerationError α} {after : Table Components}
    {events : List Event} {v : α} (hs : Steady scope after) (ha : path.Disjoint after.keys)
    (hg : cache.keys ⊆ after.keys)
    (hv : ∀ other : List String, other.Disjoint after.keys → expansion other = .ok v) :
    Follows scope path cache expansion ⟨.ok v, after, events⟩ := by
  refine ⟨hs, ha, hg, fun w hw => ?_, fun e he => ?_⟩
  · cases hw
    exact hv
  · cases he

theorem Follows.of_error {expansion : List String → Except GenerationError α}
    {after : Table Components} {events : List Event} {e : GenerationError}
    (hs : Steady scope after) (ha : path.Disjoint after.keys) (hg : cache.keys ⊆ after.keys)
    (he : expansion path = .error e) :
    Follows scope path cache expansion ⟨.error e, after, events⟩ := by
  refine ⟨hs, ha, hg, fun v hv => ?_, fun e' he' => ?_⟩
  · cases hv
  · cases he'
    exact he

theorem Follows.result_eq {expansion : List String → Except GenerationError α}
    {outcome : Outcome α} (h : Follows scope path cache expansion outcome) :
    outcome.result = expansion path := by
  cases hr : outcome.result with
  | ok v => exact (h.value v hr path h.apart).symm
  | error e => exact (h.error e hr).symm

def Faithful (scope : Scope) (path : List String) (computation : Generation α)
    (expansion : List String → Except GenerationError α) : Prop :=
  ∀ cache, Steady scope cache → path.Disjoint cache.keys →
    Follows scope path cache expansion (computation cache)

theorem ok_faithful (v : α) : Faithful scope path (ok v) (fun _ => .ok v) :=
  fun _ hs ha => .of_ok hs ha (fun _ h => h) fun _ _ => rfl

theorem fail_faithful (e : GenerationError) :
    Faithful scope path (fail e : Generation α) (fun _ => .error e) :=
  fun _ hs ha => .of_error hs ha (fun _ h => h) rfl

theorem Follows.bind {first : Generation α} {next : α → Generation β}
    {expansion : List String → Except GenerationError α}
    {further : α → List String → Except GenerationError β}
    (hf : Follows scope path cache expansion (first cache))
    (hn : ∀ v, Faithful scope path (next v) (further v)) :
    Follows scope path cache (fun other => do further (← expansion other) other)
      ((first >>= next) cache) := by
  rcases hr : first cache with ⟨result, middle, events⟩
  rw [hr] at hf
  cases result with
  | error e =>
      rw [bind_of_error hr]
      refine .of_error hf.steady hf.apart hf.grows ?_
      rw [hf.error e rfl]
      rfl
  | ok v =>
      rw [bind_of_ok hr]
      have hs := hn v middle hf.steady hf.apart
      refine ⟨hs.steady, hs.apart, fun _ h => hs.grows (hf.grows h), fun w hw other ho => ?_,
        fun e he => ?_⟩
      · have hm : other.Disjoint middle.keys := fun name hi hc => ho hi (hs.grows hc)
        change (expansion other >>= fun v => further v other) = _
        rw [hf.value v rfl other hm]
        exact hs.value w hw other ho
      · change (expansion path >>= fun v => further v path) = _
        rw [hf.value v rfl path hf.apart]
        exact hs.error e he

theorem bind_faithful {first : Generation α} {next : α → Generation β}
    {expansion : List String → Except GenerationError α}
    {further : α → List String → Except GenerationError β}
    (hf : Faithful scope path first expansion)
    (hn : ∀ v, Faithful scope path (next v) (further v)) :
    Faithful scope path (first >>= next) (fun other => do further (← expansion other) other) :=
  fun cache hs ha => (hf cache hs ha).bind hn

section Mapping

variable {enums : Table Enumeration} {resolver : Resolver}
  {lookup : List String → Expansion.Lookup}

theorem leafFragment_faithful
    (hr : ∀ name, Faithful scope path (resolver name) fun other => lookup other name)
    (site : Site) (leaf : TypeExpr.Leaf) :
    Faithful scope path (leafFragment enums resolver site leaf)
      (fun other => Expansion.leaf enums (lookup other) site leaf.written leaf.name) := by
  unfold leafFragment Expansion.leaf
  dsimp only
  cases primitives.find? (String.ofList leaf.name) with
  | some p => exact ok_faithful _
  | none =>
      cases enums.find? (String.ofList leaf.name) with
      | some enumeration => exact ok_faithful _
      | none =>
          dsimp only
          apply bind_faithful (hr _)
          intro found
          cases found with
          | some components => exact ok_faithful _
          | none =>
              dsimp only
              by_cases hi : Text.isIdentifier (String.ofList leaf.name) = true
              · rw [if_pos hi, if_pos hi]
                exact fail_faithful _
              · rw [if_neg hi, if_neg hi]
                exact fail_faithful _

theorem mapType_faithful
    (hr : ∀ name, Faithful scope path (resolver name) fun other => lookup other name)
    (site : Site) (rawType : String) :
    Faithful scope path (mapType enums resolver site rawType)
      (fun other => Expansion.rawType enums (lookup other) site rawType.toList) := by
  simp only [Expansion.rawType_eq]
  unfold mapType
  cases TypeExpr.descend rawType.toList with
  | error fault =>
      cases fault with
      | malformed level why => exact fail_faithful _
      | foreignKey level => exact fail_faithful _
  | ok leaf => exact bind_faithful (leafFragment_faithful hr site leaf) fun _ => ok_faithful _

theorem mapFields_faithful
    (hr : ∀ name, Faithful scope path (resolver name) fun other => lookup other name)
    (record : String) (components : Components) (fields : List Field) :
    Faithful scope path (mapFields enums resolver record components fields)
      (fun other => Expansion.fields enums (lookup other) record components fields) := by
  induction fields generalizing components with
  | nil => exact ok_faithful _
  | cons field rest ih =>
      simp only [mapFields, Expansion.fields]
      exact bind_faithful (mapType_faithful hr _ _) fun _ => ih _

end Mapping

theorem steady_put {record : Record} {components : Components} (hs : Steady scope cache)
    (ht : scope.target? record.name = some record)
    (hv : ∀ other : List String, record.name ∉ other → other.Disjoint cache.keys →
      Expansion.record scope other record = .ok components) :
    Steady scope (cache.put record.name components) := by
  intro name found hf other ho
  obtain ⟨hd, hr⟩ := Table.disjoint_keys_put.mp ho
  rw [Table.find?_put] at hf
  by_cases hn : record.name = name
  · rw [if_pos hn] at hf
    cases hf
    subst hn
    exact (Expansion.target_eq_ok_some_iff ht).mpr (hv other hr hd)
  · rw [if_neg hn] at hf
    exact hs name found hf other hd

/-- A record that is generated is neither on the path nor in the cache that its fields leave behind,
so its entry is good at every path that avoids the new cache. -/
theorem build_follows {resolver : Resolver} {record : Record}
    (ht : scope.target? record.name = some record) (hp : record.name ∉ path)
    (hc : record.name ∉ cache.keys) (hs : Steady scope cache) (ha : path.Disjoint cache.keys)
    (hr : ∀ name, Faithful scope (path ++ [record.name]) (resolver name)
      fun other => Expansion.target scope other name) :
    Follows scope path cache (fun other => Expansion.record scope other record)
      (build scope.enums resolver record cache) := by
  have hm : Follows scope (path ++ [record.name]) cache
      (fun other => Expansion.fields scope.enums (Expansion.target scope other) record.name {}
        record.fields) (mapFields scope.enums resolver record.name {} record.fields cache) :=
    mapFields_faithful hr record.name {} record.fields cache hs (disjoint_concat.mpr ⟨ha, hc⟩)
  rcases hf : mapFields scope.enums resolver record.name {} record.fields cache with
    ⟨result, middle, events⟩
  rw [hf] at hm
  obtain ⟨hpath, hnew⟩ := disjoint_concat.mp hm.apart
  cases result with
  | error e =>
      rw [build_of_error hf]
      refine .of_error hm.steady hpath hm.grows ?_
      rw [Expansion.record_of_not_mem hp]
      exact hm.error e rfl
  | ok components =>
      rw [build_of_ok hf]
      -- The path of the fields is made longer by the record, which the cache does not hold yet.
      have hv : ∀ other : List String, record.name ∉ other → other.Disjoint middle.keys →
          Expansion.record scope other record = .ok components := by
        intro other hr hd
        rw [Expansion.record_of_not_mem hr]
        exact hm.value components rfl _ (disjoint_concat.mpr ⟨hd, hnew⟩)
      refine .of_ok (steady_put hm.steady ht hv) (Table.disjoint_keys_put.mpr ⟨hpath, hp⟩)
        (fun name hk => Table.mem_keys_put.mpr (Or.inl (hm.grows hk))) fun other ho => ?_
      obtain ⟨hd, hr⟩ := Table.disjoint_keys_put.mp ho
      exact hv other hr hd

theorem resolve_faithful (scope : Scope) (path : List String) (name : String) :
    Faithful scope path (resolve scope path name)
      fun other => Expansion.target scope other name := by
  induction hn : scope.unvisited path using Nat.strongRecOn generalizing path name with
  | _ n ih =>
      subst hn
      intro cache hs ha
      cases hc : cache.find? name with
      | some components =>
          rw [resolve_of_cached hc]
          exact .of_ok hs ha (fun _ h => h) (hs name components hc)
      | none =>
          rw [resolve_of_uncached hc]
          cases ht : scope.target? name with
          | none =>
              rw [fetch_of_unknown ht]
              simp only [Expansion.target_of_none ht]
              exact ok_faithful none cache hs ha
          | some record =>
              obtain ⟨hmem, rfl⟩ := Scope.target?_eq_some ht
              simp only [Expansion.target_of_some ht]
              by_cases hp : record.name ∈ path
              · rw [fetch_of_cycle ht hp]
                refine .of_error hs ha (fun _ h => h) ?_
                rw [Expansion.record_eq, if_pos hp]
                rfl
              · rw [fetch_of_target ht hp]
                have hlt := Scope.unvisited_lt hmem hp
                exact (build_follows ht hp (Table.find?_eq_none_iff.mp hc) hs ha
                  fun other => ih _ hlt _ other rfl).bind fun _ => ok_faithful _

theorem generateRecord_faithful {record : Record} (ht : scope.target? record.name = some record) :
    Faithful scope [] (generateRecord scope record)
      fun other => Expansion.record scope other record := by
  intro cache hs ha
  cases hc : cache.find? record.name with
  | some components =>
      rw [generateRecord_of_cached hc]
      exact .of_ok hs ha (fun _ h => h) fun other ho =>
        (Expansion.target_eq_ok_some_iff ht).mp (hs record.name components hc other ho)
  | none =>
      rw [generateRecord_of_uncached hc]
      exact build_follows ht List.not_mem_nil (Table.find?_eq_none_iff.mp hc) hs ha
        fun name => resolve_faithful scope [record.name] name

/-! ### Batches -/

theorem Scope.target?_of_mem {record : Record} (hd : (scope.targets.map Record.name).Nodup)
    (hm : record ∈ scope.targets) : scope.target? record.name = some record := by
  unfold Scope.target?
  generalize scope.targets = targets at hd hm
  induction targets with
  | nil => cases hm
  | cons first rest ih =>
      rw [List.map_cons, List.nodup_cons] at hd
      rcases List.mem_cons.mp hm with rfl | hm
      · rw [List.find?_cons_of_pos (by simp)]
      · have hne : first.name ≠ record.name := by
          intro he
          exact hd.1 (he ▸ List.mem_map_of_mem hm)
        rw [List.find?_cons_of_neg (by simpa using hne)]
        exact ih hd.2 hm

theorem generateEach_follows (hd : (scope.targets.map Record.name).Nodup)
    (results : Table Components) (records : List Record)
    (hm : ∀ record ∈ records, record ∈ scope.targets)
    (hn : (results.keys ++ records.map Record.name).Nodup) (hs : Steady scope cache) :
    (generateEach scope results records cache).result =
        (do return results ++ (← Expansion.batch scope records)) ∧
      Steady scope (generateEach scope results records cache).cache := by
  induction records generalizing results cache with
  | nil =>
      refine ⟨?_, hs⟩
      change Except.ok results = Except.ok (results ++ [])
      rw [List.append_nil]
  | cons record rest ih =>
      -- The names of the batch are distinct, so no record is passed over.
      have hr : record.name ∉ results.keys := by
        intro hk
        exact (List.nodup_append.mp hn).2.2 _ hk _ List.mem_cons_self rfl
      have hf := generateRecord_faithful
        (Scope.target?_of_mem hd (hm record List.mem_cons_self)) cache hs (List.disjoint_nil_left _)
      have he := hf.result_eq
      rw [Expansion.batch_cons]
      rcases ho : generateRecord scope record cache with ⟨result, middle, events⟩
      rw [ho] at hf he
      dsimp only at he
      rw [← he]
      cases result with
      | error error =>
          rw [generateEach_cons_of_error hr ho]
          exact ⟨rfl, hf.steady⟩
      | ok components =>
          rw [generateEach_cons_of_ok hr ho]
          have hn' : ((results.put record.name components).keys ++ rest.map Record.name).Nodup := by
            rw [Table.keys_put, if_neg hr, List.append_assoc]
            exact hn
          have hi := ih (results.put record.name components)
            (fun r hrest => hm r (List.mem_cons_of_mem _ hrest)) hn' hf.steady
          refine ⟨hi.1.trans ?_, hi.2⟩
          rw [Table.put_of_not_mem hr]
          cases Expansion.batch scope rest with
          | error error => rfl
          | ok others =>
              change Except.ok (results ++ [(record.name, components)] ++ others) =
                Except.ok (results ++ (record.name, components) :: others)
              rw [List.append_assoc]
              rfl

theorem generate_follows (scope : Scope) (hd : (scope.targets.map Record.name).Nodup)
    (hs : Steady scope cache) :
    (generate scope scope.targets cache).result = Expansion.batch scope scope.targets ∧
      Steady scope (generate scope scope.targets cache).cache := by
  obtain ⟨he, hc⟩ := generateEach_follows hd [] scope.targets (fun _ h => h) hd hs
  have hb : (generateEach scope [] scope.targets cache).result =
      Expansion.batch scope scope.targets := by
    rw [he]
    cases Expansion.batch scope scope.targets <;> rfl
  rcases ho : generateEach scope [] scope.targets cache with ⟨result, middle, events⟩
  rw [ho] at hb hc
  dsimp only at hb hc
  rw [← hb, generate, bind_of_ok (show note (.batchStarted scope.targets.length) cache =
    ⟨.ok (), cache, [.batchStarted scope.targets.length]⟩ from rfl)]
  cases result with
  | error error =>
      rw [bind_of_error ho]
      exact ⟨rfl, hc⟩
  | ok results =>
      rw [bind_of_ok ho]
      exact ⟨rfl, hc⟩

end ToolSchema.Generation

namespace ToolSchema.Generator

open Generation

theorem repeatedName?_eq_none (seen : List String) {records : List Record}
    (hd : (records.map Record.name).Nodup) (hs : ∀ record ∈ records, record.name ∉ seen) :
    repeatedName? seen records = none := by
  induction records generalizing seen with
  | nil => rfl
  | cons record rest ih =>
      rw [List.map_cons, List.nodup_cons] at hd
      rw [repeatedName?, if_neg (hs record List.mem_cons_self)]
      refine ih _ hd.2 fun other ho hm => ?_
      rcases List.mem_cons.mp hm with he | hm
      · exact hd.1 (he ▸ List.mem_map_of_mem ho)
      · exact hs other (List.mem_cons_of_mem _ ho) hm

theorem ofBatch_of_nodup {records : List Record} (enums : Table Enumeration)
    (hd : (records.map Record.name).Nodup) :
    ofBatch records enums = .ok ⟨records, records, enums, [], hd⟩ := by
  have hn := repeatedName?_eq_none [] hd fun _ _ => List.not_mem_nil
  unfold ofBatch
  split
  · rename_i name h
    rw [hn] at h
    cases h
  · rfl

/-- A generator is made of a batch only if its names are distinct, and starts without a cache. -/
theorem eq_of_ofBatch {records : List Record} {enums : Table Enumeration} {g : Generator}
    (h : ofBatch records enums = .ok g) :
    g.records = records ∧ g.targets = records ∧ g.enums = enums ∧ g.cache = [] := by
  unfold ofBatch at h
  split at h
  · cases h
  · cases h
    exact ⟨rfl, rfl, rfl, rfl⟩

theorem generateSchemas_of_nodup {records : List Record} (enums : Table Enumeration)
    (hd : (records.map Record.name).Nodup) :
    generateSchemas records enums = (generate ⟨records, enums⟩ records []).result := by
  rw [generateSchemas, ofBatch_of_nodup enums hd]
  rfl

/-! ### Sessions on one batch -/

/-- Steps that leave the enumerations and the records as they are and generate no other record. -/
def Step.WithinBatch (records : List Record) : Step → Prop
  | .generate | .resolve _ | .mapType _ _ | .format _ _ => True
  | .generateRecord record => record ∈ records
  | .addEnum _ | .appendRecord _ => False

instance (records : List Record) (s : Step) : Decidable (s.WithinBatch records) :=
  match s with
  | .generate | .resolve _ | .mapType _ _ | .format _ _ => isTrue trivial
  | .generateRecord record => inferInstanceAs (Decidable (record ∈ records))
  | .addEnum _ | .appendRecord _ => isFalse id

/-- Steps that ask for something generated. -/
def Step.Generates : Step → Prop
  | .generate | .generateRecord _ | .resolve _ | .mapType _ _ => True
  | .format _ _ | .addEnum _ | .appendRecord _ => False

def reply {α : Type} (answer : α → Answer) : Except GenerationError α → Except StepError Answer
  | .ok value => .ok (answer value)
  | .error error => .error (.generation error)

/-- What a step that generates answers when nothing is cached. -/
def uncachedAnswer (scope : Scope) : Step → Except StepError Answer
  | .generate => reply .batch (Expansion.batch scope scope.targets)
  | .generateRecord record =>
    reply (fun found => .components (some found)) (Expansion.record scope [] record)
  | .resolve name => reply .components (Expansion.target scope [] name)
  | .mapType rawType site =>
    reply .fragment (Expansion.rawType scope.enums (Expansion.target scope []) site rawType.toList)
  | .format _ _ | .addEnum _ | .appendRecord _ => .ok .done

variable {g : Generator} {s : Step}

theorem step_answer_eq (hr : g.records = g.targets) (hs : Steady g.scope g.cache)
    (hw : s.WithinBatch g.targets) (hg : s.Generates) :
    (g.step s).answer = uncachedAnswer g.scope s := by
  have ha : ([] : List String).Disjoint g.cache.keys := List.disjoint_nil_left _
  cases s with
  | generate =>
      change reply .batch (generate g.scope g.records g.cache).result = _
      rw [hr]
      exact congrArg (reply .batch) (generate_follows g.scope g.distinct_targets hs).1
  | generateRecord record =>
      have ht : g.scope.target? record.name = some record :=
        Scope.target?_of_mem g.distinct_targets hw
      exact congrArg (reply fun found => .components (some found))
        (generateRecord_faithful ht g.cache hs ha).result_eq
  | resolve name =>
      exact congrArg (reply .components) (resolve_faithful g.scope [] name g.cache hs ha).result_eq
  | mapType rawType site =>
      exact congrArg (reply .fragment)
        (mapType_faithful (resolve_faithful g.scope []) site rawType g.cache hs ha).result_eq
  | format format records => cases hg
  | addEnum enumeration => cases hg
  | appendRecord record => cases hg

/-- Succeeding or failing, a step within the batch changes nothing but the cache, and the cache stays
steady. -/
theorem step_steady (hr : g.records = g.targets) (hs : Steady g.scope g.cache)
    (hw : s.WithinBatch g.targets) :
    ∃ cache, (g.step s).generator = { g with cache := cache } ∧ Steady g.scope cache := by
  have ha : ([] : List String).Disjoint g.cache.keys := List.disjoint_nil_left _
  cases s with
  | generate =>
      refine ⟨_, rfl, ?_⟩
      rw [hr]
      exact (generate_follows g.scope g.distinct_targets hs).2
  | generateRecord record =>
      have ht : g.scope.target? record.name = some record :=
        Scope.target?_of_mem g.distinct_targets hw
      exact ⟨_, rfl, (generateRecord_faithful ht g.cache hs ha).steady⟩
  | resolve name => exact ⟨_, rfl, (resolve_faithful g.scope [] name g.cache hs ha).steady⟩
  | mapType rawType site =>
      exact ⟨_, rfl, (mapType_faithful (resolve_faithful g.scope []) site rawType g.cache hs
        ha).steady⟩
  | format format records => exact ⟨g.cache, rfl, hs⟩
  | addEnum enumeration => cases hw
  | appendRecord record => cases hw

theorem steps_answer_eq (g : Generator) (hr : g.records = g.targets)
    (hs : Steady g.scope g.cache) (steps : List Step)
    (hw : ∀ s ∈ steps, s.WithinBatch g.targets) (cache : Table Components)
    (hc : Steady g.scope cache) :
    List.Forall₂ (fun s outcome => s.Generates → outcome.answer = (g.step s).answer) steps
      ({ g with cache := cache }.steps steps) := by
  induction steps generalizing cache with
  | nil => exact .nil
  | cons s rest ih =>
      have hws := hw s List.mem_cons_self
      obtain ⟨later, he, hl⟩ := step_steady (g := { g with cache := cache }) hr hc hws
      refine .cons (fun hg => ?_) ?_
      · rw [step_answer_eq hr hs hws hg]
        exact step_answer_eq (g := { g with cache := cache }) hr hc hws hg
      · rw [he]
        exact ih (fun s h => hw s (List.mem_cons_of_mem _ h)) later hl

theorem fresh_answer_eq {records : List Record} {enums : Table Enumeration}
    (hg : ofBatch records enums = .ok g) (hw : s.WithinBatch records) (hs : s.Generates) :
    (g.step s).answer = uncachedAnswer ⟨records, enums⟩ s := by
  obtain ⟨hr, rfl, rfl, hc⟩ := eq_of_ofBatch hg
  have hsteady : Steady g.scope g.cache := by
    rw [hc]
    exact steady_nil g.scope
  exact step_answer_eq hr hsteady hw hs

theorem reply_eq_ok_iff {α : Type} {answer : α → Answer} (hinj : Function.Injective answer)
    {result : Except GenerationError α} {value : α} :
    reply answer result = .ok (answer value) ↔ result = .ok value := by
  cases result with
  | ok found =>
      change Except.ok (answer found) = Except.ok (answer value) ↔ _
      rw [Except.ok.injEq, Except.ok.injEq, hinj.eq_iff]
  | error error =>
      constructor
      · intro h
        cases h
      · intro h
        cases h

end ToolSchema.Generator

namespace ToolSchema

open Generator

/-- A batch in which both `Trip` and `Leg` need `Place`, and `Leg` has one more field. -/
def journey (via : String) : List Record :=
  [{ name := "Trip"
     fields := [⟨"stops", "[Place]?", none, true⟩, ⟨"mode", "[String: Mode]", none, false⟩,
       ⟨"back", "Leg", none, false⟩] },
    { name := "Leg"
      fields := [⟨"from", "Place", none, false⟩, ⟨"via", via, none, false⟩] },
    { name := "Place", fields := [⟨"x", "Double", none, false⟩] }]

def modes : Table Enumeration := [("Mode", { name := "Mode", cases := [⟨"rail", none⟩] })]

/-- The cache is invisible: a batch has the components, or the error, of its expansion. -/
theorem generateSchemas_eq_expansion (records : List Record) (enums : Table Enumeration)
    (hd : (records.map Record.name).Nodup) :
    generateSchemas records enums = Expansion.batch ⟨records, enums⟩ records := by
  rw [generateSchemas_of_nodup enums hd]
  exact (Generation.generate_follows ⟨records, enums⟩ hd (Generation.steady_nil _)).1

/-- `Place` is in the cache when `Leg` asks for it, and the cycle is found below `Leg`. -/
theorem journey_eq_expansion :
    ((journey "[Trip]").map Record.name).Nodup ∧
      generateSchemas (journey "[Trip]") modes =
        Expansion.batch ⟨journey "[Trip]", modes⟩ (journey "[Trip]") ∧
      Expansion.batch ⟨journey "[Trip]", modes⟩ (journey "[Trip]") =
        .error (.cyclicDependency ["Trip", "Leg", "Trip"]) :=
  ⟨by decide, generateSchemas_eq_expansion _ modes (by decide), by cbv⟩

/-- What a generator answers does not depend on what it was asked before. -/
theorem answer_independent_of_history {records : List Record} {enums : Table Enumeration}
    {g : Generator} (hg : ofBatch records enums = .ok g) (steps : List Step)
    (hw : ∀ s ∈ steps, s.WithinBatch records) :
    List.Forall₂ (fun s outcome => s.Generates → outcome.answer = (g.step s).answer) steps
      (g.steps steps) := by
  obtain ⟨hr, rfl, -, hc⟩ := eq_of_ofBatch hg
  have hs : Generation.Steady g.scope g.cache := by
    rw [hc]
    exact Generation.steady_nil g.scope
  exact steps_answer_eq g hr hs steps hw g.cache hs

/-- Steps of which the first two fail and leave `Place` in the cache. -/
def journeySteps : List Step :=
  [.generate, .mapType "[Leg]" ⟨"Trip", "legs"⟩, .resolve "Place", .format "gemini" none,
    .resolve "Mode", .generateRecord (journey "[Trip]")[1], .generate]

theorem journey_independent_of_history :
    ofBatch (journey "[Trip]") modes =
        .ok ⟨journey "[Trip]", journey "[Trip]", modes, [], by decide⟩ ∧
      (∀ s ∈ journeySteps, s.WithinBatch (journey "[Trip]")) ∧
      List.Forall₂ (fun s outcome => s.Generates → outcome.answer =
          (Generator.step ⟨journey "[Trip]", journey "[Trip]", modes, [], by decide⟩ s).answer)
        journeySteps
        (Generator.steps ⟨journey "[Trip]", journey "[Trip]", modes, [], by decide⟩ journeySteps) :=
  ⟨ofBatch_of_nodup modes (by decide), by decide,
    answer_independent_of_history (ofBatch_of_nodup modes (by decide)) journeySteps (by decide)⟩

end ToolSchema
