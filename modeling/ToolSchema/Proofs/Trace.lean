import Mathlib.Data.List.Basic
import ToolSchema.Schema.Session

/-! Traces of generation. `Trace` is the relation of everything a computation can do to the cache
and tell on its way, at a path of records in progress: it enters a record only if the record is
neither on the path nor in the cache, it stores a record right after leaving it, and it stores
nothing once something has failed. Every computation of a generator has such a trace
(`resolve_traced`, `generate_traced`), so what holds of all traces is proved by one induction. -/

namespace ToolSchema

theorem Table.disjoint_keys_put {α : Type} {names : List String} {t : Table α} {key : String}
    {value : α} :
    names.Disjoint (t.put key value).keys ↔ names.Disjoint t.keys ∧ key ∉ names := by
  constructor
  · intro h
    exact ⟨fun _ hn hk => h hn (mem_keys_put.mpr (Or.inl hk)),
      fun hn => h hn (mem_keys_put.mpr (Or.inr rfl))⟩
  · rintro ⟨hd, hkey⟩ name hn hk
    rcases mem_keys_put.mp hk with hk | rfl
    · exact hd hn hk
    · exact hkey hn

namespace Generation

/-- A path made longer by a name. -/
theorem disjoint_concat {path names : List String} {name : String} :
    (path ++ [name]).Disjoint names ↔ path.Disjoint names ∧ name ∉ names := by
  rw [List.disjoint_append_left, List.singleton_disjoint]

/-- When a record is entered. Below the first record of a path only targets are. -/
structure Enters (scope : Scope) (path : List String) (cache : Table Components) (name : String) :
    Prop where
  off_path : name ∉ path
  uncached : name ∉ cache.keys
  target : path ≠ [] → (scope.target? name).isSome

inductive Trace (scope : Scope) : List String → Table Components →
    Except GenerationError Unit → Table Components → List Event → Prop
  | idle {path cache} (result) : Trace scope path cache result cache []
  | started {path cache} (count) : Trace scope path cache (.ok ()) cache [.batchStarted count]
  | finished {path cache} (count) : Trace scope path cache (.ok ()) cache [.batchFinished count]
  | cycle {path cache name} (h : name ∈ path) :
      Trace scope path cache (.error (.cyclicDependency (path ++ [name]))) cache
        [.cycleFound (path ++ [name])]
  | chained {path cache middle after result first second}
      (h₁ : Trace scope path cache (.ok ()) middle first)
      (h₂ : Trace scope path middle result after second) :
      Trace scope path cache result after (first ++ second)
  | stored {path cache after inner name} (components) (he : Enters scope path cache name)
      (h : Trace scope (path ++ [name]) cache (.ok ()) after inner) :
      Trace scope path cache (.ok ()) (after.put name components)
        (.entered name :: inner ++ [.left name, .stored name])
  | discarded {path cache after inner name error} (he : Enters scope path cache name)
      (h : Trace scope (path ++ [name]) cache (.error error) after inner) :
      Trace scope path cache (.error error) after (.entered name :: inner ++ [.left name])
  | reported {path cache after events name error}
      (h : Trace scope path cache (.error error) after events) :
      Trace scope path cache (.error error) after (events ++ [.batchFailed name error])

variable {α β : Type} {scope : Scope} {path : List String} {cache middle : Table Components}
  {name : String} {components : Components} {record : Record} {events : List Event}
  {error : GenerationError}

/-! ### One computation after another -/

theorem bind_of_ok {first : Generation α} {next : α → Generation β} {value : α}
    (h : first cache = ⟨.ok value, middle, events⟩) :
    (first >>= next) cache =
      ⟨(next value middle).result, (next value middle).cache,
        events ++ (next value middle).events⟩ := by
  change andThen first next cache = _
  simp only [andThen, h]

theorem bind_of_error {first : Generation α} {next : α → Generation β}
    (h : first cache = ⟨.error error, middle, events⟩) :
    (first >>= next) cache = ⟨.error error, middle, events⟩ := by
  change andThen first next cache = _
  simp only [andThen, h]

/-- The components of a record that is not in the cache, by its name. -/
def fetch (scope : Scope) (path : List String) (name : String) :
    Generation (Option Components) :=
  match scope.target? name with
  | none => ok none
  | some record =>
    if record.name ∈ path then do
      note (.cycleFound (path ++ [record.name]))
      fail (.cyclicDependency (path ++ [record.name]))
    else do
      return some (← build scope.enums (resolve scope (path ++ [record.name])) record)

theorem fetch_of_unknown (h : scope.target? name = none) : fetch scope path name = ok none := by
  rw [fetch, h]

theorem fetch_of_cycle (h : scope.target? name = some record) (hp : record.name ∈ path) :
    fetch scope path name cache =
      ⟨.error (.cyclicDependency (path ++ [record.name])), cache,
        [.cycleFound (path ++ [record.name])]⟩ := by
  rw [fetch, h]
  dsimp only
  rw [if_pos hp]
  rfl

theorem fetch_of_target (h : scope.target? name = some record) (hp : record.name ∉ path) :
    fetch scope path name =
      (do return some (← build scope.enums (resolve scope (path ++ [record.name])) record)) := by
  rw [fetch, h]
  exact if_neg hp

theorem resolve_eq (scope : Scope) (path : List String) (name : String) :
    resolve scope path name = (do
      match ← cached? name with
      | some components => return some components
      | none => fetch scope path name) := by
  rw [resolve]
  congr 1
  funext found
  cases found with
  | some components => rfl
  | none =>
      unfold fetch
      dsimp only
      split
      · rename_i hn
        simp only [hn]
        rfl
      · rename_i record hs
        simp only [hs]
        rfl

theorem cached?_eq (h : cache.find? name = some components) :
    cached? name cache = ⟨.ok (some components), cache, []⟩ := by
  rw [cached?, h]

theorem cached?_eq_none (h : cache.find? name = none) :
    cached? name cache = ⟨.ok none, cache, []⟩ := by
  rw [cached?, h]

theorem resolve_of_cached (h : cache.find? name = some components) :
    resolve scope path name cache = ⟨.ok (some components), cache, []⟩ := by
  rw [resolve_eq, bind_of_ok (cached?_eq h)]
  rfl

theorem resolve_of_uncached (h : cache.find? name = none) :
    resolve scope path name cache = fetch scope path name cache := by
  rw [resolve_eq, bind_of_ok (cached?_eq_none h)]
  rfl

theorem generateRecord_of_cached (h : cache.find? record.name = some components) :
    generateRecord scope record cache = ⟨.ok components, cache, []⟩ := by
  rw [generateRecord, bind_of_ok (cached?_eq h)]
  rfl

theorem generateRecord_of_uncached (h : cache.find? record.name = none) :
    generateRecord scope record cache =
      build scope.enums (resolve scope [record.name]) record cache := by
  rw [generateRecord, bind_of_ok (cached?_eq_none h)]
  rfl

section Build

variable {enums : Table Enumeration} {resolver : Resolver}

theorem build_of_ok
    (h : mapFields enums resolver record.name {} record.fields cache =
      ⟨.ok components, middle, events⟩) :
    build enums resolver record cache =
      ⟨.ok components, middle.put record.name components,
        .entered record.name :: events ++ [.left record.name, .stored record.name]⟩ := by
  have hw : within record.name (mapFields enums resolver record.name {} record.fields) cache =
      ⟨.ok components, middle, .entered record.name :: events ++ [.left record.name]⟩ := by
    rw [within, h]
  rw [build, bind_of_ok hw, List.append_assoc]
  rfl

theorem build_of_error
    (h : mapFields enums resolver record.name {} record.fields cache =
      ⟨.error error, middle, events⟩) :
    build enums resolver record cache =
      ⟨.error error, middle, .entered record.name :: events ++ [.left record.name]⟩ := by
  have hw : within record.name (mapFields enums resolver record.name {} record.fields) cache =
      ⟨.error error, middle, .entered record.name :: events ++ [.left record.name]⟩ := by
    rw [within, h]
  rw [build, bind_of_error hw]

end Build

section Batch

variable {results : Table Components} {rest : List Record}

theorem generateEach_cons_of_mem (h : record.name ∈ results.keys) :
    generateEach scope results (record :: rest) = generateEach scope results rest := by
  rw [generateEach, if_pos h]

theorem generateEach_cons_of_ok (hr : record.name ∉ results.keys)
    (h : generateRecord scope record cache = ⟨.ok components, middle, events⟩) :
    generateEach scope results (record :: rest) cache =
      let after := generateEach scope (results.put record.name components) rest middle
      ⟨after.result, after.cache, events ++ after.events⟩ := by
  rw [generateEach, if_neg hr]
  apply bind_of_ok
  dsimp only
  rw [h]

theorem generateEach_cons_of_error (hr : record.name ∉ results.keys)
    (h : generateRecord scope record cache = ⟨.error error, middle, events⟩) :
    generateEach scope results (record :: rest) cache =
      ⟨.error error, middle, events ++ [.batchFailed record.name error]⟩ := by
  rw [generateEach, if_neg hr]
  apply bind_of_error
  dsimp only
  rw [h]

end Batch

/-! ### Every computation has a trace -/

/-- A computation has a trace from a cache, whatever its value is. -/
def TracedAt (scope : Scope) (path : List String) (cache : Table Components)
    (outcome : Outcome α) : Prop :=
  Trace scope path cache (outcome.result.map fun _ => ()) outcome.cache outcome.events

def Traced (scope : Scope) (path : List String) (computation : Generation α) : Prop :=
  ∀ cache, TracedAt scope path cache (computation cache)

theorem ok_traced (value : α) : Traced scope path (ok value) := fun _ => .idle _

theorem fail_traced (error : GenerationError) : Traced scope path (fail error : Generation α) :=
  fun _ => .idle _

theorem bind_tracedAt {first : Generation α} {next : α → Generation β}
    (hf : TracedAt scope path cache (first cache)) (hn : ∀ value, Traced scope path (next value)) :
    TracedAt scope path cache ((first >>= next) cache) := by
  rcases hr : first cache with ⟨result, middle, events⟩
  rw [hr] at hf
  cases result with
  | error error =>
      rw [bind_of_error hr]
      exact hf
  | ok value =>
      rw [bind_of_ok hr]
      exact .chained hf (hn value middle)

theorem bind_traced {first : Generation α} {next : α → Generation β}
    (hf : Traced scope path first) (hn : ∀ value, Traced scope path (next value)) :
    Traced scope path (first >>= next) :=
  fun cache => bind_tracedAt (hf cache) hn

section Mapping

variable {enums : Table Enumeration} {resolver : Resolver}

theorem leafFragment_traced (hr : ∀ name, Traced scope path (resolver name)) (site : Site)
    (leaf : TypeExpr.Leaf) : Traced scope path (leafFragment enums resolver site leaf) := by
  unfold leafFragment
  dsimp only
  split
  · exact ok_traced _
  · split
    · exact ok_traced _
    · apply bind_traced (hr _)
      intro found
      cases found with
      | some components => exact ok_traced _
      | none =>
          dsimp only
          split
          · exact fail_traced _
          · exact fail_traced _

theorem mapType_traced (hr : ∀ name, Traced scope path (resolver name)) (site : Site)
    (rawType : String) : Traced scope path (mapType enums resolver site rawType) := by
  unfold mapType
  split
  · exact fail_traced _
  · exact fail_traced _
  · exact bind_traced (leafFragment_traced hr site _) fun _ => ok_traced _

theorem mapFields_traced (hr : ∀ name, Traced scope path (resolver name)) (record : String)
    (components : Components) (fields : List Field) :
    Traced scope path (mapFields enums resolver record components fields) := by
  induction fields generalizing components with
  | nil => exact ok_traced _
  | cons field rest ih =>
      rw [mapFields]
      exact bind_traced (mapType_traced hr _ _) fun _ => ih _

theorem build_tracedAt (he : Enters scope path cache record.name)
    (hr : ∀ name, Traced scope (path ++ [record.name]) (resolver name)) :
    TracedAt scope path cache (build enums resolver record cache) := by
  have hm : TracedAt scope (path ++ [record.name]) cache
      (mapFields enums resolver record.name {} record.fields cache) :=
    mapFields_traced hr record.name {} record.fields cache
  rcases hf : mapFields enums resolver record.name {} record.fields cache with
    ⟨result, middle, events⟩
  rw [hf] at hm
  cases result with
  | error error =>
      rw [build_of_error hf]
      exact .discarded he hm
  | ok components =>
      rw [build_of_ok hf]
      exact .stored components he hm

end Mapping

/-- The targets off the path get fewer with every record that is entered. -/
theorem resolve_traced (scope : Scope) (path : List String) (name : String) :
    Traced scope path (resolve scope path name) := by
  induction hn : scope.unvisited path using Nat.strongRecOn generalizing path name with
  | _ n ih =>
      subst hn
      intro cache
      cases hc : cache.find? name with
      | some components =>
          rw [resolve_of_cached hc]
          exact .idle _
      | none =>
          rw [resolve_of_uncached hc]
          cases ht : scope.target? name with
          | none =>
              rw [fetch_of_unknown ht]
              exact ok_traced none cache
          | some record =>
              obtain ⟨hmem, rfl⟩ := Scope.target?_eq_some ht
              by_cases hp : record.name ∈ path
              · rw [fetch_of_cycle ht hp]
                exact .cycle hp
              · rw [fetch_of_target ht hp]
                have he : Enters scope path cache record.name :=
                  ⟨hp, Table.find?_eq_none_iff.mp hc, fun _ => by rw [ht]; rfl⟩
                have hlt := Scope.unvisited_lt hmem hp
                exact bind_tracedAt (build_tracedAt he fun other => ih _ hlt _ other rfl)
                  fun _ => ok_traced _

theorem generateRecord_traced (scope : Scope) (record : Record) :
    Traced scope [] (generateRecord scope record) := by
  intro cache
  cases hc : cache.find? record.name with
  | some components =>
      rw [generateRecord_of_cached hc]
      exact .idle _
  | none =>
      rw [generateRecord_of_uncached hc]
      have he : Enters scope [] cache record.name :=
        ⟨List.not_mem_nil, Table.find?_eq_none_iff.mp hc, fun h => absurd rfl h⟩
      exact build_tracedAt he fun name => resolve_traced scope [record.name] name

theorem generateEach_traced (scope : Scope) (results : Table Components) (records : List Record) :
    Traced scope [] (generateEach scope results records) := by
  induction records generalizing results with
  | nil => exact ok_traced _
  | cons record rest ih =>
      by_cases hr : record.name ∈ results.keys
      · rw [generateEach_cons_of_mem hr]
        exact ih results
      intro cache
      have hg := generateRecord_traced scope record cache
      rcases ho : generateRecord scope record cache with ⟨result, middle, events⟩
      rw [ho] at hg
      cases result with
      | error error =>
          rw [generateEach_cons_of_error hr ho]
          exact .reported hg
      | ok components =>
          rw [generateEach_cons_of_ok hr ho]
          exact .chained hg (ih _ middle)

theorem generate_traced (scope : Scope) (records : List Record) :
    Traced scope [] (generate scope records) := by
  have hs : Traced scope [] (note (.batchStarted records.length)) := fun _ => .started _
  have hf (count : Nat) : Traced scope [] (note (.batchFinished count)) := fun _ => .finished _
  unfold generate
  apply bind_traced hs
  intro _
  apply bind_traced (generateEach_traced scope [] records)
  intro results
  exact bind_traced (hf results.length) fun _ => ok_traced _

end Generation

end ToolSchema
