import ToolSchema.Proofs.FailedExpansion
import ToolSchema.Proofs.Trace

/-! The recursion of generation, call by call. `Returns` says what a call gives once the calls that it
makes have returned: a record is looked for in the cache, then on the path, and else its fields are
mapped; the type of a field is followed level by level; a leaf asks for a record by its name, and there
the next record begins. Nothing in these rules says that this ends: texts get shorter within a field
only, and the next record brings texts of any length. It ends because no record is entered that is in
progress and all but the first are targets. So every call returns, and returns what it computes and
nothing else (`returns_iff`). -/

namespace ToolSchema

namespace Generation

inductive Call where
  | resolve (name : String)
  | record (r : Record)
  /-- The rest of the fields of a record, after the components of those before. -/
  | fields (record : String) (before : Components) (rest : List Field)
  | type (site : Site) (text : List Char)
  /-- The rest of the records of a batch, after the results of those before. -/
  | each (results : Table Components) (rest : List Record)
  | batch (records : List Record)

/-- What a call gives where it gives no error. -/
abbrev Call.Value : Call → Type
  | .resolve _ => Option Components
  | .record _ => Components
  | .fields _ _ _ => Components
  | .type _ _ => Json
  | .each _ _ => Table Components
  | .batch _ => Table Components

variable {α β : Type}

namespace Outcome

def map (f : α → β) (outcome : Outcome α) : Outcome β :=
  ⟨outcome.result.map f, outcome.cache, outcome.events⟩

theorem map_map {γ : Type} (f : α → β) (g : β → γ) (outcome : Outcome α) :
    (outcome.map f).map g = outcome.map (g ∘ f) := by
  rcases outcome with ⟨result, after, events⟩
  cases result <;> rfl

theorem map_id (outcome : Outcome α) : outcome.map id = outcome := by
  rcases outcome with ⟨result, after, events⟩
  cases result <;> rfl

/-- An outcome with the events that came before. -/
def since (earlier : List Event) (outcome : Outcome α) : Outcome α :=
  ⟨outcome.result, outcome.cache, earlier ++ outcome.events⟩

end Outcome

/-- The fragment of a leaf from what its name resolves to. -/
def referenced (site : Site) (written name : List Char) :
    Except GenerationError (Option Components) → Except GenerationError Json
  | .ok (some components) => .ok (Fragment.record components)
  | .ok none => .error (Expansion.unknownLeaf site written name)
  | .error error => .error error

/-- What the calls of the recursion return, at a path of records in progress and from a cache. -/
inductive Returns (scope : Scope) :
    List String → (call : Call) → Table Components → Outcome call.Value → Prop
  -- A name: in the cache, of no target, or of a target that has its turn.
  | found {path name cache components} (h : cache.find? name = some components) :
      Returns scope path (.resolve name) cache ⟨.ok (some components), cache, []⟩
  | unknown {path name cache} (hc : cache.find? name = none) (ht : scope.target? name = none) :
      Returns scope path (.resolve name) cache ⟨.ok none, cache, []⟩
  | target {path name cache r} {outcome : Outcome Components} (hc : cache.find? name = none)
      (ht : scope.target? name = some r) (h : Returns scope path (.record r) cache outcome) :
      Returns scope path (.resolve name) cache (outcome.map some)
  -- A record: in the cache, on the path, or entered, with its fields below it.
  | remembered {path cache components} {r : Record} (h : cache.find? r.name = some components) :
      Returns scope path (.record r) cache ⟨.ok components, cache, []⟩
  | cycle {path cache} {r : Record} (hc : cache.find? r.name = none) (hp : r.name ∈ path) :
      Returns scope path (.record r) cache
        ⟨.error (.cyclicDependency (path ++ [r.name])), cache, [.cycleFound (path ++ [r.name])]⟩
  | built {path cache after components events} {r : Record} (hc : cache.find? r.name = none)
      (hp : r.name ∉ path)
      (h : Returns scope (path ++ [r.name]) (.fields r.name {} r.fields) cache
        ⟨.ok components, after, events⟩) :
      Returns scope path (.record r) cache
        ⟨.ok components, after.put r.name components,
          .entered r.name :: events ++ [.left r.name, .stored r.name]⟩
  | abandoned {path cache after error events} {r : Record} (hc : cache.find? r.name = none)
      (hp : r.name ∉ path)
      (h : Returns scope (path ++ [r.name]) (.fields r.name {} r.fields) cache
        ⟨.error error, after, events⟩) :
      Returns scope path (.record r) cache
        ⟨.error error, after, .entered r.name :: events ++ [.left r.name]⟩
  -- The fields of a record, in order, up to the first that is refused.
  | done {path record before cache} :
      Returns scope path (.fields record before []) cache ⟨.ok before, cache, []⟩
  | field {path record before cache middle fragment events rest} {field : Field}
      {outcome : Outcome Components}
      (hf : Returns scope path (.type ⟨record, field.name⟩ field.rawType.toList) cache
        ⟨.ok fragment, middle, events⟩)
      (hr : Returns scope path (.fields record (before.add field fragment) rest) middle outcome) :
      Returns scope path (.fields record before (field :: rest)) cache (outcome.since events)
  | refused {path record before cache after error events rest} {field : Field}
      (hf : Returns scope path (.type ⟨record, field.name⟩ field.rawType.toList) cache
        ⟨.error error, after, events⟩) :
      Returns scope path (.fields record before (field :: rest)) cache
        ⟨.error error, after, events⟩
  -- The text of a type, level by level, down to a leaf.
  | malformed {path site text cache why} (h : TypeExpr.shape text = .error why) :
      Returns scope path (.type site text) cache
        ⟨.error (.malformedContainer (String.ofList text) why site), cache, []⟩
  | foreignKey {path site text cache key value optional}
      (h : TypeExpr.shape text = .ok ⟨.map key value, optional⟩) (hk : key ≠ TypeExpr.keyType) :
      Returns scope path (.type site text) cache
        ⟨.error (.unsupportedKey (String.ofList text) site), cache, []⟩
  | array {path site text cache element optional} {outcome : Outcome Json}
      (h : TypeExpr.shape text = .ok ⟨.array element, optional⟩)
      (he : Returns scope path (.type site element) cache outcome) :
      Returns scope path (.type site text) cache (outcome.map (Fragment.level .array))
  | map {path site text cache value optional} {outcome : Outcome Json}
      (h : TypeExpr.shape text = .ok ⟨.map TypeExpr.keyType value, optional⟩)
      (hv : Returns scope path (.type site value) cache outcome) :
      Returns scope path (.type site text) cache (outcome.map (Fragment.level .map))
  | primitive {path site text cache name optional p}
      (h : TypeExpr.shape text = .ok ⟨.named name, optional⟩)
      (hp : primitives.find? (String.ofList name) = some p) :
      Returns scope path (.type site text) cache ⟨.ok (Fragment.primitive p), cache, []⟩
  | enumeration {path site text cache name optional e}
      (h : TypeExpr.shape text = .ok ⟨.named name, optional⟩)
      (hp : primitives.find? (String.ofList name) = none)
      (he : scope.enums.find? (String.ofList name) = some e) :
      Returns scope path (.type site text) cache ⟨.ok e.fragment, cache, []⟩
  | reference {path site text cache name optional} {outcome : Outcome (Option Components)}
      (h : TypeExpr.shape text = .ok ⟨.named name, optional⟩)
      (hp : primitives.find? (String.ofList name) = none)
      (he : scope.enums.find? (String.ofList name) = none)
      (hr : Returns scope path (.resolve (String.ofList name)) cache outcome) :
      Returns scope path (.type site text) cache
        ⟨referenced site text name outcome.result, outcome.cache, outcome.events⟩
  -- The records of a batch, each from an empty path, up to the first that fails.
  | ended {results cache} : Returns scope [] (.each results []) cache ⟨.ok results, cache, []⟩
  | passed {results cache rest outcome} {r : Record} (h : r.name ∈ results.keys)
      (hr : Returns scope [] (.each results rest) cache outcome) :
      Returns scope [] (.each results (r :: rest)) cache outcome
  | next {results cache middle components events rest} {r : Record}
      {outcome : Outcome (Table Components)}
      (h : r.name ∉ results.keys)
      (hr : Returns scope [] (.record r) cache ⟨.ok components, middle, events⟩)
      (hn : Returns scope [] (.each (results.put r.name components) rest) middle outcome) :
      Returns scope [] (.each results (r :: rest)) cache (outcome.since events)
  | stopped {results cache after error events rest} {r : Record} (h : r.name ∉ results.keys)
      (hr : Returns scope [] (.record r) cache ⟨.error error, after, events⟩) :
      Returns scope [] (.each results (r :: rest)) cache
        ⟨.error error, after, events ++ [.batchFailed r.name error]⟩
  | finished {records cache after results events}
      (h : Returns scope [] (.each [] records) cache ⟨.ok results, after, events⟩) :
      Returns scope [] (.batch records) cache
        ⟨.ok results, after,
          .batchStarted records.length :: events ++ [.batchFinished results.length]⟩
  | failed {records cache after error events}
      (h : Returns scope [] (.each [] records) cache ⟨.error error, after, events⟩) :
      Returns scope [] (.batch records) cache
        ⟨.error error, after, .batchStarted records.length :: events⟩

/-! ### What a call computes -/

/-- A record on its turn, when others are in progress. -/
def recordAt (scope : Scope) (path : List String) (r : Record) : Generation Components := do
  match ← cached? r.name with
  | some components => return components
  | none =>
    if r.name ∈ path then
      note (.cycleFound (path ++ [r.name]))
      fail (.cyclicDependency (path ++ [r.name]))
    else build scope.enums (resolve scope (path ++ [r.name])) r

/-- A call as the generator computes it. -/
def run (scope : Scope) (path : List String) : (call : Call) → Generation call.Value
  | .resolve name => resolve scope path name
  | .record r => recordAt scope path r
  | .fields record before rest => mapFields scope.enums (resolve scope path) record before rest
  | .type site text => mapType scope.enums (resolve scope path) site (String.ofList text)
  | .each results rest => generateEach scope results rest
  | .batch records => generate scope records

variable {scope : Scope} {path : List String} {cache middle : Table Components} {name : String}
  {components : Components} {r : Record} {events : List Event} {error : GenerationError}

theorem map_of_bind (computation : Generation α) (f : α → β) (cache : Table Components) :
    (do return f (← computation) : Generation β) cache = (computation cache).map f := by
  rcases hr : computation cache with ⟨result, middle, events⟩
  cases result with
  | error error =>
      exact bind_of_error hr
  | ok value =>
      rw [bind_of_ok hr]
      exact congrArg (Outcome.mk _ _) (List.append_nil events)

theorem recordAt_of_cached (h : cache.find? r.name = some components) :
    recordAt scope path r cache = ⟨.ok components, cache, []⟩ := by
  rw [recordAt, bind_of_ok (cached?_eq h)]
  rfl

theorem recordAt_of_cycle (hc : cache.find? r.name = none) (hp : r.name ∈ path) :
    recordAt scope path r cache =
      ⟨.error (.cyclicDependency (path ++ [r.name])), cache, [.cycleFound (path ++ [r.name])]⟩ := by
  rw [recordAt, bind_of_ok (cached?_eq_none hc)]
  dsimp only
  rw [if_pos hp]
  rfl

theorem recordAt_of_uncached (hc : cache.find? r.name = none) (hp : r.name ∉ path) :
    recordAt scope path r cache =
      build scope.enums (resolve scope (path ++ [r.name])) r cache := by
  rw [recordAt, bind_of_ok (cached?_eq_none hc)]
  dsimp only
  rw [if_neg hp]
  rfl

/-- A target that is not in the cache is resolved as the record that it is. -/
theorem resolve_of_target (hc : cache.find? name = none) (ht : scope.target? name = some r) :
    resolve scope path name cache = (recordAt scope path r cache).map some := by
  obtain ⟨-, rfl⟩ := Scope.target?_eq_some ht
  rw [resolve_of_uncached hc]
  by_cases hp : r.name ∈ path
  · rw [fetch_of_cycle ht hp, recordAt_of_cycle hc hp]
    rfl
  · rw [fetch_of_target ht hp, recordAt_of_uncached hc hp]
    exact map_of_bind _ some cache

section Mapping

variable {enums : Table Enumeration} {resolver : Resolver} {site : Site} {text : List Char}
  {optional : Bool}

theorem mapFields_cons_of_ok {record : String} {before : Components} {field : Field} {fragment : Json}
    (h : mapType enums resolver ⟨record, field.name⟩ field.rawType cache =
      ⟨.ok fragment, middle, events⟩) (rest : List Field) :
    mapFields enums resolver record before (field :: rest) cache =
      (mapFields enums resolver record (before.add field fragment) rest middle).since events := by
  rw [mapFields, bind_of_ok h]
  rfl

theorem mapFields_cons_of_error {record : String} {before : Components} {field : Field}
    (h : mapType enums resolver ⟨record, field.name⟩ field.rawType cache =
      ⟨.error error, middle, events⟩) (rest : List Field) :
    mapFields enums resolver record before (field :: rest) cache =
      ⟨.error error, middle, events⟩ := by
  rw [mapFields, bind_of_error h]

theorem mapType_of_malformed {why : TypeExpr.Malformation} (h : TypeExpr.shape text = .error why) :
    mapType enums resolver site (String.ofList text) cache =
      ⟨.error (.malformedContainer (String.ofList text) why site), cache, []⟩ := by
  unfold mapType
  rw [String.toList_ofList, TypeExpr.descend_of_malformed h]
  rfl

theorem mapType_of_foreignKey {key value : List Char}
    (h : TypeExpr.shape text = .ok ⟨.map key value, optional⟩) (hk : key ≠ TypeExpr.keyType) :
    mapType enums resolver site (String.ofList text) cache =
      ⟨.error (.unsupportedKey (String.ofList text) site), cache, []⟩ := by
  unfold mapType
  rw [String.toList_ofList, TypeExpr.descend_of_foreignKey h hk]
  rfl

/-- A level that hands a part down is mapped as the part, inside the level. -/
theorem mapType_of_level {part : List Char} {level : TypeExpr.Level}
    (h : TypeExpr.descend text = (TypeExpr.descend part).map (TypeExpr.Leaf.under level)) :
    mapType enums resolver site (String.ofList text) cache =
      (mapType enums resolver site (String.ofList part) cache).map (Fragment.level level) := by
  unfold mapType
  rw [String.toList_ofList, String.toList_ofList, h]
  cases TypeExpr.descend part with
  | error why => cases why <;> rfl
  | ok leaf =>
      have hwrap (levels : List TypeExpr.Level) :=
        map_of_bind (leafFragment enums resolver site leaf) (Fragment.wrap levels) cache
      refine (hwrap (level :: leaf.levels)).trans ?_
      refine Eq.trans ?_ (congrArg (Outcome.map (Fragment.level level)) (hwrap leaf.levels).symm)
      rw [Outcome.map_map]
      rfl

theorem mapType_of_named {name : List Char}
    (h : TypeExpr.shape text = .ok ⟨.named name, optional⟩) :
    mapType enums resolver site (String.ofList text) cache =
      leafFragment enums resolver site ⟨[], text, name⟩ cache := by
  unfold mapType
  rw [String.toList_ofList, TypeExpr.descend_of_named h]
  exact (map_of_bind _ _ cache).trans (Outcome.map_id _)

theorem leafFragment_of_primitive {leaf : TypeExpr.Leaf} {p : Primitive}
    (hp : primitives.find? (String.ofList leaf.name) = some p) :
    leafFragment enums resolver site leaf cache = ⟨.ok (Fragment.primitive p), cache, []⟩ := by
  unfold leafFragment
  simp only [hp]
  rfl

theorem leafFragment_of_enumeration {leaf : TypeExpr.Leaf} {e : Enumeration}
    (hp : primitives.find? (String.ofList leaf.name) = none)
    (he : enums.find? (String.ofList leaf.name) = some e) :
    leafFragment enums resolver site leaf cache = ⟨.ok e.fragment, cache, []⟩ := by
  unfold leafFragment
  simp only [hp, he]
  rfl

theorem leafFragment_of_reference {leaf : TypeExpr.Leaf}
    (hp : primitives.find? (String.ofList leaf.name) = none)
    (he : enums.find? (String.ofList leaf.name) = none) :
    leafFragment enums resolver site leaf cache =
      let outcome := resolver (String.ofList leaf.name) cache
      ⟨referenced site leaf.written leaf.name outcome.result, outcome.cache, outcome.events⟩ := by
  unfold leafFragment
  simp only [hp, he]
  rcases hr : resolver (String.ofList leaf.name) cache with ⟨result, middle, events⟩
  cases result with
  | error error => exact bind_of_error hr
  | ok found =>
      rw [bind_of_ok hr]
      cases found with
      | some components =>
          exact congrArg (Outcome.mk _ _) (List.append_nil events)
      | none =>
          dsimp only [referenced]
          unfold Expansion.unknownLeaf
          split
          · exact congrArg (Outcome.mk _ _) (List.append_nil events)
          · exact congrArg (Outcome.mk _ _) (List.append_nil events)

end Mapping

theorem generate_of_ok {records : List Record} {results : Table Components}
    (h : generateEach scope [] records cache = ⟨.ok results, middle, events⟩) :
    generate scope records cache = ⟨.ok results, middle,
      .batchStarted records.length :: events ++ [.batchFinished results.length]⟩ := by
  have hs : note (.batchStarted records.length) cache =
      ⟨.ok (), cache, [.batchStarted records.length]⟩ := rfl
  rw [generate, bind_of_ok hs, bind_of_ok h]
  rfl

theorem generate_of_error {records : List Record}
    (h : generateEach scope [] records cache = ⟨.error error, middle, events⟩) :
    generate scope records cache =
      ⟨.error error, middle, .batchStarted records.length :: events⟩ := by
  have hs : note (.batchStarted records.length) cache =
      ⟨.ok (), cache, [.batchStarted records.length]⟩ := rfl
  rw [generate, bind_of_ok hs, bind_of_error h]
  rfl

/-! ### Every call returns -/

/-- If the names that a type may refer to return, the type does: it is shorter at every level. -/
theorem type_returns
    (hr : ∀ name cache, Returns scope path (.resolve name) cache (resolve scope path name cache))
    (site : Site) (text : List Char) (cache : Table Components) :
    Returns scope path (.type site text) cache
      (mapType scope.enums (resolve scope path) site (String.ofList text) cache) := by
  fun_induction TypeExpr.descend text with
  | case1 text why h =>
      rw [mapType_of_malformed h]
      exact .malformed h
  | case2 text name optional h =>
      rw [mapType_of_named h]
      cases hp : primitives.find? (String.ofList name) with
      | some p =>
          rw [leafFragment_of_primitive hp]
          exact .primitive h hp
      | none =>
          cases he : scope.enums.find? (String.ofList name) with
          | some e =>
              rw [leafFragment_of_enumeration hp he]
              exact .enumeration h hp he
          | none =>
              rw [leafFragment_of_reference hp he]
              exact .reference h hp he (hr _ cache)
  | case3 text element optional h _ ih =>
      rw [mapType_of_level (TypeExpr.descend_of_array h)]
      exact .array h ih
  | case4 text value optional h _ ih =>
      rw [mapType_of_level (TypeExpr.descend_of_map h)]
      exact .map h ih
  | case5 text key value optional h _ hk =>
      rw [mapType_of_foreignKey h hk]
      exact .foreignKey h hk

theorem fields_return
    (hr : ∀ name cache, Returns scope path (.resolve name) cache (resolve scope path name cache))
    (record : String) (before : Components) (rest : List Field) (cache : Table Components) :
    Returns scope path (.fields record before rest) cache
      (mapFields scope.enums (resolve scope path) record before rest cache) := by
  induction rest generalizing before cache with
  | nil => exact .done
  | cons field rest ih =>
      have hf := type_returns hr ⟨record, field.name⟩ field.rawType.toList cache
      rw [String.ofList_toList] at hf
      rcases hm : mapType scope.enums (resolve scope path) ⟨record, field.name⟩ field.rawType cache
        with ⟨result, middle, events⟩
      rw [hm] at hf
      cases result with
      | ok fragment =>
          rw [mapFields_cons_of_ok hm]
          exact .field hf (ih _ middle)
      | error error =>
          rw [mapFields_cons_of_error hm]
          exact .refused hf

/-- If the names that the fields of a record may refer to return while it is in progress, the record
does. -/
theorem record_returns (hr : r.name ∉ path → ∀ name cache,
      Returns scope (path ++ [r.name]) (.resolve name) cache
        (resolve scope (path ++ [r.name]) name cache)) (cache : Table Components) :
    Returns scope path (.record r) cache (recordAt scope path r cache) := by
  cases hc : cache.find? r.name with
  | some components =>
      rw [recordAt_of_cached hc]
      exact .remembered hc
  | none =>
      by_cases hp : r.name ∈ path
      · rw [recordAt_of_cycle hc hp]
        exact .cycle hc hp
      · rw [recordAt_of_uncached hc hp]
        have hf := fields_return (hr hp) r.name {} r.fields cache
        rcases hm : mapFields scope.enums (resolve scope (path ++ [r.name])) r.name {} r.fields cache
          with ⟨result, middle, events⟩
        rw [hm] at hf
        cases result with
        | ok components =>
            rw [build_of_ok hm]
            exact .built hc hp hf
        | error error =>
            rw [build_of_error hm]
            exact .abandoned hc hp hf

/-- The targets off the path get fewer with every record that is entered. -/
theorem resolve_returns (scope : Scope) (path : List String) (name : String)
    (cache : Table Components) :
    Returns scope path (.resolve name) cache (resolve scope path name cache) := by
  induction hn : scope.unvisited path using Nat.strongRecOn generalizing path name cache with
  | _ n ih =>
      subst hn
      cases hc : cache.find? name with
      | some components =>
          rw [resolve_of_cached hc]
          exact .found hc
      | none =>
          cases ht : scope.target? name with
          | none =>
              rw [resolve_of_uncached hc, fetch_of_unknown ht]
              exact .unknown hc ht
          | some r =>
              rw [resolve_of_target hc ht]
              refine .target hc ht (record_returns (fun hp other later => ?_) cache)
              exact ih _ (Scope.unvisited_lt (Scope.target?_eq_some ht).1 hp) _ other later rfl

theorem each_returns (results : Table Components) (records : List Record)
    (cache : Table Components) :
    Returns scope [] (.each results records) cache (generateEach scope results records cache) := by
  induction records generalizing results cache with
  | nil => exact .ended
  | cons r rest ih =>
      by_cases hk : r.name ∈ results.keys
      · rw [generateEach_cons_of_mem hk]
        exact .passed hk (ih results cache)
      have hg : Returns scope [] (.record r) cache (generateRecord scope r cache) :=
        record_returns (fun _ name later => resolve_returns scope _ name later) cache
      rcases hm : generateRecord scope r cache with ⟨result, middle, events⟩
      rw [hm] at hg
      cases result with
      | ok components =>
          rw [generateEach_cons_of_ok hk hm]
          exact .next hk hg (ih _ middle)
      | error error =>
          rw [generateEach_cons_of_error hk hm]
          exact .stopped hk hg

theorem batch_returns (records : List Record) (cache : Table Components) :
    Returns scope [] (.batch records) cache (generate scope records cache) := by
  have he : Returns scope [] (.each [] records) cache (generateEach scope [] records cache) :=
    each_returns [] records cache
  rcases hm : generateEach scope [] records cache with ⟨result, middle, events⟩
  rw [hm] at he
  cases result with
  | ok results =>
      rw [generate_of_ok hm]
      exact .finished he
  | error error =>
      rw [generate_of_error hm]
      exact .failed he

theorem run_returns (scope : Scope) (call : Call) (cache : Table Components) :
    Returns scope [] call cache (run scope [] call cache) := by
  have hr (name : String) (later : Table Components) := resolve_returns scope [] name later
  cases call with
  | resolve name => exact hr name cache
  | record r => exact record_returns (fun _ name later => resolve_returns scope _ name later) cache
  | fields record before rest => exact fields_return hr record before rest cache
  | type site text => exact type_returns hr site text cache
  | each results rest => exact each_returns results rest cache
  | batch records => exact batch_returns records cache

theorem run_type (scope : Scope) (path : List String) (site : Site) (rawType : String) :
    run scope path (.type site rawType.toList) =
      mapType scope.enums (resolve scope path) site rawType := by
  rw [run, String.ofList_toList]

/-- A call returns nothing but what it computes. -/
theorem Returns.eq_run {call : Call} {outcome : Outcome call.Value}
    (h : Returns scope path call cache outcome) : outcome = run scope path call cache := by
  induction h with
  | found h => exact (resolve_of_cached h).symm
  | unknown hc ht => exact ((resolve_of_uncached hc).trans (by rw [fetch_of_unknown ht]; rfl)).symm
  | target hc ht _ ih => exact (congrArg _ ih).trans (resolve_of_target hc ht).symm
  | remembered h => exact (recordAt_of_cached h).symm
  | cycle hc hp => exact (recordAt_of_cycle hc hp).symm
  | built hc hp _ ih => exact ((recordAt_of_uncached hc hp).trans (build_of_ok ih.symm)).symm
  | abandoned hc hp _ ih => exact ((recordAt_of_uncached hc hp).trans (build_of_error ih.symm)).symm
  | done => rfl
  | field _ _ hf hr =>
      rw [run_type] at hf
      exact (congrArg _ hr).trans (mapFields_cons_of_ok hf.symm _).symm
  | refused _ hf =>
      rw [run_type] at hf
      exact (mapFields_cons_of_error hf.symm _).symm
  | malformed h => exact (mapType_of_malformed h).symm
  | foreignKey h hk => exact (mapType_of_foreignKey h hk).symm
  | array h _ ih =>
      exact (congrArg _ ih).trans (mapType_of_level (TypeExpr.descend_of_array h)).symm
  | map h _ ih => exact (congrArg _ ih).trans (mapType_of_level (TypeExpr.descend_of_map h)).symm
  | primitive h hp => exact ((mapType_of_named h).trans (leafFragment_of_primitive hp)).symm
  | enumeration h hp he =>
      exact ((mapType_of_named h).trans (leafFragment_of_enumeration hp he)).symm
  | reference h hp he _ ih =>
      rw [ih]
      exact ((mapType_of_named h).trans (leafFragment_of_reference hp he)).symm
  | ended => rfl
  | passed h _ ih => exact ih.trans (congrFun (generateEach_cons_of_mem h) _).symm
  | next h _ _ hr hn => exact (congrArg _ hn).trans (generateEach_cons_of_ok h hr.symm).symm
  | stopped h _ ih => exact (generateEach_cons_of_error h ih.symm).symm
  | finished _ ih => exact (generate_of_ok ih.symm).symm
  | failed _ ih => exact (generate_of_error ih.symm).symm

theorem returns_iff {call : Call} {outcome : Outcome call.Value} :
    Returns scope [] call cache outcome ↔ outcome = run scope [] call cache :=
  ⟨Returns.eq_run, fun h => h ▸ run_returns scope call cache⟩

end Generation

end ToolSchema
