import ToolSchema.Schema.Error
import ToolSchema.Schema.Fragment
import ToolSchema.Text.Identifier

/-! Generating components. A computation works on a cache of finished records: it gives a result or
an error, the cache it leaves behind either way, and the events on the way. A record is generated by
mapping its fields in order; a field whose leaf names a target needs the components of that target,
taken from the cache or generated on the spot. The path of records in progress is handed down, and a
target on it already closes a cycle. Each target generated on the spot makes the path longer by a
target that was not on it, so the recursion ends. -/

namespace ToolSchema

/-- What happens while components are generated. -/
inductive Generation.Event where
  | entered (name : String)
  | left (name : String)
  | stored (name : String)
  | cycleFound (chain : List String)
  | batchStarted (count : Nat)
  | batchFinished (count : Nat)
  | batchFailed (name : String) (error : GenerationError)
  deriving DecidableEq, Repr

structure Generation.Outcome (α : Type) where
  result : Except GenerationError α
  cache : Table Components
  events : List Generation.Event

def Generation (α : Type) := Table Components → Generation.Outcome α

namespace Generation

variable {α β : Type}

def ok (value : α) : Generation α := fun cache => ⟨.ok value, cache, []⟩

def fail (error : GenerationError) : Generation α := fun cache => ⟨.error error, cache, []⟩

def andThen (first : Generation α) (next : α → Generation β) : Generation β := fun cache =>
  let before := first cache
  match before.result with
  | .error error => ⟨.error error, before.cache, before.events⟩
  | .ok value =>
    let after := next value before.cache
    ⟨after.result, after.cache, before.events ++ after.events⟩

instance : Monad Generation where
  pure := ok
  bind := andThen

def note (event : Event) : Generation Unit := fun cache => ⟨.ok (), cache, [event]⟩

def cached? (name : String) : Generation (Option Components) := fun cache =>
  ⟨.ok (cache.find? name), cache, []⟩

def store (name : String) (components : Components) : Generation Unit := fun cache =>
  ⟨.ok (), cache.put name components, [.stored name]⟩

/-- A computation with a record in progress, however it ends. -/
def within (name : String) (body : Generation α) : Generation α := fun cache =>
  let inner := body cache
  ⟨inner.result, inner.cache, .entered name :: inner.events ++ [.left name]⟩

/-! ### Fields and records -/

/-- The way to the components of a record by its name; none if no record can be referred to so. -/
abbrev Resolver := String → Generation (Option Components)

/-- The meaning of a leaf: a primitive, else an enumeration, else a record. -/
def leafFragment (enums : Table Enumeration) (resolve : Resolver) (site : Site)
    (leaf : TypeExpr.Leaf) : Generation Json := do
  let name := String.ofList leaf.name
  match primitives.find? name with
  | some p => return Fragment.primitive p
  | none =>
    match enums.find? name with
    | some enumeration => return enumeration.fragment
    | none =>
      match ← resolve name with
      | some components => return Fragment.record components
      | none =>
        if Text.isIdentifier name then fail (.unrequestedReference name site)
        else fail (.unsupportedType (String.ofList leaf.written) site)

def mapType (enums : Table Enumeration) (resolve : Resolver) (site : Site) (rawType : String) :
    Generation Json :=
  match TypeExpr.descend rawType.toList with
  | .error (.malformed level why) => fail (.malformedContainer (String.ofList level) why site)
  | .error (.foreignKey level) => fail (.unsupportedKey (String.ofList level) site)
  | .ok leaf => do
    let fragment ← leafFragment enums resolve site leaf
    return Fragment.wrap leaf.levels fragment

/-- The components of a record after some of its fields, with the rest of them mapped in order. -/
def mapFields (enums : Table Enumeration) (resolve : Resolver) (record : String) :
    Components → List Field → Generation Components
  | components, [] => ok components
  | components, field :: rest => do
    let fragment ← mapType enums resolve ⟨record, field.name⟩ field.rawType
    mapFields enums resolve record (components.add field fragment) rest

/-- A record generated and stored. -/
def build (enums : Table Enumeration) (resolve : Resolver) (record : Record) :
    Generation Components := do
  let components ← within record.name (mapFields enums resolve record.name {} record.fields)
  store record.name components
  return components

/-! ### References between records -/

/-- The names that a generator can mean: its target records and its enumerations. -/
structure Scope where
  targets : List Record
  enums : Table Enumeration

def Scope.target? (scope : Scope) (name : String) : Option Record :=
  scope.targets.find? fun record => record.name = name

/-- How many targets are not on a path. -/
def Scope.unvisited (scope : Scope) (path : List String) : Nat :=
  scope.targets.countP fun record => record.name ∉ path

theorem Scope.target?_eq_some {scope : Scope} {name : String} {record : Record}
    (h : scope.target? name = some record) : record ∈ scope.targets ∧ record.name = name :=
  ⟨List.mem_of_find?_eq_some h, by simpa using List.find?_some h⟩

theorem Scope.unvisited_lt {scope : Scope} {path : List String} {record : Record}
    (hm : record ∈ scope.targets) (hp : record.name ∉ path) :
    scope.unvisited (path ++ [record.name]) < scope.unvisited path := by
  have hle : ∀ targets : List Record,
      (targets.countP fun r => r.name ∉ path ++ [record.name]) ≤
        targets.countP fun r => r.name ∉ path := by
    intro targets
    refine List.countP_mono_left fun r _ hr => ?_
    simp_all
  unfold Scope.unvisited
  generalize scope.targets = targets at hm
  induction targets with
  | nil => simp at hm
  | cons first rest ih =>
    have hrest := hle rest
    rw [List.countP_cons, List.countP_cons]
    rcases List.mem_cons.1 hm with rfl | hm
    · simp [hp] at hrest ⊢
      omega
    · have := ih hm
      have hfirst : first.name ∈ path → first.name ∈ path ++ [record.name] := fun h => by simp [h]
      by_cases hf : first.name ∈ path
      · simpa [hf] using this
      · by_cases hr : first.name = record.name <;> simp [hf, hr] at this ⊢ <;> omega

/-- The components of the record of a name, when a path of records is in progress. -/
def resolve (scope : Scope) (path : List String) (name : String) :
    Generation (Option Components) := do
  match ← cached? name with
  | some components => return some components
  | none =>
    match h : scope.target? name with
    | none => return none
    | some record =>
      if hp : record.name ∈ path then
        note (.cycleFound (path ++ [record.name]))
        fail (.cyclicDependency (path ++ [record.name]))
      else
        have := Scope.unvisited_lt (Scope.target?_eq_some h).1 hp
        let components ← build scope.enums (resolve scope (path ++ [record.name])) record
        return some components
termination_by scope.unvisited path

/-- The components of any record, when none is in progress. -/
def generateRecord (scope : Scope) (record : Record) : Generation Components := do
  match ← cached? record.name with
  | some components => return components
  | none => build scope.enums (resolve scope [record.name]) record

/-- The components of records in order, added to results already there. A name that has a result is
passed over. -/
def generateEach (scope : Scope) : Table Components → List Record → Generation (Table Components)
  | results, [] => ok results
  | results, record :: rest =>
    if record.name ∈ results.keys then generateEach scope results rest
    else do
      let components ← fun cache =>
        let outcome := generateRecord scope record cache
        match outcome.result with
        | .ok _ => outcome
        | .error error =>
          { outcome with events := outcome.events ++ [.batchFailed record.name error] }
      generateEach scope (results.put record.name components) rest

def generate (scope : Scope) (records : List Record) : Generation (Table Components) := do
  note (.batchStarted records.length)
  let results ← generateEach scope [] records
  note (.batchFinished results.length)
  return results

end Generation

end ToolSchema
