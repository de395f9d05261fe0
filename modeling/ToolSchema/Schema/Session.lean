import ToolSchema.Dialect
import ToolSchema.Schema.Generation

/-! Generators. A generator holds a batch of target records without repeated names, a table of
enumerations and the cache of what it has generated; its public list of records starts as the batch
and may grow. A step asks it for something or adds to it, and leaves it changed whether the step
succeeds or not. -/

namespace ToolSchema

structure Generator where
  records : List Record
  targets : List Record
  enums : Table Enumeration
  cache : Table Components
  distinct_targets : (targets.map Record.name).Nodup

namespace Generator

/-- The first name that a list of records repeats. -/
def repeatedName? : List String → List Record → Option String
  | _, [] => none
  | seen, record :: rest =>
    if record.name ∈ seen then some record.name else repeatedName? (record.name :: seen) rest

theorem nodup_of_repeatedName? {seen : List String} {records : List Record}
    (h : repeatedName? seen records = none) :
    (records.map Record.name).Nodup ∧ ∀ record ∈ records, record.name ∉ seen := by
  fun_induction repeatedName? seen records with
  | case1 => simp
  | case2 => simp at h
  | case3 seen record rest hr ih =>
    obtain ⟨hn, hs⟩ := ih h
    simp only [List.map_cons, List.nodup_cons, List.mem_map, not_exists, not_and, List.mem_cons,
      forall_eq_or_imp]
    refine ⟨⟨fun other ho he => ?_, hn⟩, hr, fun other ho hm => ?_⟩
    · exact hs other ho (by simp [he])
    · exact hs other ho (by simp [hm])

/-- A generator with an empty cache. -/
def ofBatch (records : List Record) (enums : Table Enumeration) :
    Except GenerationError Generator :=
  match h : repeatedName? [] records with
  | some name => .error (.duplicateRecord name)
  | none => .ok ⟨records, records, enums, [], (nodup_of_repeatedName? h).1⟩

def scope (g : Generator) : Generation.Scope := ⟨g.targets, g.enums⟩

inductive Step where
  | generate
  | generateRecord (record : Record)
  | resolve (name : String)
  | mapType (rawType : String) (site : Site)
  /-- The document of the given records, or of the public list. -/
  | format (format : String) (records : Option (List Record))
  | addEnum (enumeration : Enumeration)
  | appendRecord (record : Record)

inductive Answer where
  | batch (results : Table Components)
  | components (found : Option Components)
  | fragment (value : Json)
  | document (entries : List Json)
  | done

inductive StepError where
  | generation (error : GenerationError)
  | formatting (error : FormattingError)
  deriving DecidableEq, Repr

structure StepOutcome where
  answer : Except StepError Answer
  generator : Generator
  events : List Generation.Event

/-- A computation run on the cache of a generator. -/
def run {α : Type} (g : Generator) (answer : α → Answer) (computation : Generation α) :
    StepOutcome :=
  let outcome := computation g.cache
  ⟨match outcome.result with
    | .ok value => .ok (answer value)
    | .error error => .error (.generation error),
    { g with cache := outcome.cache }, outcome.events⟩

def step (g : Generator) : Step → StepOutcome
  | .generate => g.run .batch (Generation.generate g.scope g.records)
  | .generateRecord record =>
    g.run (fun found => .components (some found)) (Generation.generateRecord g.scope record)
  | .resolve name => g.run .components (Generation.resolve g.scope [] name)
  | .mapType rawType site =>
    g.run .fragment (Generation.mapType g.enums (Generation.resolve g.scope []) site rawType)
  | .format format records =>
    ⟨match formatSchemas (records.getD g.records) (Components.table g.cache) format with
      | .ok entries => .ok (.document entries)
      | .error error => .error (.formatting error), g, []⟩
  | .addEnum enumeration =>
    ⟨.ok .done, { g with enums := g.enums.put enumeration.name enumeration }, []⟩
  | .appendRecord record => ⟨.ok .done, { g with records := g.records ++ [record] }, []⟩

/-- The outcomes of steps taken one after the other. -/
def steps : Generator → List Step → List StepOutcome
  | _, [] => []
  | g, s :: rest =>
    let outcome := g.step s
    outcome :: outcome.generator.steps rest

end Generator

/-! ### Replay

The names in progress at a point of a run are what the events up to that point leave: a record
entered is in progress until it is left. -/

namespace Generation.Event

def advance (inProgress : List String) : Generation.Event → List String
  | .entered name => inProgress ++ [name]
  | .left _ => inProgress.dropLast
  | _ => inProgress

def inProgress (events : List Generation.Event) : List String := events.foldl advance []

end Generation.Event

/-- The components of a batch of records from an empty cache. -/
def generateSchemas (records : List Record) (enums : Table Enumeration) :
    Except GenerationError (Table Components) := do
  let g ← Generator.ofBatch records enums
  (Generation.generate g.scope g.records []).result

end ToolSchema
