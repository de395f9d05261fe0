import Mathlib.Data.List.Nodup
import ToolSchema.Proofs.Trace

/-! The order that sessions keep. Whatever the steps of a session are and however they end, the cache
only grows at its end, a record in progress is in progress once and is not in the cache, and a record
whose generation failed leaves nothing behind. The names in progress and the names in the cache at a
point of a session are what the events up to the point leave. -/

namespace ToolSchema

namespace Generation.Event

/-- The names that events store, in order. -/
def storedNames (events : List Event) : List String :=
  events.filterMap fun
    | .stored name => some name
    | _ => none

/-- A record was left and not stored right then. -/
def Raised (events : List Event) (name : String) : Prop :=
  ∃ before after, events = before ++ .left name :: after ∧ after.head? ≠ some (.stored name)

/-- Events from names in progress and names in the cache. At every point no name is in progress twice
or in the cache, and a cycle is reported with the names in progress then, the last one repeated. -/
def InOrder : List String → List String → List Event → Prop
  | stack, cached, [] => stack.Nodup ∧ stack.Disjoint cached
  | stack, cached, event :: rest =>
    (stack.Nodup ∧ stack.Disjoint cached) ∧
      (∀ chain, event = .cycleFound chain → ∃ name ∈ stack, chain = stack ++ [name]) ∧
      InOrder (advance stack event) (cached ++ storedNames [event]) rest

theorem storedNames_append (first second : List Event) :
    storedNames (first ++ second) = storedNames first ++ storedNames second :=
  List.filterMap_append

theorem inOrder_append {stack cached : List String} {first second : List Event}
    (hf : InOrder stack cached first)
    (hs : InOrder (first.foldl advance stack) (cached ++ storedNames first) second) :
    InOrder stack cached (first ++ second) := by
  induction first generalizing stack cached with
  | nil =>
      rw [List.foldl_nil, show storedNames [] = [] from rfl, List.append_nil] at hs
      exact hs
  | cons event rest ih =>
      obtain ⟨hm, hc, hr⟩ := hf
      refine ⟨hm, hc, ih hr ?_⟩
      rw [List.foldl_cons, ← List.singleton_append, storedNames_append, ← List.append_assoc] at hs
      exact hs

/-- An event that neither stores a record nor reports a cycle, before events that are in order. -/
theorem inOrder_cons {stack cached : List String} {event : Event} {rest : List Event}
    (hn : stack.Nodup) (hd : stack.Disjoint cached) (hc : ∀ chain, event ≠ .cycleFound chain)
    (hs : storedNames [event] = []) (h : InOrder (advance stack event) cached rest) :
    InOrder stack cached (event :: rest) := by
  refine ⟨⟨hn, hd⟩, fun chain he => absurd he (hc chain), ?_⟩
  rw [hs, List.append_nil]
  exact h

/-- What the order says at a point of the events. -/
theorem InOrder.at_point {stack cached : List String} {point rest : List Event}
    (h : InOrder stack cached (point ++ rest)) :
    ((point.foldl advance stack).Nodup ∧
        (point.foldl advance stack).Disjoint (cached ++ storedNames point)) ∧
      ∀ chain, rest.head? = some (.cycleFound chain) →
        ∃ name ∈ point.foldl advance stack, chain = point.foldl advance stack ++ [name] := by
  induction point generalizing stack cached with
  | nil =>
      rw [show storedNames [] = [] from rfl, List.append_nil]
      cases rest with
      | nil => exact ⟨h, fun chain hc => by cases hc⟩
      | cons event rest =>
          refine ⟨h.1, fun chain hc => h.2.1 chain ?_⟩
          rw [List.head?_cons] at hc
          exact Option.some.inj hc
  | cons event point ih =>
      have hi := ih h.2.2
      rw [List.append_assoc, ← storedNames_append, List.singleton_append] at hi
      exact hi

theorem raised_append {first second : List Event} {name : String}
    (h : Raised (first ++ second) name) : Raised first name ∨ Raised second name := by
  obtain ⟨before, after, he, hn⟩ := h
  rcases List.append_eq_append_iff.mp he with ⟨t, -, hs⟩ | ⟨t, hf, hs⟩
  · exact Or.inr ⟨t, after, hs, hn⟩
  · cases t with
    | nil => exact Or.inr ⟨[], after, hs.symm, hn⟩
    | cons event t =>
        rw [List.cons_append, List.cons.injEq] at hs
        obtain ⟨rfl, rfl⟩ := hs
        refine Or.inl ⟨before, t, hf, ?_⟩
        cases t with
        | nil => exact fun h => by cases h
        | cons next t => exact hn

theorem not_raised_nil (name : String) : ¬Raised [] name := by
  rintro ⟨before, after, he, -⟩
  exact List.append_ne_nil_of_right_ne_nil before (List.cons_ne_nil _ after) he.symm

/-- Of a single event only leaving raises, and only the record that is left. -/
theorem eq_left_of_raised {event : Event} {name : String} (h : Raised [event] name) :
    event = .left name := by
  obtain ⟨before, after, he, -⟩ := h
  cases before with
  | nil => exact (List.cons.inj he).1
  | cons first before =>
      have := (List.cons.inj he).2
      exact absurd this.symm (List.append_ne_nil_of_right_ne_nil before (List.cons_ne_nil _ after))

/-- What is raised while a record is in progress or after it. Entering raises nothing. -/
theorem raised_within {inner tail : List Event} {name other : String}
    (h : Raised (.entered name :: inner ++ tail) other) : Raised inner other ∨ Raised tail other := by
  rw [List.cons_append, ← List.singleton_append] at h
  rcases raised_append h with h | h
  · cases eq_left_of_raised h
  · exact raised_append h

theorem not_raised_stored (name other : String) : ¬Raised [.left name, .stored name] other := by
  rintro ⟨before, after, he, hn⟩
  cases before with
  | nil =>
      obtain ⟨hl, ha⟩ := List.cons.inj he
      cases hl
      rw [← ha] at hn
      exact hn rfl
  | cons first before =>
      have hs : Raised [.stored name] other := ⟨before, after, (List.cons.inj he).2, hn⟩
      cases eq_left_of_raised hs

end Generation.Event

/-! ### Traces -/

namespace Generation

open Event

theorem Enters.disjoint {scope : Scope} {path : List String} {cache : Table Components}
    {name : String} (he : Enters scope path cache name) (hd : path.Disjoint cache.keys) :
    (path ++ [name]).Disjoint cache.keys :=
  disjoint_concat.mpr ⟨hd, he.uncached⟩

theorem Enters.nodup {scope : Scope} {path : List String} {cache : Table Components}
    {name : String} (he : Enters scope path cache name) (hn : path.Nodup) :
    (path ++ [name]).Nodup := by
  rw [← List.concat_eq_append]
  exact hn.concat he.off_path

namespace Trace

variable {scope : Scope} {path : List String} {cache after : Table Components}
  {result : Except GenerationError Unit} {events : List Event}

/-- What is entered at a path is off the path, so nothing on the path is ever stored. -/
theorem apart (h : Trace scope path cache result after events) (hd : path.Disjoint cache.keys) :
    path.Disjoint after.keys := by
  induction h with
  | idle => exact hd
  | started => exact hd
  | finished => exact hd
  | cycle => exact hd
  | chained _ _ ih₁ ih₂ => exact ih₂ (ih₁ hd)
  | stored _ he _ ih =>
      obtain ⟨hp, -⟩ := disjoint_concat.mp (ih (he.disjoint hd))
      exact Table.disjoint_keys_put.mpr ⟨hp, he.off_path⟩
  | discarded he _ ih => exact (disjoint_concat.mp (ih (he.disjoint hd))).1
  | reported _ ih => exact ih hd

/-- The record that is entered is not stored below it. -/
theorem not_mem_keys {name : String} (h : Trace scope (path ++ [name]) cache result after events)
    (he : Enters scope path cache name) (hd : path.Disjoint cache.keys) : name ∉ after.keys :=
  (disjoint_concat.mp (h.apart (he.disjoint hd))).2

theorem cache_prefix (h : Trace scope path cache result after events)
    (hd : path.Disjoint cache.keys) : cache <+: after := by
  induction h with
  | idle => exact List.prefix_rfl
  | started => exact List.prefix_rfl
  | finished => exact List.prefix_rfl
  | cycle => exact List.prefix_rfl
  | chained h₁ _ ih₁ ih₂ => exact (ih₁ hd).trans (ih₂ (h₁.apart hd))
  | stored _ he h ih =>
      rw [Table.put_of_not_mem (h.not_mem_keys he hd)]
      exact (ih (he.disjoint hd)).trans (List.prefix_append _ _)
  | discarded he _ ih => exact ih (he.disjoint hd)
  | reported _ ih => exact ih hd

/-- The names in the cache are those that were in it and those that the events store. -/
theorem keys_eq (h : Trace scope path cache result after events)
    (hd : path.Disjoint cache.keys) : after.keys = cache.keys ++ storedNames events := by
  induction h with
  | idle => exact (List.append_nil _).symm
  | started => exact (List.append_nil _).symm
  | finished => exact (List.append_nil _).symm
  | cycle => exact (List.append_nil _).symm
  | chained h₁ _ ih₁ ih₂ =>
      rw [ih₂ (h₁.apart hd), ih₁ hd, storedNames_append, List.append_assoc]
  | stored _ he h ih =>
      rw [Table.keys_put, if_neg (h.not_mem_keys he hd), ih (he.disjoint hd), storedNames_append,
        List.append_assoc]
      rfl
  | discarded he _ ih =>
      rw [ih (he.disjoint hd), storedNames_append]
      exact congrArg _ (List.append_nil _).symm
  | reported _ ih =>
      rw [ih hd, storedNames_append]
      exact congrArg _ (List.append_nil _).symm

/-- Whatever is entered is left, so the names in progress at the end are the path again. -/
theorem balanced (h : Trace scope path cache result after events) :
    events.foldl advance path = path := by
  induction h with
  | idle => rfl
  | started => rfl
  | finished => rfl
  | cycle => rfl
  | chained _ _ ih₁ ih₂ => rw [List.foldl_append, ih₁, ih₂]
  | stored _ _ _ ih =>
      rw [List.foldl_append, List.foldl_cons]
      exact (congrArg List.dropLast ih).trans List.dropLast_concat
  | discarded _ _ ih =>
      rw [List.foldl_append, List.foldl_cons]
      exact (congrArg List.dropLast ih).trans List.dropLast_concat
  | reported _ ih =>
      rw [List.foldl_append, ih]
      rfl

/-- A record from its entering to its leaving, with what comes after. -/
theorem inOrder_within {name : String} {rest : List Event} (he : Enters scope path cache name)
    (hn : path.Nodup) (hd : path.Disjoint cache.keys)
    (h : Trace scope (path ++ [name]) cache result after events)
    (hi : InOrder (path ++ [name]) cache.keys events) (hr : InOrder path after.keys rest) :
    InOrder path cache.keys (.entered name :: (events ++ .left name :: rest)) := by
  refine inOrder_cons hn hd nofun rfl (inOrder_append hi ?_)
  rw [← h.keys_eq (he.disjoint hd)]
  -- Replayed from the longer path, the events below the record leave that path.
  change InOrder (events.foldl advance (path ++ [name])) after.keys _
  rw [h.balanced]
  refine inOrder_cons (he.nodup hn) (h.apart (he.disjoint hd)) nofun rfl ?_
  change InOrder (path ++ [name]).dropLast after.keys rest
  rw [List.dropLast_concat]
  exact hr

theorem inOrder (h : Trace scope path cache result after events) (hn : path.Nodup)
    (hd : path.Disjoint cache.keys) : InOrder path cache.keys events := by
  induction h with
  | idle => exact ⟨hn, hd⟩
  | started => exact inOrder_cons hn hd nofun rfl ⟨hn, hd⟩
  | finished => exact inOrder_cons hn hd nofun rfl ⟨hn, hd⟩
  | cycle hp =>
      refine ⟨⟨hn, hd⟩, fun chain hc => ?_, hn, fun _ hi hk => ?_⟩
      · cases hc
        exact ⟨_, hp, rfl⟩
      · rw [show storedNames [.cycleFound _] = [] from rfl, List.append_nil] at hk
        exact hd hi hk
  | chained h₁ _ ih₁ ih₂ =>
      refine inOrder_append (ih₁ hn hd) ?_
      rw [h₁.balanced, ← h₁.keys_eq hd]
      exact ih₂ hn (h₁.apart hd)
  | stored _ he h ih =>
      obtain ⟨hp, -⟩ := disjoint_concat.mp (h.apart (he.disjoint hd))
      rw [List.cons_append]
      refine inOrder_within he hn hd h (ih (he.nodup hn) (he.disjoint hd)) ?_
      refine ⟨⟨hn, hp⟩, nofun, hn, ?_⟩
      exact List.disjoint_append_right.mpr ⟨hp, List.disjoint_singleton.mpr he.off_path⟩
  | discarded he h ih =>
      obtain ⟨hp, -⟩ := disjoint_concat.mp (h.apart (he.disjoint hd))
      rw [List.cons_append]
      exact inOrder_within he hn hd h (ih (he.nodup hn) (he.disjoint hd)) ⟨hn, hp⟩
  | reported h ih =>
      refine inOrder_append (ih hn hd) ?_
      rw [h.balanced, ← h.keys_eq hd]
      exact inOrder_cons hn (h.apart hd) nofun rfl ⟨hn, h.apart hd⟩

/-- Only a trace that fails leaves a record without storing it. -/
theorem not_raised (h : Trace scope path cache result after events) (hr : result = .ok ())
    (name : String) : ¬Raised events name := by
  induction h with
  | idle => exact not_raised_nil name
  | started => exact fun h => by cases eq_left_of_raised h
  | finished => exact fun h => by cases eq_left_of_raised h
  | cycle => cases hr
  | chained _ _ ih₁ ih₂ =>
      intro h
      rcases raised_append h with h | h
      · exact ih₁ rfl h
      · exact ih₂ hr h
  | stored _ _ _ ih =>
      intro h
      rcases raised_within h with h | h
      · exact ih rfl h
      · exact not_raised_stored _ _ h
  | discarded => cases hr
  | reported => cases hr

theorem not_mem_of_raised (h : Trace scope path cache result after events)
    (hd : path.Disjoint cache.keys) {name : String} (hr : Raised events name) :
    name ∉ after.keys := by
  induction h with
  | idle => exact absurd hr (not_raised_nil name)
  | started => cases eq_left_of_raised hr
  | finished => cases eq_left_of_raised hr
  | cycle => cases eq_left_of_raised hr
  | chained h₁ _ _ ih₂ =>
      rcases raised_append hr with hr | hr
      · exact absurd hr (h₁.not_raised rfl name)
      · exact ih₂ (h₁.apart hd) hr
  | stored components he h =>
      -- What succeeds leaves no record without storing it.
      exact absurd hr ((Trace.stored components he h).not_raised rfl name)
  | discarded he h ih =>
      rcases raised_within hr with hr | hr
      · exact ih (he.disjoint hd) hr
      · cases eq_left_of_raised hr
        exact h.not_mem_keys he hd
  | reported h ih =>
      rcases raised_append hr with hr | hr
      · exact ih hd hr
      · cases eq_left_of_raised hr

end Trace

end Generation

/-! ### Sessions -/

namespace Generator

open Generation Generation.Event

/-- The generator as steps leave it. -/
def after (g : Generator) (steps : List Step) : Generator :=
  steps.foldl (fun g s => (g.step s).generator) g

theorem after_append (g : Generator) (front back : List Step) :
    g.after (front ++ back) = (g.after front).after back := List.foldl_append

/-- All that steps tell, one step after the other. -/
def trace (g : Generator) (steps : List Step) : List Event :=
  (g.steps steps).flatMap StepOutcome.events

/-- A step runs at no path: nothing is in progress between steps. -/
theorem step_trace (g : Generator) (s : Step) :
    ∃ result, Trace g.scope [] g.cache result (g.step s).generator.cache (g.step s).events := by
  cases s with
  | generate => exact ⟨_, generate_traced g.scope g.records g.cache⟩
  | generateRecord record => exact ⟨_, generateRecord_traced g.scope record g.cache⟩
  | resolve name => exact ⟨_, resolve_traced g.scope [] name g.cache⟩
  | mapType rawType site =>
      exact ⟨_, mapType_traced (resolve_traced g.scope []) site rawType g.cache⟩
  | format format records => exact ⟨.ok (), .idle _⟩
  | addEnum enumeration => exact ⟨.ok (), .idle _⟩
  | appendRecord record => exact ⟨.ok (), .idle _⟩

theorem trace_cons (g : Generator) (s : Step) (rest : List Step) :
    g.trace (s :: rest) = (g.step s).events ++ (g.step s).generator.trace rest := rfl

/-- The names in the cache after a session are those of the start and those stored on the way. -/
theorem keys_after (g : Generator) (steps : List Step) :
    (g.after steps).cache.keys = g.cache.keys ++ storedNames (g.trace steps) := by
  induction steps generalizing g with
  | nil => exact (List.append_nil _).symm
  | cons s rest ih =>
      obtain ⟨result, ht⟩ := g.step_trace s
      rw [trace_cons, storedNames_append, ← List.append_assoc,
        ← ht.keys_eq (List.disjoint_nil_left _)]
      exact ih (g.step s).generator

theorem inProgress_trace (g : Generator) (steps : List Step) : inProgress (g.trace steps) = [] := by
  induction steps generalizing g with
  | nil => rfl
  | cons s rest ih =>
      obtain ⟨result, ht⟩ := g.step_trace s
      rw [trace_cons, inProgress, List.foldl_append, ht.balanced]
      exact ih (g.step s).generator

theorem trace_inOrder (g : Generator) (steps : List Step) :
    InOrder [] g.cache.keys (g.trace steps) := by
  induction steps generalizing g with
  | nil => exact ⟨List.nodup_nil, List.disjoint_nil_left _⟩
  | cons s rest ih =>
      obtain ⟨result, ht⟩ := g.step_trace s
      have hd : ([] : List String).Disjoint g.cache.keys := List.disjoint_nil_left _
      refine inOrder_append (ht.inOrder List.nodup_nil hd) ?_
      rw [ht.balanced, ← ht.keys_eq hd]
      exact ih (g.step s).generator

/-- After any steps, whatever the next step is and however it ends: nothing is in progress, the cache
has only grown at its end, and no record whose generation failed is in it. At every point on the way
the names in progress are distinct and none is in the cache, and a cycle is reported with them. -/
theorem session_in_order (g : Generator) (earlier : List Step) (s : Step) :
    let before := g.after earlier
    let outcome := before.step s
    let told := g.trace (earlier ++ [s])
    inProgress told = [] ∧
      before.cache <+: outcome.generator.cache ∧
      (∀ name, Raised outcome.events name → name ∉ outcome.generator.cache.keys) ∧
      outcome.generator.cache.keys = g.cache.keys ++ storedNames told ∧
      ∀ point rest, told = point ++ rest →
        (inProgress point).Nodup ∧
          (∀ name ∈ inProgress point, name ∉ g.cache.keys ++ storedNames point) ∧
          ∀ chain, rest.head? = some (.cycleFound chain) →
            ∃ name ∈ inProgress point, chain = inProgress point ++ [name] := by
  intro before outcome told
  obtain ⟨result, ht⟩ := before.step_trace s
  have hd : ([] : List String).Disjoint before.cache.keys := List.disjoint_nil_left _
  refine ⟨g.inProgress_trace _, ht.cache_prefix hd, fun name => ht.not_mem_of_raised hd, ?_,
    fun point rest he => ?_⟩
  · have hk := g.keys_after (earlier ++ [s])
    rw [after, List.foldl_append] at hk
    exact hk
  · have ho := g.trace_inOrder (earlier ++ [s])
    rw [show g.trace (earlier ++ [s]) = point ++ rest from he] at ho
    obtain ⟨⟨hn, ha⟩, hc⟩ := ho.at_point
    exact ⟨hn, fun name hi hk => ha hi hk, hc⟩

end Generator

end ToolSchema
