import Mathlib.Data.List.Perm.Subperm
import ToolSchema.Proofs.CallRules
import ToolSchema.Proofs.Provenance
import ToolSchema.Proofs.SessionOrder

/-! Whatever a session has done before, a step that generates makes a call that returns, and the names
in progress stay few. Records from outside the batch are generated on request only, so all names in
progress but the first are targets; no name is in progress twice; so there are never more of them than
there are targets, and one. -/

namespace ToolSchema

namespace Generation

variable {scope : Scope} {path : List String} {cache : Table Components} {name : String}
  {events : List Event}

/-! ### The names in progress -/

namespace Event

/-- A condition holds of the names in progress at every point of the events. -/
def Throughout (holds : List String → Prop) : List String → List Event → Prop
  | stack, [] => holds stack
  | stack, event :: rest => holds stack ∧ Throughout holds (advance stack event) rest

variable {holds : List String → Prop} {stack : List String}

theorem throughout_append {first second : List Event} (hf : Throughout holds stack first)
    (hs : Throughout holds (first.foldl advance stack) second) :
    Throughout holds stack (first ++ second) := by
  induction first generalizing stack with
  | nil => exact hs
  | cons event rest ih => exact ⟨hf.1, ih hf.2 hs⟩

theorem Throughout.at_point {point rest : List Event}
    (h : Throughout holds stack (point ++ rest)) : holds (point.foldl advance stack) := by
  induction point generalizing stack with
  | nil =>
      cases rest with
      | nil => exact h
      | cons event rest => exact h.1
  | cons event point ih => exact ih h.2

end Event

open Event

/-- Only the first name on a path may be that of no target. -/
def Scope.Below (scope : Scope) (path : List String) : Prop :=
  ∀ name ∈ path.tail, name ∈ scope.targets.map Record.name

theorem Enters.below (he : Enters scope path cache name) (h : scope.Below path) :
    scope.Below (path ++ [name]) := by
  cases path with
  | nil => exact List.forall_mem_nil _
  | cons first path =>
      intro other ho
      rcases List.mem_append.mp ho with ho | ho
      · exact h other ho
      · obtain ⟨r, ht⟩ := Option.isSome_iff_exists.mp (he.target (List.cons_ne_nil _ _))
        obtain ⟨hm, rfl⟩ := Scope.target?_eq_some ht
        rw [List.mem_singleton.mp ho]
        exact List.mem_map_of_mem hm

variable {after : Table Components} {result : Except GenerationError Unit}

/-- A record from its entering to its leaving, with what comes after. -/
theorem throughout_within {rest : List Event} (he : Enters scope path cache name)
    (hb : scope.Below path) (h : Trace scope (path ++ [name]) cache result after events)
    (hi : Throughout scope.Below (path ++ [name]) events)
    (hr : Throughout scope.Below path rest) :
    Throughout scope.Below path (.entered name :: (events ++ .left name :: rest)) := by
  refine ⟨hb, throughout_append hi ?_⟩
  -- Replayed from the longer path, the events below the record leave that path.
  change Throughout scope.Below (events.foldl advance (path ++ [name])) _
  rw [h.balanced]
  refine ⟨he.below hb, ?_⟩
  change Throughout scope.Below (path ++ [name]).dropLast rest
  rw [List.dropLast_concat]
  exact hr

theorem Trace.throughout_below (h : Trace scope path cache result after events)
    (hb : scope.Below path) : Throughout scope.Below path events := by
  induction h with
  | idle => exact hb
  | started => exact ⟨hb, hb⟩
  | finished => exact ⟨hb, hb⟩
  | cycle => exact ⟨hb, hb⟩
  | chained h₁ _ ih₁ ih₂ =>
      refine throughout_append (ih₁ hb) ?_
      rw [h₁.balanced]
      exact ih₂ hb
  | stored _ he h ih =>
      rw [List.cons_append]
      exact throughout_within he hb h (ih (he.below hb)) ⟨hb, hb⟩
  | discarded he h ih =>
      rw [List.cons_append]
      exact throughout_within he hb h (ih (he.below hb)) hb
  | reported h ih =>
      refine throughout_append (ih hb) ?_
      rw [h.balanced]
      exact ⟨hb, hb⟩

/-- No more names than there are targets, and the first. -/
theorem Scope.Below.length_le (h : scope.Below path) (hn : path.Nodup) :
    path.length ≤ scope.targets.length + 1 := by
  have hsub := (List.subperm_of_subset hn.tail h).length_le
  rw [List.length_tail, List.length_map] at hsub
  omega

end Generation

namespace Generator

open Generation Generation.Event

/-- The call that a step makes, if it asks for something generated. -/
def call? (g : Generator) : Step → Option Call
  | .generate => some (.batch g.records)
  | .generateRecord record => some (.record record)
  | .resolve name => some (.resolve name)
  | .mapType rawType site => some (.type site rawType.toList)
  | .format _ _ | .addEnum _ | .appendRecord _ => none

/-- What a call gives, as a step answers it. -/
def answerOf : (call : Call) → call.Value → Answer
  | .resolve _, found => .components found
  | .record _, found => .components (some found)
  | .fields _ _ _, found => .components (some found)
  | .type _ _, fragment => .fragment fragment
  | .each _ _, results => .batch results
  | .batch _, results => .batch results

theorem step_eq_run (g : Generator) {s : Step} {call : Call} (h : g.call? s = some call) :
    g.step s = g.run (answerOf call) (Generation.run g.scope [] call) := by
  cases s with
  | mapType rawType site =>
      cases h
      rw [run_type]
      rfl
  | format _ _ => cases h
  | addEnum _ => cases h
  | appendRecord _ => cases h
  | _ =>
      cases h
      rfl

theorem exists_call {s : Step} (g : Generator) (h : s.Generates) : ∃ call, g.call? s = some call := by
  cases s with
  | format _ _ => exact h.elim
  | addEnum _ => exact h.elim
  | appendRecord _ => exact h.elim
  | _ => exact ⟨_, rfl⟩

/-- In whatever state a session leaves a generator, a step that generates makes a call that returns,
and the step ends as what is returned says; nothing else is returned. At every point on the way no name
is in progress twice, all names in progress but the first are targets, and there are no more of them
than there are targets, and one. -/
theorem session_calls_return (g : Generator) (earlier : List Step) (s : Step) :
    let before := g.after earlier
    let outcome := before.step s
    (s.Generates → ∃ (call : Call) (returned : Outcome call.Value),
      before.call? s = some call ∧
      (∀ other, Returns before.scope [] call before.cache other ↔ other = returned) ∧
      outcome = before.run (answerOf call) fun _ => returned) ∧
    ∀ point rest, outcome.events = point ++ rest →
      (inProgress point).Nodup ∧
        (∀ name ∈ (inProgress point).tail, name ∈ g.targets.map Record.name) ∧
        (inProgress point).length ≤ g.targets.length + 1 := by
  intro before outcome
  refine ⟨fun hs => ?_, fun point rest he => ?_⟩
  · obtain ⟨call, hcall⟩ := before.exists_call hs
    refine ⟨call, Generation.run before.scope [] call before.cache, hcall, fun _ => returns_iff, ?_⟩
    exact before.step_eq_run hcall
  · obtain ⟨result, ht⟩ := before.step_trace s
    have hn := ht.inOrder List.nodup_nil (List.disjoint_nil_left _)
    have hb := ht.throughout_below (List.forall_mem_nil _)
    rw [show (before.step s).events = point ++ rest from he] at hn hb
    have hnodup := hn.at_point.1.1
    have hbelow := hb.at_point
    have htargets : before.scope.targets = g.targets := g.targets_after earlier
    refine ⟨hnodup, ?_, ?_⟩
    · rw [← htargets]
      exact hbelow
    · rw [← htargets]
      exact hbelow.length_le hnodup

/-- A record that needs another one. -/
def nest : List Record :=
  [{ name := "Outer", fields := [⟨"inner", "[Inner]?", none, false⟩] }, { name := "Inner" }]

/-- With a guest from outside, one name more than there are targets is in progress. -/
example :
    let guest : Record := { name := "Guest", fields := [⟨"outer", "Outer", none, false⟩] }
    inProgress ((Generator.step ⟨nest, nest, [], [], by decide⟩ (.generateRecord guest)).events.take 3) =
      ["Guest", "Outer", "Inner"] := by
  cbv

end Generator

end ToolSchema
