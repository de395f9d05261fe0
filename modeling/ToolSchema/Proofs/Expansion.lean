import Mathlib.Data.List.Basic
import ToolSchema.Schema.Session

/-! Expansion of records without a cache. A record is expanded at a path, the names of the records
whose expansion it is part of: its fields are expanded in order, a type expression level by level,
and every target that is met is expanded anew at the path made longer by the record. This is the
meaning that generation with a cache is measured against. The main statement here is `rawType_eq`:
the expansion of a type expression depends on its descent alone. -/

namespace ToolSchema.Expansion

open Generation (Scope)

/-- What the record of a name expands to; none if no record can be referred to so. -/
abbrev Lookup := String → Except GenerationError (Option Components)

def leaf (enums : Table Enumeration) (lookup : Lookup) (site : Site) (written name : List Char) :
    Except GenerationError Json :=
  match primitives.find? (String.ofList name) with
  | some p => return Fragment.primitive p
  | none =>
    match enums.find? (String.ofList name) with
    | some enumeration => return enumeration.fragment
    | none => do
      match ← lookup (String.ofList name) with
      | some components => return Fragment.record components
      | none =>
        if Text.isIdentifier (String.ofList name) then
          .error (.unrequestedReference (String.ofList name) site)
        else .error (.unsupportedType (String.ofList written) site)

/-- The key of a map is judged before its value is looked at. -/
def rawType (enums : Table Enumeration) (lookup : Lookup) (site : Site) (text : List Char) :
    Except GenerationError Json :=
  match h : TypeExpr.shape text with
  | .error why => .error (.malformedContainer (String.ofList text) why site)
  | .ok ⟨.named name, _⟩ => leaf enums lookup site text name
  | .ok ⟨.array element, _⟩ => do
    have := TypeExpr.length_lt_of_shape_array h
    return Fragment.level .array (← rawType enums lookup site element)
  | .ok ⟨.map key value, _⟩ =>
    have := TypeExpr.length_lt_of_shape_map h
    if key = TypeExpr.keyType then do
      return Fragment.level .map (← rawType enums lookup site value)
    else .error (.unsupportedKey (String.ofList text) site)
termination_by text.length

def fields (enums : Table Enumeration) (lookup : Lookup) (record : String) :
    Components → List Field → Except GenerationError Components
  | components, [] => return components
  | components, field :: rest => do
    let fragment ← rawType enums lookup ⟨record, field.name⟩ field.rawType.toList
    fields enums lookup record (components.add field fragment) rest

theorem unvisited_append_le (scope : Scope) (path : List String) (name : String) :
    scope.unvisited (path ++ [name]) ≤ scope.unvisited path := by
  refine List.countP_mono_left fun r _ hr => ?_
  simp only [List.mem_append, not_or, decide_eq_true_eq] at hr ⊢
  exact hr.1

/-- A record on the path already closes a cycle. A record that is no target can only be the first of
a path, which is what the second summand of the measure counts. -/
def record (scope : Scope) (path : List String) (r : Record) : Except GenerationError Components :=
  if _hp : r.name ∈ path then .error (.cyclicDependency (path ++ [r.name]))
  else
    fields scope.enums (fun name =>
      match _h : scope.target? name with
      | none => return none
      | some found => do return some (← record scope (path ++ [r.name]) found)) r.name {} r.fields
termination_by 2 * scope.unvisited path + if r ∈ scope.targets then 0 else 1
decreasing_by
  rw [if_pos (Scope.target?_eq_some _h).1]
  split
  · rename_i hr
    have := Scope.unvisited_lt hr _hp
    omega
  · have := unvisited_append_le scope path r.name
    omega

def target (scope : Scope) (path : List String) : Lookup := fun name =>
  match scope.target? name with
  | none => return none
  | some found => do return some (← record scope path found)

/-- The components of records in order, each expanded at the empty path. -/
def batch (scope : Scope) (records : List Record) : Except GenerationError (Table Components) :=
  records.mapM fun r => do return (r.name, ← record scope [] r)

theorem record_eq (scope : Scope) (path : List String) (r : Record) :
    record scope path r =
      if r.name ∈ path then .error (.cyclicDependency (path ++ [r.name]))
      else fields scope.enums (target scope (path ++ [r.name])) r.name {} r.fields := by
  rw [record]
  split
  · rfl
  · congr 1
    funext name
    unfold target
    split
    · rename_i hn
      rw [hn]
    · rename_i found hs
      rw [hs]

theorem record_of_not_mem {scope : Scope} {path : List String} {r : Record} (h : r.name ∉ path) :
    record scope path r =
      fields scope.enums (target scope (path ++ [r.name])) r.name {} r.fields := by
  rw [record_eq, if_neg h]

theorem target_of_some {scope : Scope} {path : List String} {name : String} {found : Record}
    (h : scope.target? name = some found) :
    target scope path name = (do return some (← record scope path found)) := by
  rw [target, h]

theorem target_of_none {scope : Scope} {path : List String} {name : String}
    (h : scope.target? name = none) : target scope path name = .ok none := by
  rw [target, h]
  rfl

theorem bind_eq_ok_iff {ε α β : Type} {first : Except ε α} {next : α → Except ε β} {value : β} :
    (first >>= next) = .ok value ↔ ∃ a, first = .ok a ∧ next a = .ok value := by
  cases first with
  | error e =>
      constructor
      · intro h
        cases h
      · rintro ⟨a, h, -⟩
        cases h
  | ok a =>
      constructor
      · intro h
        exact ⟨a, rfl, h⟩
      · rintro ⟨b, h, hn⟩
        cases h
        exact hn

theorem exists_of_isOk {ε α : Type} {result : Except ε α} (h : result.isOk = true) :
    ∃ value, result = .ok value := by
  cases result with
  | ok value => exact ⟨value, rfl⟩
  | error e => cases h

theorem target_eq_ok_some_iff {scope : Scope} {path : List String} {name : String}
    {found : Record} {components : Components} (h : scope.target? name = some found) :
    target scope path name = .ok (some components) ↔ record scope path found = .ok components := by
  rw [target_of_some h, bind_eq_ok_iff]
  constructor
  · rintro ⟨other, hr, he⟩
    cases he
    exact hr
  · intro hr
    exact ⟨components, hr, rfl⟩

theorem batch_cons (scope : Scope) (r : Record) (rest : List Record) :
    batch scope (r :: rest) = (do
      let components ← record scope [] r
      let others ← batch scope rest
      return (r.name, components) :: others) := by
  unfold batch
  rw [List.mapM_cons]
  cases record scope [] r <;> rfl

section Levels

variable {enums : Table Enumeration} {lookup : Lookup} {site : Site} {text : List Char}
  {optional : Bool}

theorem rawType_of_malformed {why : TypeExpr.Malformation}
    (h : TypeExpr.shape text = .error why) :
    rawType enums lookup site text =
      .error (.malformedContainer (String.ofList text) why site) := by
  rw [rawType]
  split <;> rename_i heq <;> rw [h] at heq <;> cases heq
  rfl

theorem rawType_of_named {name : List Char} (h : TypeExpr.shape text = .ok ⟨.named name, optional⟩) :
    rawType enums lookup site text = leaf enums lookup site text name := by
  rw [rawType]
  split <;> rename_i heq <;> rw [h] at heq <;> cases heq
  rfl

theorem rawType_of_array {element : List Char}
    (h : TypeExpr.shape text = .ok ⟨.array element, optional⟩) :
    rawType enums lookup site text =
      (do return Fragment.level .array (← rawType enums lookup site element)) := by
  rw [rawType]
  split <;> rename_i heq <;> rw [h] at heq <;> cases heq
  rfl

theorem rawType_of_map {key value : List Char}
    (h : TypeExpr.shape text = .ok ⟨.map key value, optional⟩) :
    rawType enums lookup site text =
      if key = TypeExpr.keyType then
        (do return Fragment.level .map (← rawType enums lookup site value))
      else .error (.unsupportedKey (String.ofList text) site) := by
  rw [rawType]
  split <;> rename_i heq <;> rw [h] at heq <;> cases heq
  rfl

end Levels

/-- The error that a fault of a type expression is at a site. -/
def fault (site : Site) : TypeExpr.Fault → GenerationError
  | .malformed level why => .malformedContainer (String.ofList level) why site
  | .foreignKey level => .unsupportedKey (String.ofList level) site

/-- What a descent expands to when its leaf does as `meaning` says. -/
def descent (site : Site) (meaning : List Char → List Char → Except GenerationError Json) :
    Except TypeExpr.Fault TypeExpr.Leaf → Except GenerationError Json
  | .error why => .error (fault site why)
  | .ok found => do return Fragment.wrap found.levels (← meaning found.written found.name)

theorem descent_under (site : Site)
    (meaning : List Char → List Char → Except GenerationError Json) (level : TypeExpr.Level)
    (found : Except TypeExpr.Fault TypeExpr.Leaf) :
    descent site meaning (found.map (TypeExpr.Leaf.under level)) =
      (do return Fragment.level level (← descent site meaning found)) := by
  cases found with
  | error why => rfl
  | ok found =>
      unfold descent
      dsimp only [Except.map, TypeExpr.Leaf.under]
      cases meaning found.written found.name <;> rfl

theorem rawType_eq (enums : Table Enumeration) (lookup : Lookup) (site : Site) (text : List Char) :
    rawType enums lookup site text =
      descent site (leaf enums lookup site) (TypeExpr.descend text) := by
  fun_induction TypeExpr.descend text with
  | case1 text why h => exact rawType_of_malformed h
  | case2 text name optional h =>
      rw [rawType_of_named h]
      change _ = (do return Fragment.wrap [] (← leaf enums lookup site text name))
      cases leaf enums lookup site text name <;> rfl
  | case3 text element optional h _ ih => rw [rawType_of_array h, ih, descent_under]
  | case4 text value optional h _ ih => rw [rawType_of_map h, if_pos rfl, ih, descent_under]
  | case5 text key value optional h _ hk => rw [rawType_of_map h, if_neg hk]; rfl

theorem rawType_eq_ok_iff {enums : Table Enumeration} {lookup : Lookup} {site : Site}
    {text : List Char} {fragment : Json} :
    rawType enums lookup site text = .ok fragment ↔
      ∃ found inner, TypeExpr.descend text = .ok found ∧
        leaf enums lookup site found.written found.name = .ok inner ∧
        fragment = Fragment.wrap found.levels inner := by
  rw [rawType_eq]
  constructor
  · intro h
    cases hd : TypeExpr.descend text with
    | error why =>
        rw [hd] at h
        cases h
    | ok found =>
        rw [hd] at h
        obtain ⟨inner, hl, hw⟩ := bind_eq_ok_iff.mp h
        cases hw
        exact ⟨found, inner, rfl, hl, rfl⟩
  · rintro ⟨found, inner, hd, hl, rfl⟩
    rw [hd]
    exact bind_eq_ok_iff.mpr ⟨inner, hl, rfl⟩

end ToolSchema.Expansion
