import Mathlib.Data.List.Chain
import ToolSchema.Proofs.FailedExpansion
import ToolSchema.Proofs.TypeGrammar

/-! What the errors of a batch say is true. A cycle is reported with the records in progress, from the
first record of the batch that fails to the one that refers back to one of them, and each of them does
refer to the next. Any other error names a field of a record of the batch and a part of its type, and
that part by itself is at fault in the way the error says. Both are read off the descent that leads to
the error. -/

namespace ToolSchema

/-! ### Parts of a type expression -/

namespace TypeExpr

open Text (Padded padded_trim)

theorem infix_of_padded {body text : List Char} (h : Padded body text) : body <:+: text := by
  obtain ⟨before, after, -, -, rfl⟩ := h
  exact ⟨before, after, rfl⟩

theorem infix_of_framed {body text : List Char} (h : Framed body text) : body <:+: text := by
  rcases h with h | ⟨gap, -, h⟩
  · exact infix_of_padded h
  · have hmark : body <:+: body ++ gap ++ ['?'] := ⟨[], gap ++ ['?'], by simp⟩
    exact hmark.trans (infix_of_padded h)

/-- The part of a level that is read on: the keys of a map are not. -/
def Form.part : Form → List Char
  | .named name => name
  | .array element => element
  | .map _ value => value

theorem infix_of_bracketed {inner : List Char} {form : Form} (h : bracketed inner = .ok form) :
    form.part <:+: inner := by
  have ht : Text.trim inner <:+: inner := infix_of_padded (padded_trim inner)
  rcases bracketed_cases h with rfl | ⟨key, value, hp, rfl⟩
  · exact ht
  · have hv : value <:+: Text.trim inner := by
      rw [← (intercalate_partsAt hp).2]
      exact ⟨key ++ [':'], [], by simp [List.intercalate]⟩
    exact (infix_of_padded (padded_trim value)).trans (hv.trans ht)

/-- What a level hands down stands in the level. -/
theorem infix_of_shape {text : List Char} {form : Form} {optional : Bool}
    (h : shape text = .ok ⟨form, optional⟩) : form.part <:+: text := by
  have hs := infix_of_framed (framed_stripOptional text)
  rcases shape_cases h with rfl | ⟨inner, hi, hb⟩
  · exact hs
  · have hinner : inner <:+: (stripOptional text).1 := by
      rw [hi]
      exact ⟨['['], [']'], rfl⟩
    exact (infix_of_bracketed hb).trans (hinner.trans hs)

def Fault.level : Fault → List Char
  | .malformed level _ => level
  | .foreignKey level => level

/-- The level at fault is by itself as the fault says. -/
def Fault.Holds : Fault → Prop
  | .malformed level why => shape level = .error why
  | .foreignKey level =>
    ∃ key value optional, shape level = .ok ⟨.map key value, optional⟩ ∧ key ≠ keyType

/-- Where a text leads: to a level that stands in it, with a name or with a fault of that level. -/
def Ends (text : List Char) : Except Fault Leaf → Prop
  | .ok leaf => leaf.written <:+: text ∧
      ∃ optional, shape leaf.written = .ok ⟨.named leaf.name, optional⟩
  | .error why => why.level <:+: text ∧ why.Holds

theorem Ends.under {part text : List Char} {found : Except Fault Leaf} (h : Ends part found)
    (hp : part <:+: text) (level : Level) : Ends text (found.map (Leaf.under level)) := by
  cases found with
  | ok leaf => exact ⟨h.1.trans hp, h.2⟩
  | error why => exact ⟨h.1.trans hp, h.2⟩

theorem descend_ends (text : List Char) : Ends text (descend text) := by
  fun_induction descend text with
  | case1 text why h => exact ⟨List.infix_rfl, h⟩
  | case2 text name optional h => exact ⟨List.infix_rfl, optional, h⟩
  | case3 text element optional h _ ih => exact ih.under (infix_of_shape h) .array
  | case4 text value optional h _ ih => exact ih.under (infix_of_shape h) .map
  | case5 text key value optional h _ hk => exact ⟨List.infix_rfl, key, value, optional, h, hk⟩

end TypeExpr

/-! ### Errors at a field -/

namespace GenerationError

/-- The type that an error is about, and the field at which it came up. -/
def place? : GenerationError → Option (String × Site)
  | .unsupportedKey typeName site => some (typeName, site)
  | .unsupportedType typeName site => some (typeName, site)
  | .malformedContainer typeName _ site => some (typeName, site)
  | .unrequestedReference typeName site => some (typeName, site)
  | .cyclicDependency _ => none
  | .duplicateRecord _ => none

/-- What an error says of its type is so. -/
def Truthful (scope : Generation.Scope) : GenerationError → Prop
  | .unsupportedKey typeName _ => ∃ key value optional,
      TypeExpr.shape typeName.toList = .ok ⟨.map key value, optional⟩ ∧ key ≠ TypeExpr.keyType
  | .unsupportedType typeName _ => ∃ name optional,
      TypeExpr.shape typeName.toList = .ok ⟨.named name, optional⟩ ∧
        Text.isIdentifier (String.ofList name) = false ∧ ¬scope.Known (String.ofList name)
  | .malformedContainer typeName why _ => TypeExpr.shape typeName.toList = .error why
  | .unrequestedReference typeName _ => Text.isIdentifier typeName = true ∧ ¬scope.Known typeName
  | .cyclicDependency _ => True
  | .duplicateRecord _ => True

/-- An error that names a field of a record and a part of its type, and says of it what is so. -/
def Blames (error : GenerationError) (scope : Generation.Scope) (r : Record) : Prop :=
  ∀ typeName site, error.place? = some (typeName, site) →
    (r.name = site.record ∧ ∃ field ∈ r.fields, field.name = site.field ∧
      typeName.toList <:+: field.rawType.toList) ∧ error.Truthful scope

theorem blames_of_infix {error : GenerationError} {scope : Generation.Scope} {r : Record}
    {field : Field} {part : List Char} (hf : field ∈ r.fields)
    (hp : error.place? = some (String.ofList part, ⟨r.name, field.name⟩))
    (hi : part <:+: field.rawType.toList) (ht : error.Truthful scope) : error.Blames scope r := by
  intro typeName site he
  rw [hp] at he
  cases he
  refine ⟨⟨rfl, field, hf, rfl, ?_⟩, ht⟩
  rwa [String.toList_ofList]

end GenerationError

namespace Expansion

open Generation (Scope)

variable {scope : Scope} {path : List String} {r : Record} {error : GenerationError}

theorem place?_fault (site : Site) (why : TypeExpr.Fault) :
    (fault site why).place? = some (String.ofList why.level, site) := by
  cases why <;> rfl

theorem place?_unknownLeaf (site : Site) (written name : List Char) :
    ∃ typeName, (unknownLeaf site written name).place? = some (typeName, site) := by
  unfold unknownLeaf
  split <;> exact ⟨_, rfl⟩

theorem truthful_fault (scope : Scope) (site : Site) {why : TypeExpr.Fault} (h : why.Holds) :
    (fault site why).Truthful scope := by
  cases why with
  | malformed level why =>
      change TypeExpr.shape (String.ofList level).toList = .error why
      rw [String.toList_ofList]
      exact h
  | foreignKey level =>
      obtain ⟨key, value, optional, hs, hk⟩ := h
      refine ⟨key, value, optional, ?_, hk⟩
      rw [String.toList_ofList]
      exact hs

/-- The error of an unknown name is about the name if a record could have it, else about all that is
written there. -/
theorem unknownLeaf_blames {field : Field} (hf : field ∈ r.fields) {found : TypeExpr.Leaf}
    (hd : TypeExpr.descend field.rawType.toList = .ok found)
    (hk : ¬scope.Known (String.ofList found.name)) :
    (unknownLeaf ⟨r.name, field.name⟩ found.written found.name).Blames scope r := by
  have he := TypeExpr.descend_ends field.rawType.toList
  rw [hd] at he
  obtain ⟨hwritten, optional, hs⟩ := he
  have hname : found.name <:+: found.written := TypeExpr.infix_of_shape hs
  unfold unknownLeaf
  split
  · rename_i hi
    exact GenerationError.blames_of_infix hf rfl (hname.trans hwritten) ⟨hi, hk⟩
  · rename_i hi
    refine GenerationError.blames_of_infix hf rfl hwritten ⟨found.name, optional, ?_, ?_, hk⟩
    · rw [String.toList_ofList]
      exact hs
    · exact Bool.not_eq_true _ ▸ hi

/-- Every descent ends in a cycle or at a field of a target. -/
theorem Fails.blames (h : Fails scope path r error) (hr : r ∈ scope.targets) :
    ∃ s ∈ scope.targets, error.Blames scope s := by
  induction h with
  | cycle => exact ⟨_, hr, fun typeName site hp => by cases hp⟩
  | @level path r field why hp hf hd =>
      have he := TypeExpr.descend_ends field.rawType.toList
      rw [hd] at he
      exact ⟨_, hr, GenerationError.blames_of_infix hf (place?_fault _ _) he.1
        (truthful_fault _ _ he.2)⟩
  | unknown hp hf hd hk => exact ⟨_, hr, unknownLeaf_blames hf hd hk⟩
  | reference hp hf hd hprimitive henum hs h ih => exact ih (Scope.target?_eq_some hs).1

end Expansion

/-- A batch without repeated names is what every other error is about. -/
theorem distinct_of_generateSchemas {records : List Record} {enums : Table Enumeration}
    {error : GenerationError} (h : generateSchemas records enums = .error error)
    (hne : ∀ name, error ≠ .duplicateRecord name) : (records.map Record.name).Nodup := by
  cases hg : Generator.ofBatch records enums with
  | ok g =>
      obtain ⟨-, ht, -, -⟩ := Generator.eq_of_ofBatch hg
      exact ht ▸ g.distinct_targets
  | error other =>
      have he : other = error := by
        rw [generateSchemas, hg] at h
        exact Except.error.inj h
      unfold Generator.ofBatch at hg
      split at hg
      · cases hg
        exact absurd he.symm (hne _)
      · cases hg

/-- An error at a field is at a field that is there: the record is one of the batch, the field is one
of the record, and the type that the error names stands in the type of the field and is by itself what
the error calls it. -/
theorem field_errors_are_true {records : List Record} {enums : Table Enumeration}
    {error : GenerationError} (h : generateSchemas records enums = .error error)
    {typeName : String} {site : Site} (hp : error.place? = some (typeName, site)) :
    (∃ record ∈ records, record.name = site.record ∧ ∃ field ∈ record.fields,
      field.name = site.field ∧ typeName.toList <:+: field.rawType.toList) ∧
      error.Truthful ⟨records, enums⟩ := by
  have hd := distinct_of_generateSchemas h fun name he => by
    rw [he] at hp
    cases hp
  obtain ⟨r, hr, hfails⟩ := fails_of_generateSchemas hd h
  obtain ⟨s, hs, hblames⟩ := hfails.blames hr
  obtain ⟨hplace, htruthful⟩ := hblames typeName site hp
  exact ⟨⟨s, hs, hplace⟩, htruthful⟩

theorem eq_error_of_map_eq_error {ε α β : Type} {f : α → β} {before : Except ε α} {error : ε}
    (h : before.map f = .error error) : before = .error error := by
  cases before with
  | error e => exact congrArg Except.error (Except.error.inj h)
  | ok a => cases h

/-- The keys are at fault two levels inside the field of a record that is only referred to. -/
theorem journey_error_is_true :
    generateSchemas (journey "[ [Int : Place]? ]") modes =
        .error (.unsupportedKey "[Int : Place]?" ⟨"Leg", "via"⟩) ∧
      (∃ record ∈ journey "[ [Int : Place]? ]", record.name = "Leg" ∧
        ∃ field ∈ record.fields, field.name = "via" ∧
          "[Int : Place]?".toList <:+: field.rawType.toList) ∧
      ∃ key value optional, TypeExpr.shape "[Int : Place]?".toList =
        .ok ⟨.map key value, optional⟩ ∧ key ≠ TypeExpr.keyType := by
  have he : (generateSchemas (journey "[ [Int : Place]? ]") modes).map (fun _ => ()) =
      .error (.unsupportedKey "[Int : Place]?" ⟨"Leg", "via"⟩) := by decide +kernel
  have h := eq_error_of_map_eq_error he
  exact ⟨h, field_errors_are_true h rfl⟩

/-! ### Cycles -/

namespace Generation.Scope

/-- Records in progress, of which the last refers to a name that is in progress already. -/
structure IsCycle (scope : Scope) (stack : List String) (last : String) : Prop where
  distinct : stack.Nodup
  targets : ∀ name ∈ stack, name ∈ scope.targets.map Record.name
  back : last ∈ stack
  linked : (stack ++ [last]).IsChain scope.Edge

end Generation.Scope

namespace Expansion

open Generation (Scope)

variable {scope : Scope} {path : List String} {r : Record} {error : GenerationError}

/-- The path to a record leads along references, and a descent goes on from there, so a cycle that it
ends with begins with the path. -/
theorem Fails.isCycle (h : Fails scope path r error) {chain : List String}
    (he : error = .cyclicDependency chain) (hr : r ∈ scope.targets) (hn : path.Nodup)
    (ht : ∀ name ∈ path, name ∈ scope.targets.map Record.name)
    (hc : (path ++ [r.name]).IsChain scope.Edge) :
    ∃ stack last, chain = stack ++ [last] ∧ path ++ [r.name] <+: chain ∧
      scope.IsCycle stack last := by
  induction h with
  | @cycle path r hp =>
      cases he
      exact ⟨path, r.name, rfl, List.prefix_rfl, hn, ht, hp, hc⟩
  | @level path r field why _ _ _ =>
      have hp := place?_fault ⟨r.name, field.name⟩ why
      rw [he] at hp
      cases hp
  | @unknown path r field found _ _ _ _ =>
      obtain ⟨_, hp⟩ := place?_unknownLeaf ⟨r.name, field.name⟩ found.written found.name
      rw [he] at hp
      cases hp
  | @reference path r field found s error hp hf hd hprimitive henum hs h ih =>
      obtain ⟨hmem, hname⟩ := Scope.target?_eq_some hs
      have hedge : scope.Edge r.name s.name := by
        rw [hname]
        exact ⟨r, hr, rfl, hprimitive, henum, field, hf, TypeExpr.leadsTo_of_descend hd⟩
      have hpath : ∀ name ∈ path ++ [r.name], name ∈ scope.targets.map Record.name := by
        intro name hm
        rcases List.mem_append.mp hm with hm | hm
        · exact ht name hm
        · rw [List.mem_singleton.mp hm]
          exact List.mem_map_of_mem hr
      have hlinked : (path ++ [r.name] ++ [s.name]).IsChain scope.Edge := by
        refine hc.append (List.isChain_singleton _) fun x hx y hy => ?_
        rw [List.getLast?_concat] at hx
        cases hx
        cases hy
        exact hedge
      have hdistinct : (path ++ [r.name]).Nodup := by
        rw [← List.concat_eq_append]
        exact hn.concat hp
      obtain ⟨stack, last, rfl, hprefix, hcycle⟩ := ih he hmem hdistinct hpath hlinked
      exact ⟨stack, last, rfl, (List.prefix_append _ _).trans hprefix, hcycle⟩

end Expansion

/-- From an empty cache a record of a batch is generated as it expands. -/
theorem generateRecord_eq_expansion {records : List Record} (enums : Table Enumeration)
    (hd : (records.map Record.name).Nodup) {r : Record} (hr : r ∈ records) :
    (Generation.generateRecord ⟨records, enums⟩ r []).result =
      Expansion.record ⟨records, enums⟩ [] r :=
  (Generation.generateRecord_faithful (Generation.Scope.target?_of_mem hd hr) []
    (Generation.steady_nil _) (List.disjoint_nil_left _)).result_eq

open Generation (generateRecord)

/-- A cycle that a batch is refused for is one: its records are distinct records of the batch, each
refers to the next, and the last refers back to one of them. It begins with the first record of the
batch that cannot be generated. -/
theorem reported_cycle_is_real {records : List Record} {enums : Table Enumeration}
    {chain : List String} (h : generateSchemas records enums = .error (.cyclicDependency chain)) :
    ∃ stack last, chain = stack ++ [last] ∧
      Generation.Scope.IsCycle ⟨records, enums⟩ stack last ∧
      ∃ front first back, records = front ++ first :: back ∧ stack.head? = some first.name ∧
        (∀ record ∈ front, ∃ components,
          (generateRecord ⟨records, enums⟩ record []).result = .ok components) ∧
        (generateRecord ⟨records, enums⟩ first []).result =
          .error (.cyclicDependency chain) := by
  have hd := distinct_of_generateSchemas h nofun
  obtain ⟨front, first, back, rfl, hfront, hfirst⟩ := first_failure_of_generateSchemas hd h
  have hm : first ∈ front ++ first :: back := List.mem_append_right front List.mem_cons_self
  obtain ⟨stack, last, rfl, hprefix, hcycle⟩ := (Expansion.fails_of_error hm hfirst).isCycle rfl hm
    List.nodup_nil (List.forall_mem_nil _) (List.isChain_singleton _)
  have hhead : stack.head? = some first.name := by
    obtain ⟨rest, hrest⟩ := hprefix
    cases stack with
    | nil => exact absurd hcycle.back List.not_mem_nil
    | cons name stack => exact congrArg some (List.cons.inj hrest).1.symm
  refine ⟨stack, last, rfl, hcycle, front, first, back, rfl, hhead, fun record hr => ?_, ?_⟩
  · rw [generateRecord_eq_expansion enums hd (List.mem_append_left _ hr)]
    exact hfront record hr
  · rw [generateRecord_eq_expansion enums hd hm]
    exact hfirst

/-- `Trip` needs `Place` first, which has no part in the cycle that `Leg` closes. -/
theorem journey_cycle_is_real :
    generateSchemas (journey "[String: Leg?]") modes =
        .error (.cyclicDependency ["Trip", "Leg", "Leg"]) ∧
      Generation.Scope.IsCycle ⟨journey "[String: Leg?]", modes⟩ ["Trip", "Leg"] "Leg" := by
  have he : (generateSchemas (journey "[String: Leg?]") modes).map (fun _ => ()) =
      .error (.cyclicDependency (["Trip", "Leg"] ++ ["Leg"])) := by decide +kernel
  have h := eq_error_of_map_eq_error he
  obtain ⟨stack, last, hchain, hcycle, -⟩ := reported_cycle_is_real h
  obtain ⟨rfl, hlast⟩ := List.append_inj' hchain rfl
  cases hlast
  exact ⟨h, hcycle⟩

end ToolSchema
