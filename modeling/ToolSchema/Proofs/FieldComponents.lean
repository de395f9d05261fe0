import Mathlib.Data.List.Nodup
import ToolSchema.Proofs.Expansion

/-! What the components of a record hold. Fields are added one after the other, so the properties stand
in the order in which their names come first, each with the schema of the last field of its name, and
the names of the fields that are not optional are required, as often as there are such fields. This
holds whatever the fragments of the fields are; `Components.Extends` leaves open which of them fit. -/

namespace ToolSchema

/-- A fragment as the schema of a field, whose own description stands before any other. -/
def Field.describe (field : Field) (fragment : Json) : Json :=
  match spoken? field.description with
  | none => fragment
  | some text => Fragment.describe text fragment

theorem Components.add_eq (components : Components) (field : Field) (fragment : Json) :
    components.add field fragment =
      ⟨components.properties.put field.name (field.describe fragment),
        if field.optional then components.required else components.required ++ [field.name]⟩ := rfl

/-- A field that no later one of its name replaces. -/
def Field.LastIn (field : Field) (declared : List Field) : Prop :=
  ∃ front back, declared = front ++ field :: back ∧ field.name ∉ back.map Field.name

theorem Field.lastIn_of_nodup {field : Field} {declared : List Field}
    (hd : (declared.map Field.name).Nodup) (hm : field ∈ declared) : field.LastIn declared := by
  obtain ⟨front, back, rfl⟩ := List.append_of_mem hm
  rw [List.map_append, List.map_cons] at hd
  have hb := (List.nodup_append.mp hd).2.1
  exact ⟨front, back, rfl, (List.nodup_cons.mp hb).1⟩

theorem eraseDups_of_nodup {α : Type} [DecidableEq α] {items : List α} (h : items.Nodup) :
    items.eraseDups = items := by
  induction items with
  | nil => rfl
  | cons a rest ih =>
      rw [List.nodup_cons] at h
      have hf : rest.filter (fun b => !b == a) = rest := by
        refine List.filter_eq_self.mpr fun b hb => ?_
        rw [Bool.not_eq_true', beq_eq_false_iff_ne]
        exact fun he => h.1 (he ▸ hb)
      rw [List.eraseDups_cons, hf, ih h.2]

/-- An item that has come before adds nothing. -/
theorem eraseDups_append_cons_of_mem {α : Type} [DecidableEq α] {before rest : List α} {a : α}
    (h : a ∈ before) : (before ++ a :: rest).eraseDups = (before ++ rest).eraseDups := by
  have hr : (a :: rest).removeAll before = rest.removeAll before := by
    rw [List.cons_removeAll, if_neg]
    simpa using h
  rw [List.eraseDups_append, List.eraseDups_append, hr]

namespace Components

/-- Components with fields added in order, each with a fragment that fits the field. -/
inductive Extends (Fits : Field → Json → Prop) : Components → List Field → Components → Prop
  | done {components} : Extends Fits components [] components
  | add {components after field fragment rest} (hf : Fits field fragment)
      (h : Extends Fits (components.add field fragment) rest after) :
      Extends Fits components (field :: rest) after

namespace Extends

variable {Fits : Field → Json → Prop} {before after : Components} {declared : List Field}

theorem append {front back : List Field} (h : Extends Fits before (front ++ back) after) :
    ∃ middle, Extends Fits before front middle ∧ Extends Fits middle back after := by
  induction front generalizing before with
  | nil => exact ⟨before, .done, h⟩
  | cons first rest ih =>
      cases h with
      | add hf h =>
          obtain ⟨middle, hfront, hback⟩ := ih h
          exact ⟨middle, .add hf hfront, hback⟩

theorem exists_fits {field : Field} (h : Extends Fits before declared after)
    (hm : field ∈ declared) : ∃ fragment, Fits field fragment := by
  obtain ⟨front, back, rfl⟩ := List.append_of_mem hm
  obtain ⟨middle, -, h⟩ := h.append
  cases h with
  | add hf _ => exact ⟨_, hf⟩

/-- Fields change no property of another name. -/
theorem find?_of_not_mem {name : String} (h : Extends Fits before declared after)
    (hn : name ∉ declared.map Field.name) :
    after.properties.find? name = before.properties.find? name := by
  induction h with
  | done => rfl
  | add hf h ih =>
      rw [List.map_cons, List.mem_cons, not_or] at hn
      rw [ih hn.2, add_eq]
      dsimp only
      rw [Table.find?_put, if_neg (Ne.symm hn.1)]

theorem find?_of_lastIn {field : Field} (h : Extends Fits before declared after)
    (hl : field.LastIn declared) :
    ∃ fragment, Fits field fragment ∧
      after.properties.find? field.name = some (field.describe fragment) := by
  obtain ⟨front, back, rfl, hb⟩ := hl
  obtain ⟨middle, -, h⟩ := h.append
  cases h with
  | add hf h =>
      refine ⟨_, hf, ?_⟩
      rw [h.find?_of_not_mem hb, add_eq]
      dsimp only
      rw [Table.find?_put, if_pos rfl]

theorem keys_eq (h : Extends Fits before declared after) (hn : before.properties.keys.Nodup) :
    after.properties.keys = (before.properties.keys ++ declared.map Field.name).eraseDups := by
  induction h with
  | done => rw [List.map_nil, List.append_nil, eraseDups_of_nodup hn]
  | @add components after field fragment rest hf h ih =>
      rw [ih (Table.nodup_keys_put hn field.name _), add_eq]
      dsimp only
      rw [Table.keys_put, List.map_cons]
      split
      · rename_i hm
        rw [eraseDups_append_cons_of_mem hm]
      · rw [List.append_assoc, List.singleton_append]

theorem required_eq (h : Extends Fits before declared after) :
    after.required =
      before.required ++ (declared.filter fun field => !field.optional).map Field.name := by
  induction h with
  | done => exact (List.append_nil _).symm
  | @add components after field fragment rest hf h ih =>
      rw [ih, add_eq]
      dsimp only
      cases ho : field.optional with
      | true => rw [if_pos rfl, List.filter_cons_of_neg (by simp [ho])]
      | false =>
          rw [if_neg Bool.false_ne_true, List.filter_cons_of_pos (by simp [ho]), List.map_cons,
            List.append_assoc, List.singleton_append]

/-- What holds of every fragment that fits, once it is the schema of its field, holds of every
property. -/
theorem forall_properties {P : Json → Prop} (h : Extends Fits before declared after)
    (hb : ∀ name value, (name, value) ∈ before.properties → P value)
    (hp : ∀ field fragment, Fits field fragment → P (field.describe fragment)) :
    ∀ name value, (name, value) ∈ after.properties → P value := by
  induction h with
  | done => exact hb
  | @add components after field fragment rest hf h ih =>
      refine ih fun name value hm => ?_
      rcases Table.mem_put hm with hm | rfl
      · exact hb name value hm
      · exact hp field fragment hf

end Extends

end Components

namespace Expansion

variable {enums : Table Enumeration} {lookup : Lookup} {record : String}
  {before after : Components} {declared : List Field} {field : Field}

/-- Expanding fields adds each of them with what its type expands to. -/
theorem fields_eq_ok_iff :
    fields enums lookup record before declared = .ok after ↔
      Components.Extends
        (fun field fragment =>
          rawType enums lookup ⟨record, field.name⟩ field.rawType.toList = .ok fragment)
        before declared after := by
  induction declared generalizing before with
  | nil =>
      constructor
      · intro h
        cases h
        exact .done
      · intro h
        cases h
        rfl
  | cons first rest ih =>
      rw [fields, bind_eq_ok_iff]
      constructor
      · rintro ⟨fragment, hf, h⟩
        exact .add hf (ih.mp h)
      · intro h
        cases h with
        | add hf h => exact ⟨_, hf, ih.mpr h⟩

theorem find?_of_lastIn (h : fields enums lookup record before declared = .ok after)
    (hl : field.LastIn declared) :
    ∃ fragment, rawType enums lookup ⟨record, field.name⟩ field.rawType.toList = .ok fragment ∧
      after.properties.find? field.name = some (field.describe fragment) :=
  (fields_eq_ok_iff.mp h).find?_of_lastIn hl

theorem keys_of_fields (h : fields enums lookup record before declared = .ok after)
    (hn : before.properties.keys.Nodup) :
    after.properties.keys = (before.properties.keys ++ declared.map Field.name).eraseDups :=
  (fields_eq_ok_iff.mp h).keys_eq hn

theorem required_of_fields (h : fields enums lookup record before declared = .ok after) :
    after.required =
      before.required ++ (declared.filter fun field => !field.optional).map Field.name :=
  (fields_eq_ok_iff.mp h).required_eq

end Expansion

end ToolSchema
