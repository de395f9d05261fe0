/-! The first items of a list under each key, in order. -/

namespace ToolSchema

variable {α : Type u} {β : Type v} [DecidableEq β]

/-- The items whose keys neither are in `seen` nor belong to an earlier item. -/
def firstsAfter (key : α → β) : List β → List α → List α
  | _, [] => []
  | seen, a :: rest =>
    if key a ∈ seen then firstsAfter key seen rest
    else a :: firstsAfter key (key a :: seen) rest

def firsts (key : α → β) (items : List α) : List α := firstsAfter key [] items

theorem mem_firstsAfter {key : α → β} {seen : List β} {items : List α} {a : α}
    (h : a ∈ firstsAfter key seen items) : a ∈ items ∧ key a ∉ seen := by
  fun_induction firstsAfter key seen items with
  | case1 => simp at h
  | case2 seen b rest _ ih =>
    have := ih h
    exact ⟨List.mem_cons_of_mem _ this.1, this.2⟩
  | case3 seen b rest hb ih =>
    simp only [List.mem_cons] at h
    rcases h with rfl | h
    · exact ⟨by simp, hb⟩
    · have := ih h
      simp only [List.mem_cons, not_or] at this
      exact ⟨List.mem_cons_of_mem _ this.1, this.2.2⟩

theorem nodup_map_firstsAfter (key : α → β) (seen : List β) (items : List α) :
    ((firstsAfter key seen items).map key).Nodup := by
  fun_induction firstsAfter key seen items with
  | case1 => simp
  | case2 _ _ _ _ ih => exact ih
  | case3 seen b rest hb ih =>
    simp only [List.map_cons, List.nodup_cons, List.mem_map, not_exists, not_and]
    refine ⟨fun a ha hab => ?_, ih⟩
    have := (mem_firstsAfter ha).2
    simp [hab] at this

/-- No two of the first items share a key. -/
theorem nodup_map_firsts (key : α → β) (items : List α) : ((firsts key items).map key).Nodup :=
  nodup_map_firstsAfter key [] items

theorem mem_map_firstsAfter {key : α → β} {seen : List β} {items : List α} {a : α} (h : a ∈ items) :
    key a ∈ seen ∨ key a ∈ (firstsAfter key seen items).map key := by
  fun_induction firstsAfter key seen items with
  | case1 => exact absurd h List.not_mem_nil
  | case2 seen b rest hb ih =>
    rcases List.mem_cons.1 h with rfl | h
    · exact Or.inl hb
    · exact ih h
  | case3 seen b rest hb ih =>
    rcases List.mem_cons.1 h with rfl | h
    · exact Or.inr (List.mem_map_of_mem List.mem_cons_self)
    · rcases ih h with hs | hm
      · rcases List.mem_cons.1 hs with he | hs
        · rw [List.map_cons, he]
          exact Or.inr List.mem_cons_self
        · exact Or.inl hs
      · exact Or.inr (List.mem_cons_of_mem _ hm)

/-- No key is lost. -/
theorem mem_map_firsts {key : α → β} {items : List α} {a : α} (h : a ∈ items) :
    key a ∈ (firsts key items).map key :=
  (mem_map_firstsAfter h).resolve_left List.not_mem_nil

/-- Items that are their own keys are all kept. -/
theorem mem_firsts_id [DecidableEq α] {items : List α} {a : α} :
    a ∈ firsts id items ↔ a ∈ items := by
  refine ⟨fun h => (mem_firstsAfter h).1, fun h => ?_⟩
  have hm : id a ∈ (firsts id items).map id := mem_map_firsts h
  rwa [List.map_id] at hm

theorem map_firstsAfter (key : α → β) (seen : List β) (items : List α) :
    (firstsAfter key seen items).map key =
      ((items.map key).filter fun k => k ∉ seen).eraseDups := by
  fun_induction firstsAfter key seen items with
  | case1 => rfl
  | case2 seen a rest hs ih =>
    rw [ih, List.map_cons, List.filter_cons_of_neg (by simpa using hs)]
  | case3 seen a rest hs ih =>
    rw [List.map_cons, ih, List.map_cons, List.filter_cons_of_pos (by simpa using hs),
      List.eraseDups_cons, List.filter_filter]
    congr 2
    refine List.filter_congr fun k _ => ?_
    exact Bool.eq_iff_iff.mpr (by simp)

/-- The keys of the first items are all keys, each once and in order. -/
theorem map_firsts (key : α → β) (items : List α) :
    (firsts key items).map key = (items.map key).eraseDups := by
  rw [firsts, map_firstsAfter, List.filter_eq_self.2 (by simp)]

theorem find?_of_mem_firstsAfter {key : α → β} {seen : List β} {items : List α} {a : α}
    (h : a ∈ firstsAfter key seen items) : (items.find? fun b => key b = key a) = some a := by
  fun_induction firstsAfter key seen items with
  | case1 => simp at h
  | case2 seen b rest hb ih =>
    have hne : key b ≠ key a := fun he => (mem_firstsAfter h).2 (he ▸ hb)
    rw [List.find?_cons_of_neg (by simpa using hne), ih h]
  | case3 seen b rest hb ih =>
    rcases List.mem_cons.1 h with rfl | h
    · rw [List.find?_cons_of_pos (by simp)]
    · have hne : key b ≠ key a := fun he => (mem_firstsAfter h).2 (he ▸ List.mem_cons_self)
      rw [List.find?_cons_of_neg (by simpa using hne), ih h]

/-- What is among the first items is the first of its key. -/
theorem find?_of_mem_firsts {key : α → β} {items : List α} {a : α} (h : a ∈ firsts key items) :
    (items.find? fun b => key b = key a) = some a :=
  find?_of_mem_firstsAfter h

theorem find?_firstsAfter (key : α → β) {p : β → Bool} {seen : List β} (items : List α)
    (hs : ∀ k ∈ seen, p k = false) :
    ((firstsAfter key seen items).find? fun a => p (key a)) = items.find? fun a => p (key a) := by
  fun_induction firstsAfter key seen items with
  | case1 => rfl
  | case2 seen a rest ha ih =>
    rw [ih hs, List.find?_cons_of_neg (by simp [hs (key a) ha])]
  | case3 seen a rest _ ih =>
    rw [List.find?_cons, List.find?_cons]
    cases hp : p (key a) with
    | true => rfl
    | false => exact ih (List.forall_mem_cons.2 ⟨hp, hs⟩)

/-- What is found by its key is found among the first items. -/
theorem find?_firsts (key : α → β) (p : β → Bool) (items : List α) :
    ((firsts key items).find? fun a => p (key a)) = items.find? fun a => p (key a) :=
  find?_firstsAfter key items (List.forall_mem_nil _)

end ToolSchema
