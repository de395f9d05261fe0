/-! Tables in insertion order: a list of entries in which a key is written at most once. Writing a
key that is present replaces its value and keeps its place; writing a new key appends an entry. Two
facts describe a table: what each key finds (`find?_put`) and in which order the keys stand
(`keys_put`). -/

namespace ToolSchema

/-- Keys are text unless another kind of key is named. -/
abbrev Table (α : Type u) (κ : Type := String) := List (κ × α)

namespace Table

variable {α : Type u} {κ : Type}

def keys (t : Table α κ) : List κ := List.map Prod.fst t

@[simp] theorem keys_nil : keys ([] : Table α κ) = [] := rfl

@[simp] theorem keys_cons (k : κ) (v : α) (rest : Table α κ) :
    keys ((k, v) :: rest) = k :: keys rest := rfl

variable [DecidableEq κ]

def find? : Table α κ → κ → Option α
  | [], _ => none
  | (k, v) :: rest, key => if k = key then some v else find? rest key

def put : Table α κ → κ → α → Table α κ
  | [], key, value => [(key, value)]
  | (k, v) :: rest, key, value =>
    if k = key then (k, value) :: rest else (k, v) :: put rest key value

/-- The entries of a list written one after the other, so that of several values for one key the
last stands at the place of the first. -/
def ofList (entries : List (κ × α)) : Table α κ :=
  entries.foldl (fun t entry => put t entry.1 entry.2) []

@[simp] theorem find?_nil (key : κ) : find? ([] : Table α κ) key = none := rfl

@[simp] theorem find?_cons (k : κ) (v : α) (rest : Table α κ) (key : κ) :
    find? ((k, v) :: rest) key = if k = key then some v else find? rest key := rfl

theorem find?_put (t : Table α κ) (key other : κ) (value : α) :
    find? (put t key value) other = if key = other then some value else find? t other := by
  induction t with
  | nil => rfl
  | cons entry rest ih =>
    obtain ⟨k, v⟩ := entry
    by_cases hk : k = key
    · subst hk
      by_cases ho : k = other <;> simp [put, ho]
    · by_cases ho : k = other
      · subst ho
        simp [put, hk, Ne.symm hk]
      · simp [put, hk, ho, ih]

theorem find?_eq_none_iff {t : Table α κ} {key : κ} : find? t key = none ↔ key ∉ keys t := by
  induction t with
  | nil => simp
  | cons entry rest ih =>
    obtain ⟨k, v⟩ := entry
    by_cases hk : k = key
    · simp [hk]
    · simp [hk, ih, Ne.symm hk]

theorem keys_put (t : Table α κ) (key : κ) (value : α) :
    keys (put t key value) = if key ∈ keys t then keys t else keys t ++ [key] := by
  induction t with
  | nil => simp [put]
  | cons entry rest ih =>
    obtain ⟨k, v⟩ := entry
    by_cases hk : k = key
    · simp [put, hk]
    · by_cases hr : key ∈ keys rest
      · simp [put, hk, hr, ih]
      · simp [put, hk, hr, ih, Ne.symm hk]

theorem mem_keys_put {t : Table α κ} {key other : κ} {value : α} :
    other ∈ keys (put t key value) ↔ other ∈ keys t ∨ other = key := by
  rw [keys_put]
  split
  · rename_i hk
    exact ⟨Or.inl, fun h => h.elim id fun he => he ▸ hk⟩
  · rw [List.mem_append, List.mem_singleton]

/-- A new key is written behind all others. -/
theorem put_of_not_mem {t : Table α κ} {key : κ} (h : key ∉ keys t) (value : α) :
    put t key value = t ++ [(key, value)] := by
  induction t with
  | nil => rfl
  | cons entry rest ih =>
    obtain ⟨k, v⟩ := entry
    rw [keys_cons, List.mem_cons, not_or] at h
    rw [put, if_neg (Ne.symm h.1), ih h.2]
    rfl

theorem nodup_keys_put {t : Table α κ} (h : (keys t).Nodup) (key : κ) (value : α) :
    (keys (put t key value)).Nodup := by
  rw [keys_put]
  split
  · exact h
  · rename_i hk
    exact List.nodup_append.2 ⟨h, by simp, by
      intro a ha b hb
      simp only [List.mem_singleton] at hb
      subst hb
      exact fun hab => hk (hab ▸ ha)⟩

theorem mem_of_find? {t : Table α κ} {key : κ} {value : α} (h : find? t key = some value) :
    (key, value) ∈ t := by
  induction t with
  | nil => simp at h
  | cons entry rest ih =>
    obtain ⟨k, v⟩ := entry
    by_cases hk : k = key
    · simp [hk] at h
      simp [hk, h]
    · simp [hk] at h
      exact List.mem_cons_of_mem _ (ih h)

theorem mem_keys_of_find? {t : Table α κ} {key : κ} {value : α} (h : find? t key = some value) :
    key ∈ keys t :=
  List.mem_map_of_mem (mem_of_find? h)

theorem find?_of_mem {t : Table α κ} (hn : (keys t).Nodup) {key : κ} {value : α}
    (hm : (key, value) ∈ t) : find? t key = some value := by
  induction t with
  | nil => cases hm
  | cons entry rest ih =>
    obtain ⟨k, v⟩ := entry
    rw [keys_cons, List.nodup_cons] at hn
    rw [find?_cons]
    rcases List.mem_cons.1 hm with he | hm
    · cases he
      rw [if_pos rfl]
    · rw [if_neg, ih hn.2 hm]
      intro he
      exact hn.1 (he ▸ List.mem_map_of_mem hm)

/-- The order of a table without repeated keys does not matter to what is found. -/
theorem find?_of_perm {t other : Table α κ} (hn : (keys t).Nodup) (h : t.Perm other) (key : κ) :
    find? t key = find? other key := by
  have hkeys : (keys t).Perm (keys other) := h.map Prod.fst
  cases ht : find? t key with
  | none =>
    have hk : key ∉ keys other := fun hk => find?_eq_none_iff.1 ht (hkeys.mem_iff.2 hk)
    exact (find?_eq_none_iff.2 hk).symm
  | some value =>
    exact (find?_of_mem (hkeys.nodup_iff.1 hn) (h.mem_iff.1 (mem_of_find? ht))).symm

theorem mem_put {t : Table α κ} {key name : κ} {value found : α}
    (h : (name, found) ∈ put t key value) : (name, found) ∈ t ∨ found = value := by
  induction t with
  | nil =>
    rw [put, List.mem_singleton] at h
    exact Or.inr (congrArg Prod.snd h)
  | cons entry rest ih =>
    rw [put] at h
    split at h
    · rcases List.mem_cons.1 h with h | h
      · exact Or.inr (congrArg Prod.snd h)
      · exact Or.inl (List.mem_cons_of_mem _ h)
    · rcases List.mem_cons.1 h with h | h
      · exact Or.inl (h ▸ List.mem_cons_self)
      · exact (ih h).imp (List.mem_cons_of_mem _) id

variable {β : Type v}

theorem find?_map (f : α → β) (t : Table α κ) (key : κ) :
    find? (List.map (fun entry => (entry.1, f entry.2)) t) key = (find? t key).map f := by
  induction t with
  | nil => rfl
  | cons entry rest ih =>
    rw [List.map_cons, find?_cons, find?_cons, ih]
    split <;> rfl

omit [DecidableEq κ] in
theorem keys_map (f : α → β) (t : Table α κ) :
    keys (List.map (fun entry => (entry.1, f entry.2)) t) = keys t := by
  rw [keys, List.map_map]
  rfl

end Table

end ToolSchema
