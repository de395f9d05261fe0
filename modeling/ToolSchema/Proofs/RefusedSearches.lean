import ToolSchema.Proofs.SoundTrees
import ToolSchema.Storage.Search

/-! Searches that are refused. What stands in the way of a search (`FileTree.Obstacle`) is a directory
inside too many others, or a path that is too long: of a directory below the one that is searched, or of
something in such a directory that has the name of a file that is searched for. A search is refused if
there is an obstacle, and then for one; which one it meets first depends on the order of the entries,
whether there is one does not. A search that is not refused finds the files below its directory. -/

namespace ToolSchema.FileTree

variable {machine : Machine} {tree : FileTree} {suffix : String} {room : Nat} {path : FilePath}
  {place : Place} {names : List String} {name : String} {cause : Interruption} {files : List FilePath}

/-! ### Entries of a directory -/

theorem mem_namesAt_iff : name ∈ tree.namesAt place ↔ tree.node? (place ++ [name]) ≠ none := by
  have hkey : tree.node? (place ++ [name]) ≠ none ↔ place ++ [name] ∈ tree.entries.keys := by
    rw [node?, if_neg (List.concat_ne_nil _ _), ne_eq, Table.find?_eq_none_iff, not_not]
  rw [hkey, namesAt, mem_firsts_id, List.mem_filterMap]
  constructor
  · rintro ⟨found, hf, hl⟩
    split at hl
    · rename_i hd
      obtain ⟨front, rfl⟩ := List.getLast?_eq_some_iff.mp hl
      rw [List.dropLast_concat] at hd
      rwa [← hd]
    · cases hl
  · intro hm
    refine ⟨place ++ [name], hm, ?_⟩
    rw [List.dropLast_concat, if_pos rfl, List.getLast?_concat]

theorem isDirectoryAt_iff : tree.isDirectoryAt place = true ↔ tree.node? place = some .directory := by
  unfold isDirectoryAt
  split
  · exact iff_of_true rfl ‹_›
  · exact iff_of_false Bool.false_ne_true ‹_›

/-- Names lead down from a directory through directories. -/
def Enters (tree : FileTree) : Place → List String → Prop
  | _, [] => True
  | place, name :: rest =>
    tree.node? (place ++ [name]) = some .directory ∧ tree.Enters (place ++ [name]) rest

/-! ### Obstacles -/

/-- The refusal of a path that is too long. -/
def nameTooLong (path : FilePath) : Interruption := .system ⟨.nameTooLong, path.toString⟩

def Overlong (path : FilePath) : Prop := pathLimit ≤ path.toString.utf8ByteSize

theorem overlong?_eq_some_iff :
    overlong? path = some cause ↔ Overlong path ∧ cause = nameTooLong path := by
  unfold overlong?
  split
  · rename_i h
    rw [Option.some.injEq]
    exact ⟨fun he => ⟨h, he.symm⟩, fun he => he.2.symm⟩
  · rename_i h
    exact iff_of_false (fun he => by cases he) fun he => h he.1

/-- What stands in the way of a search below a directory that has room for so many directories inside
of each other. -/
inductive Obstacle (tree : FileTree) (suffix : String) (room : Nat) (path : FilePath) (place : Place) :
    Interruption → Prop
  | depth (down) (he : tree.Enters place down) (h : room ≤ down.length) :
      Obstacle tree suffix room path place .overdeepSearch
  | directory (down) (he : tree.Enters place down) (h : Overlong (path.below down)) :
      Obstacle tree suffix room path place (nameTooLong (path.below down))
  | entry (down) {last} (he : tree.Enters place down)
      (hn : tree.node? (place ++ down ++ [last]) ≠ none) (hs : last.endsWith suffix = true)
      (h : Overlong (path.below (down ++ [last]))) :
      Obstacle tree suffix room path place (nameTooLong (path.below (down ++ [last])))

theorem below_nil (path : FilePath) : path.below [] = path := by
  rw [FilePath.below, List.append_nil]

theorem below_below (path : FilePath) (front back : List String) :
    (path.below front).below back = path.below (front ++ back) := by
  simp only [FilePath.below, List.append_assoc]

namespace Obstacle

/-- What stands in the way of the search of a directory inside another stands in the way of the search
of the other. -/
theorem of_inner (hd : tree.node? (place ++ [name]) = some .directory)
    (h : tree.Obstacle suffix room (path.below [name]) (place ++ [name]) cause) :
    tree.Obstacle suffix (room + 1) path place cause := by
  cases h with
  | depth down he hr =>
      exact .depth (name :: down) ⟨hd, he⟩ (Nat.succ_le_succ hr)
  | directory down he hl =>
      rw [below_below] at hl ⊢
      exact .directory (name :: down) ⟨hd, he⟩ hl
  | @entry down last he hn hs hl =>
      rw [below_below] at hl ⊢
      refine .entry (name :: down) ⟨hd, he⟩ ?_ hs hl
      rwa [List.append_cons place]

/-- An obstacle is met at once, among the entries, or inside a directory among them. -/
theorem cases_here (h : tree.Obstacle suffix (room + 1) path place cause) :
    Overlong path ∨
      (∃ name, tree.node? (place ++ [name]) ≠ none ∧ name.endsWith suffix = true ∧
        Overlong (path.below [name])) ∨
      ∃ name, tree.node? (place ++ [name]) = some .directory ∧
        tree.Obstacle suffix room (path.below [name]) (place ++ [name]) cause := by
  cases h with
  | depth down he hr =>
      cases down with
      | nil => exact absurd hr (Nat.not_succ_le_zero room)
      | cons name rest => exact Or.inr (Or.inr ⟨name, he.1, .depth rest he.2 (Nat.le_of_succ_le_succ hr)⟩)
  | directory down he hl =>
      cases down with
      | nil => exact Or.inl (below_nil path ▸ hl)
      | cons name rest =>
          have hinner : tree.Obstacle suffix room (path.below [name]) (place ++ [name])
              (nameTooLong ((path.below [name]).below rest)) :=
            .directory rest he.2 (by rwa [below_below])
          rw [below_below] at hinner
          exact Or.inr (Or.inr ⟨name, he.1, hinner⟩)
  | @entry down last he hn hs hl =>
      cases down with
      | nil =>
          rw [List.append_nil] at hn
          exact Or.inr (Or.inl ⟨last, hn, hs, hl⟩)
      | cons name rest =>
          rw [List.append_cons place] at hn
          have hinner : tree.Obstacle suffix room (path.below [name]) (place ++ [name])
              (nameTooLong ((path.below [name]).below (rest ++ [last]))) :=
            .entry rest he.2 hn hs (by rwa [below_below])
          rw [below_below] at hinner
          exact Or.inr (Or.inr ⟨name, he.1, hinner⟩)

end Obstacle

/-! ### What a search meets -/

theorem obstacle?_cases (h : tree.obstacle? suffix (room + 1) path place = some cause) :
    (Overlong path ∧ cause = nameTooLong path) ∨
      (∃ name, tree.node? (place ++ [name]) ≠ none ∧ name.endsWith suffix = true ∧
        Overlong (path.below [name]) ∧ cause = nameTooLong (path.below [name])) ∨
      ∃ name, tree.node? (place ++ [name]) = some .directory ∧
        tree.obstacle? suffix room (path.below [name]) (place ++ [name]) = some cause := by
  rw [obstacle?, Option.or_eq_some_iff, Option.or_eq_some_iff] at h
  rcases h with h | ⟨-, h | ⟨-, h⟩⟩
  · exact Or.inl (overlong?_eq_some_iff.mp h)
  · obtain ⟨name, hm, hname⟩ := List.exists_of_findSome?_eq_some h
    split at hname
    · obtain ⟨hl, hc⟩ := overlong?_eq_some_iff.mp hname
      exact Or.inr (Or.inl ⟨name, mem_namesAt_iff.mp hm, ‹_›, hl, hc⟩)
    · cases hname
  · obtain ⟨name, -, hname⟩ := List.exists_of_findSome?_eq_some h
    split at hname
    · exact Or.inr (Or.inr ⟨name, isDirectoryAt_iff.mp ‹_›, hname⟩)
    · cases hname

/-- What a search meets is an obstacle. -/
theorem obstacle_of_met (h : tree.obstacle? suffix room path place = some cause) :
    tree.Obstacle suffix room path place cause := by
  induction room generalizing path place with
  | zero =>
      cases h
      exact .depth [] trivial (Nat.le_refl 0)
  | succ room ih =>
      rcases obstacle?_cases h with
        ⟨hl, rfl⟩ | ⟨name, hn, hs, hl, rfl⟩ | ⟨name, hd, hinner⟩
      · have hhere : tree.Obstacle suffix (room + 1) path place (nameTooLong (path.below [])) :=
          .directory [] trivial (by rwa [below_nil])
        rwa [below_nil] at hhere
      · exact Obstacle.entry [] trivial (by rwa [List.append_nil]) hs hl
      · exact .of_inner hd (ih hinner)

/-- No search passes by an obstacle. -/
theorem met_of_obstacle (h : tree.Obstacle suffix room path place cause) :
    tree.obstacle? suffix room path place ≠ none := by
  induction room generalizing path place with
  | zero => exact Option.some_ne_none _
  | succ room ih =>
      intro hnone
      rw [obstacle?, Option.or_eq_none_iff, Option.or_eq_none_iff, List.findSome?_eq_none_iff,
        List.findSome?_eq_none_iff] at hnone
      obtain ⟨hpath, hentries, hinner⟩ := hnone
      rcases h.cases_here with hl | ⟨name, hn, hs, hl⟩ | ⟨name, hd, h⟩
      · rw [overlong?_eq_some_iff.mpr ⟨hl, rfl⟩] at hpath
        cases hpath
      · have hname := hentries name (mem_namesAt_iff.mpr hn)
        rw [if_pos hs, overlong?_eq_some_iff.mpr ⟨hl, rfl⟩] at hname
        cases hname
      · have hm : name ∈ tree.namesAt place := mem_namesAt_iff.mpr (by simp [hd])
        have hname := hinner name hm
        rw [if_pos (isDirectoryAt_iff.mpr hd)] at hname
        exact ih h hname

/-- A search is refused for an obstacle. -/
theorem obstacle_of_search (hl : tree.locate path = .ok (.existing place .directory))
    (h : tree.search machine path suffix = .error cause) :
    tree.Obstacle suffix machine.directories path place cause := by
  rw [search, hl] at h
  dsimp only at h
  split at h
  · cases h
    exact obstacle_of_met ‹_›
  · cases h

/-- A search is refused where there is an obstacle. -/
theorem search_refused_iff (hl : tree.locate path = .ok (.existing place .directory)) :
    (∃ cause, tree.search machine path suffix = .error cause) ↔
      ∃ cause, tree.Obstacle suffix machine.directories path place cause := by
  refine ⟨fun ⟨cause, h⟩ => ⟨cause, obstacle_of_search hl h⟩, fun ⟨cause, h⟩ => ?_⟩
  obtain ⟨met, hm⟩ := Option.ne_none_iff_exists'.mp (met_of_obstacle h)
  refine ⟨met, ?_⟩
  rw [search, hl]
  dsimp only
  rw [hm]

theorem search_of_clear (hl : tree.locate path = .ok (.existing place .directory))
    (h : tree.obstacle? suffix machine.directories path place = none) :
    tree.search machine path suffix = .ok (tree.filesBelow path suffix) := by
  rw [search, hl]
  dsimp only
  rw [h]

/-- A search that is not refused finds the files. -/
theorem search_eq_ok (h : tree.search machine path suffix = .ok files) :
    files = tree.filesBelow path suffix := by
  unfold search at h
  dsimp only at h
  split at h
  · split at h
    · cases h
    · cases h
      rfl
  · cases h
    rfl

end ToolSchema.FileTree
