import ToolSchema.Storage.Tree

/-! What a change to a file tree leaves as it is. Names lead from a directory to a target
(`FileTree.Leads`), and as long as directories stay directories they lead to the same place. To write a
file changes nothing but what stands at its path: whatever else there was is still there, and whatever
else is new is a directory on the way to the file. Where writing is refused, nothing but such
directories is new. -/

namespace ToolSchema

namespace Target

/-- The target at a place where something stands or nothing. -/
def at_ (place : Place) : Option Node → Target
  | none => .vacant place
  | some node => .existing place node

def place : Target → Place
  | .existing place _ => place
  | .vacant place => place

/-- What stands there. -/
def node? : Target → Option Node
  | .existing _ node => some node
  | .vacant _ => none

@[simp] theorem place_at (place : Place) (node : Option Node) : (at_ place node).place = place := by
  cases node <;> rfl

@[simp] theorem node?_at (place : Place) (node : Option Node) : (at_ place node).node? = node := by
  cases node <;> rfl

end Target

namespace FileTree

/-- Names lead from a directory to a target. Only the last may be that of a file, or of nothing. -/
inductive Leads (tree : FileTree) : Place → List String → Target → Prop
  | here {origin} : Leads tree origin [] (.existing origin .directory)
  | up {origin rest target} (h : Leads tree origin.dropLast rest target) :
      Leads tree origin (".." :: rest) target
  | down {origin name rest target} (hname : name ≠ "..") (hsize : ¬maxName < name.utf8ByteSize)
      (hn : tree.node? (origin ++ [name]) = some .directory)
      (h : Leads tree (origin ++ [name]) rest target) : Leads tree origin (name :: rest) target
  | ends {origin name} (hname : name ≠ "..") (hsize : ¬maxName < name.utf8ByteSize)
      (hn : tree.node? (origin ++ [name]) ≠ some .directory) :
      Leads tree origin [name] (.at_ (origin ++ [name]) (tree.node? (origin ++ [name])))

variable {tree before after : FileTree} {origin : Place} {names : List String} {target : Target}

theorem node?_put {place : Place} (h : place ≠ []) (node : Node) (other : Place) :
    (tree.put place node).node? other = if place = other then some node else tree.node? other := by
  unfold node? put
  by_cases ho : other = []
  · rw [if_pos ho, if_pos ho, if_neg fun he => h (he.trans ho)]
  · rw [if_neg ho, if_neg ho]
    exact Table.find?_put tree.entries place other node

theorem leads_of_walk (h : tree.walk origin names = .ok target) : tree.Leads origin names target := by
  fun_induction tree.walk origin names with
  | case1 origin =>
      cases h
      exact .here
  | case2 origin rest ih => exact .up (ih h)
  | case3 => cases h
  | case4 origin name hname hsize hn =>
      cases h
      have he : tree.Leads origin [name] _ := .ends hname hsize (by rw [hn]; nofun)
      rwa [hn] at he
  | case5 => cases h
  | case6 origin name hname hsize content hn =>
      cases h
      have he : tree.Leads origin [name] _ := .ends hname hsize (by rw [hn]; nofun)
      rwa [hn] at he
  | case7 => cases h
  | case8 origin name rest hname hsize hn ih => exact .down hname hsize hn (ih h)

theorem Leads.walk_eq (h : tree.Leads origin names target) : tree.walk origin names = .ok target := by
  induction h with
  | here => rw [walk.eq_def]
  | up _ ih =>
      rw [walk.eq_def]
      exact (if_pos rfl).trans ih
  | down hname hsize hn _ ih =>
      rw [walk.eq_def]
      dsimp only
      rw [if_neg hname, if_neg hsize, hn]
      exact ih
  | @ends origin name hname hsize hn =>
      rw [walk.eq_def]
      dsimp only
      rw [if_neg hname, if_neg hsize]
      cases ht : tree.node? (origin ++ [name]) with
      | none => rfl
      | some node =>
          cases node with
          | directory => exact absurd ht hn
          | file content => rfl

theorem walk_eq_ok_iff : tree.walk origin names = .ok target ↔ tree.Leads origin names target :=
  ⟨leads_of_walk, Leads.walk_eq⟩

/-- A target that is no directory is what stands at its place, which is not the root. -/
theorem Leads.node?_eq (h : tree.Leads origin names target) (hn : target.node? ≠ some .directory) :
    target.place ≠ [] ∧ tree.node? target.place = target.node? := by
  induction h with
  | here => exact absurd rfl hn
  | up _ ih => exact ih hn
  | down _ _ _ _ ih => exact ih hn
  | @ends origin name hname hsize ht =>
      rw [Target.place_at, Target.node?_at]
      exact ⟨List.concat_ne_nil _ _, rfl⟩

/-- Whatever is a directory stays one. -/
def KeepsDirectories (before after : FileTree) : Prop :=
  ∀ place, before.node? place = some .directory → after.node? place = some .directory

/-- Where directories stay, names lead to the same place. -/
theorem Leads.kept (h : before.Leads origin names target) (hk : before.KeepsDirectories after) :
    (target.node? = some .directory → after.Leads origin names target) ∧
      (target.node? ≠ some .directory →
        after.Leads origin names (.at_ target.place (after.node? target.place))) := by
  induction h with
  | here => exact ⟨fun _ => .here, fun hn => absurd rfl hn⟩
  | up _ ih => exact ⟨fun hn => .up (ih.1 hn), fun hn => .up (ih.2 hn)⟩
  | down hname hsize hd _ ih =>
      exact ⟨fun hn => .down hname hsize (hk _ hd) (ih.1 hn),
        fun hn => .down hname hsize (hk _ hd) (ih.2 hn)⟩
  | @ends origin name hname hsize hd =>
      rw [Target.place_at, Target.node?_at]
      refine ⟨fun hn => absurd hn hd, fun _ => ?_⟩
      by_cases ha : after.node? (origin ++ [name]) = some .directory
      · rw [ha]
        exact .down hname hsize ha .here
      · exact .ends hname hsize ha

theorem locate_eq_ok_iff {path : FilePath} :
    tree.locate path = .ok target ↔ path.isNameable = true ∧
      path.toString.utf8ByteSize < pathLimit ∧ tree.Leads (tree.start path) path.parts target := by
  unfold locate
  cases path.isNameable with
  | false => simp
  | true =>
      by_cases hl : pathLimit ≤ path.toString.utf8ByteSize
      · simp [hl, Nat.not_lt.mpr hl]
      · simp [hl, walk_eq_ok_iff, Nat.lt_of_not_le hl]

/-! ### New directories -/

/-- A tree with directories made on the way along some names, and nothing else changed. -/
structure Grows (origin : Place) (names : List String) (before after : FileTree) : Prop where
  base : after.base = before.base
  kept : ∀ place node, before.node? place = some node → after.node? place = some node
  made : ∀ place node, before.node? place = none → after.node? place = some node →
    node = .directory ∧
      ∃ front, front <+: names ∧ after.Leads origin front (.existing place .directory)

namespace Grows

theorem refl (tree : FileTree) : Grows origin names tree tree :=
  ⟨rfl, fun _ _ h => h, fun _ _ hn h => by rw [hn] at h; cases h⟩

theorem keepsDirectories (h : Grows origin names before after) : before.KeepsDirectories after :=
  fun place => h.kept place .directory

theorem mono {longer : List String} (h : Grows origin names before after) (hp : names <+: longer) :
    Grows origin longer before after := by
  refine ⟨h.base, h.kept, fun place node hn ha => ?_⟩
  obtain ⟨hd, front, hf, hl⟩ := h.made place node hn ha
  exact ⟨hd, front, hf.trans hp, hl⟩

theorem trans {middle : FileTree} (h₁ : Grows origin names before middle)
    (h₂ : Grows origin names middle after) : Grows origin names before after := by
  refine ⟨h₂.base.trans h₁.base, fun place node hb => h₂.kept place node (h₁.kept place node hb),
    fun place node hn ha => ?_⟩
  cases hm : middle.node? place with
  | none => exact h₂.made place node hm ha
  | some found =>
      obtain ⟨rfl, front, hf, hl⟩ := h₁.made place found hn hm
      rw [h₂.kept place _ hm] at ha
      cases ha
      exact ⟨rfl, front, hf, (hl.kept h₂.keepsDirectories).1 rfl⟩

end Grows

theorem start_eq {path : FilePath} (h : after.base = before.base) :
    after.start path = before.start path := by
  rw [start, start, h]

theorem makeDirectory_grows {path : FilePath} (h : tree.makeDirectory path = .ok after) :
    Grows (tree.start path) path.parts tree after := by
  unfold makeDirectory at h
  split at h
  · cases h
  · rename_i place hl
    cases h
    obtain ⟨-, -, hl⟩ := locate_eq_ok_iff.mp hl
    obtain ⟨hroot, hvacant⟩ := hl.node?_eq nofun
    have hput : ∀ other, (tree.put place .directory).node? other =
        if place = other then some .directory else tree.node? other := node?_put hroot .directory
    have hkept : ∀ other node, tree.node? other = some node →
        (tree.put place .directory).node? other = some node := by
      intro other node ho
      rw [hput, if_neg, ho]
      rintro rfl
      exact absurd (hvacant.symm.trans ho) nofun
    refine ⟨rfl, hkept, fun other node hn ha => ?_⟩
    rw [hput] at ha
    split at ha
    · rename_i he
      cases ha
      have hthere := (hl.kept fun other => hkept other .directory).2 nofun
      change Leads _ _ _ (.at_ place ((tree.put place .directory).node? place)) at hthere
      rw [hput, if_pos rfl] at hthere
      exact ⟨rfl, path.parts, List.prefix_rfl, he ▸ hthere⟩
    · exact absurd (hn.symm.trans ha) nofun
  · cases h

/-- However the making of directories ends, nothing but directories on the way is made. -/
theorem makeDirectories_grows (tree : FileTree) (path : FilePath) :
    Grows (tree.start path) path.parts tree (tree.makeDirectories path).1 := by
  fun_induction tree.makeDirectories path with
  | case1 path made hm => exact makeDirectory_grows hm
  | case2 => exact .refl tree
  | case3 path refusal _ _ _ _ grown e hg ih =>
      rw [hg] at ih
      exact ih.mono (List.dropLast_prefix path.parts)
  | case4 path refusal _ _ _ _ grown hg made hm ih =>
      rw [hg] at ih
      have hparent := ih.mono (List.dropLast_prefix path.parts)
      have hlast := makeDirectory_grows hm
      rw [start_eq ih.base] at hlast
      exact hparent.trans hlast
  | case5 path refusal _ _ _ _ grown hg again _ _ ih =>
      rw [hg] at ih
      exact ih.mono (List.dropLast_prefix path.parts)
  | case6 path refusal _ _ _ _ grown hg again _ _ ih =>
      rw [hg] at ih
      exact ih.mono (List.dropLast_prefix path.parts)
  | case7 => exact .refl tree

/-! ### Writing -/

/-- A file written at a path: it stands where the path leads, whatever stood anywhere else is still
there, and all else that is new are directories on the way. -/
structure Wrote (path : FilePath) (content : ByteArray) (place : Place) (before after : FileTree) :
    Prop where
  base : after.base = before.base
  located : after.locate path = .ok (.existing place (.file content))
  noDirectory : before.node? place ≠ some .directory
  kept : ∀ other node, other ≠ place → before.node? other = some node →
    after.node? other = some node
  made : ∀ other node, other ≠ place → before.node? other = none → after.node? other = some node →
    node = .directory ∧ ∃ front, front <+: path.parent.parts ∧
      after.Leads (after.start path) front (.existing other .directory)

theorem writeFile_wrote {path : FilePath} {content : ByteArray} {grown : FileTree}
    (hg : Grows (tree.start path) path.parent.parts tree grown)
    (h : grown.writeFile path content = .ok after) : ∃ place, Wrote path content place tree after := by
  obtain ⟨target, hl, hn, rfl⟩ : ∃ target, grown.locate path = .ok target ∧
      target.node? ≠ some .directory ∧ after = grown.put target.place (.file content) := by
    unfold writeFile at h
    split at h
    · cases h
    · rename_i place found hl
      cases h
      exact ⟨_, hl, nofun, rfl⟩
    · rename_i place hl
      cases h
      exact ⟨_, hl, nofun, rfl⟩
    · cases h
  obtain ⟨hname, hsize, hleads⟩ := locate_eq_ok_iff.mp hl
  obtain ⟨hroot, hthere⟩ := hleads.node?_eq hn
  have hput : ∀ other, (grown.put target.place (.file content)).node? other =
      if target.place = other then some (.file content) else grown.node? other :=
    node?_put hroot (.file content)
  have hdirectories : grown.KeepsDirectories (grown.put target.place (.file content)) := by
    intro other ho
    rw [hput, if_neg, ho]
    rintro rfl
    exact hn (hthere.symm.trans ho)
  have hbase : (grown.put target.place (.file content)).base = tree.base := hg.base
  refine ⟨target.place, hbase, ?_, fun hd => ?_, fun other node ho hb => ?_,
    fun other node ho hb ha => ?_⟩
  · have hlead := (hleads.kept hdirectories).2 hn
    rw [hput, if_pos rfl] at hlead
    exact locate_eq_ok_iff.mpr ⟨hname, hsize, hlead⟩
  · exact hn (hthere.symm.trans (hg.kept _ _ hd))
  · rw [hput, if_neg (Ne.symm ho)]
    exact hg.kept other node hb
  · rw [hput, if_neg (Ne.symm ho)] at ha
    obtain ⟨hd, front, hf, hfront⟩ := hg.made other node hb ha
    rw [start_eq hbase]
    exact ⟨hd, front, hf, (hfront.kept hdirectories).1 rfl⟩

theorem isNameable_parent {path : FilePath} (hn : path.isNameable = true) :
    path.parent.isNameable = true :=
  List.all_eq_true.mpr fun name hm =>
    List.all_eq_true.mp hn name ((List.dropLast_prefix path.parts).subset hm)

/-- Writing writes the file, or is refused with nothing new but directories on the way. -/
theorem write_changes (tree : FileTree) {path : FilePath} (content : ByteArray)
    (hname : path.isNameable = true) :
    ((tree.write path content).2 = .ok () ∧
        ∃ place, Wrote path content place tree (tree.write path content).1) ∨
      ∃ refusal, (tree.write path content).2 = .error (.refused refusal) ∧
        Grows (tree.start path) path.parent.parts tree (tree.write path content).1 := by
  have hparent : path.parent.isNameable = true := isNameable_parent hname
  have hg := tree.makeDirectories_grows path.parent
  unfold write
  simp only [hparent, hname, Bool.not_true, Bool.false_eq_true, if_false]
  rcases hm : tree.makeDirectories path.parent with ⟨grown, result⟩
  rw [hm] at hg
  cases result with
  | error refusal => exact Or.inr ⟨refusal, rfl, hg⟩
  | ok value =>
      cases hw : grown.writeFile path content with
      | ok written =>
          simp only [hw]
          exact Or.inl ⟨trivial, writeFile_wrote hg hw⟩
      | error refusal =>
          simp only [hw]
          exact Or.inr ⟨refusal, rfl, hg⟩

end FileTree

end ToolSchema
