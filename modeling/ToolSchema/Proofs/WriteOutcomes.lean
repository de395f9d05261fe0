import ToolSchema.Proofs.SoundTrees

/-! What writing a file touches, and what keeps it from being written. Names that lead nowhere stop where
nothing stands, at a file, or at a name that is too long (`FileTree.Stops`). Once the directories on the
way are made the first of these is gone, so a file is written unless something that can be named stands
against it. Either way nothing is lost, and all else that is new are directories on the way
(`FileTree.writing_touches`). -/

namespace ToolSchema

namespace FilePath

theorem intercalate_prefix {separator : String} {front names : List String} (h : front <+: names) :
    ∃ more, separator.intercalate names = separator.intercalate front ++ more := by
  obtain ⟨back, rfl⟩ := h
  induction front with
  | nil => exact ⟨separator.intercalate back, by simp⟩
  | cons name rest ih =>
      obtain ⟨more, hm⟩ := ih
      cases rest with
      | nil =>
          cases back with
          | nil => exact ⟨"", by simp⟩
          | cons next others =>
              refine ⟨separator ++ separator.intercalate (next :: others), ?_⟩
              simp [String.intercalate_cons_cons, String.append_assoc]
      | cons next others =>
          refine ⟨more, ?_⟩
          rw [List.cons_append, List.cons_append, String.intercalate_cons_cons,
            ← List.cons_append, hm, String.intercalate_cons_cons]
          simp only [String.append_assoc]

/-- Where a path is too long for its parent, it is too long. -/
theorem le_of_le_parent {path : FilePath} {limit : Nat} (hl : 1 < limit)
    (h : limit ≤ path.parent.toString.utf8ByteSize) : limit ≤ path.toString.utf8ByteSize := by
  have hprefix : path.parent.parts <+: path.parts := List.dropLast_prefix path.parts
  obtain ⟨more, hm⟩ : ∃ more,
      "/".intercalate path.parts = "/".intercalate path.parent.parts ++ more :=
    intercalate_prefix hprefix
  unfold toString at h ⊢
  split at h
  · exact absurd h (Nat.not_le.mpr hl)
  · rename_i hparent
    rw [if_neg, hm, ← String.append_assoc, String.utf8ByteSize_append]
    · exact Nat.le_add_right_of_le h
    · rintro ⟨hroot, hparts⟩
      exact hparent ⟨hroot, by rw [parent, hparts]; rfl⟩

end FilePath

namespace FileTree

variable {tree grown after : FileTree} {origin inner : Place} {names front : List String}
  {target : Target} {path : FilePath} {kind : OsErrorKind} {refusal : OsError}

/-! ### Where names stop -/

theorem Leads.unique {other : Target} (h : tree.Leads origin names target)
    (ho : tree.Leads origin names other) : target = other :=
  Except.ok.inj (h.walk_eq.symm.trans ho.walk_eq)

theorem Leads.size_le (h : tree.Leads origin names target) :
    ∀ name ∈ names, name.utf8ByteSize ≤ maxName := by
  induction h with
  | here => exact List.forall_mem_nil _
  | up _ ih => exact List.forall_mem_cons.mpr ⟨by decide, ih⟩
  | down _ hsize _ _ ih => exact List.forall_mem_cons.mpr ⟨Nat.not_lt.mp hsize, ih⟩
  | ends _ hsize _ => exact List.forall_mem_singleton.mpr (Nat.not_lt.mp hsize)

/-- Names go on only after a directory. -/
theorem Leads.directory_before (h : tree.Leads origin names target) (hf : front <+: names)
    (ht : front = names → target.node? = some .directory) :
    ∃ place, tree.Leads origin front (.existing place .directory) := by
  induction h generalizing front with
  | @here origin =>
      rw [List.prefix_nil.mp hf]
      exact ⟨origin, .here⟩
  | @up origin rest target h ih =>
      rcases List.prefix_cons_iff.mp hf with rfl | ⟨inner, rfl, hi⟩
      · exact ⟨origin, .here⟩
      · obtain ⟨place, hp⟩ := ih hi fun he => ht (he ▸ rfl)
        exact ⟨place, .up hp⟩
  | @down origin name rest target hname hsize hn h ih =>
      rcases List.prefix_cons_iff.mp hf with rfl | ⟨inner, rfl, hi⟩
      · exact ⟨origin, .here⟩
      · obtain ⟨place, hp⟩ := ih hi fun he => ht (he ▸ rfl)
        exact ⟨place, .down hname hsize hn hp⟩
  | @ends origin name hname hsize hn =>
      rcases List.prefix_cons_iff.mp hf with rfl | ⟨inner, rfl, hi⟩
      · exact ⟨origin, .here⟩
      · rw [List.prefix_nil.mp hi, Target.node?_at] at ht
        exact absurd (ht rfl) hn

/-- Why names from a directory lead nowhere. -/
inductive Stops (tree : FileTree) (origin : Place) (names : List String) : OsErrorKind → Prop
  | vacant {front place} (hf : front <+: names) (hne : front ≠ names)
      (h : tree.Leads origin front (.vacant place)) : Stops tree origin names .noEntry
  | file {front place content} (hf : front <+: names) (hne : front ≠ names)
      (h : tree.Leads origin front (.existing place (.file content))) :
      Stops tree origin names .notDirectory
  | tooLong {name} (hm : name ∈ names) (h : maxName < name.utf8ByteSize) :
      Stops tree origin names .nameTooLong

theorem Stops.cons {name : String} (h : tree.Stops inner names kind)
    (hl : ∀ front target, tree.Leads inner front target → tree.Leads origin (name :: front) target) :
    tree.Stops origin (name :: names) kind := by
  cases h with
  | vacant hf hne h =>
      exact .vacant ((List.prefix_cons_inj name).mpr hf) (by simpa using hne) (hl _ _ h)
  | file hf hne h =>
      exact .file ((List.prefix_cons_inj name).mpr hf) (by simpa using hne) (hl _ _ h)
  | tooLong hm h => exact .tooLong (List.mem_cons_of_mem name hm) h

theorem Stops.mono {longer : List String} (h : tree.Stops origin names kind) (hp : names <+: longer) :
    tree.Stops origin longer kind := by
  have hne {front : List String} (hf : front <+: names) (hne : front ≠ names) : front ≠ longer := by
    rintro rfl
    exact hne (hf.eq_of_length_le hp.length_le)
  cases h with
  | vacant hf hn h => exact .vacant (hf.trans hp) (hne hf hn) h
  | file hf hn h => exact .file (hf.trans hp) (hne hf hn) h
  | tooLong hm h => exact .tooLong (hp.subset hm) h

theorem stops_of_walk (h : tree.walk origin names = .error kind) : tree.Stops origin names kind := by
  fun_induction tree.walk origin names with
  | case1 => cases h
  | case2 origin rest ih => exact (ih h).cons fun _ _ => .up
  | case3 origin name rest hname hsize =>
      cases h
      exact .tooLong List.mem_cons_self hsize
  | case4 => cases h
  | case5 origin name hname hsize next rest hn =>
      cases h
      have hdirectory : tree.node? (origin ++ [name]) ≠ some .directory := by
        rw [hn]
        intro he
        cases he
      have he : tree.Leads origin [name] _ := .ends hname hsize hdirectory
      rw [hn] at he
      exact .vacant ⟨next :: rest, rfl⟩ (by simp) he
  | case6 => cases h
  | case7 origin name hname hsize content next rest hn =>
      cases h
      have hdirectory : tree.node? (origin ++ [name]) ≠ some .directory := by
        rw [hn]
        intro he
        cases he
      have he : tree.Leads origin [name] _ := .ends hname hsize hdirectory
      rw [hn] at he
      exact .file ⟨next :: rest, rfl⟩ (by simp) he
  | case8 origin name rest hname hsize hn ih => exact (ih h).cons fun _ _ => .down hname hsize hn

theorem Leads.not_stops (h : tree.Leads origin names target) : ¬tree.Stops origin names kind := by
  intro hs
  cases hs with
  | vacant hf hne hl =>
      obtain ⟨place, hd⟩ := h.directory_before hf fun he => absurd he hne
      cases hl.unique hd
  | file hf hne hl =>
      obtain ⟨place, hd⟩ := h.directory_before hf fun he => absurd he hne
      cases hl.unique hd
  | tooLong hm hl => exact absurd hl (Nat.not_lt.mpr (h.size_le _ hm))

/-- What keeps a path from leading anywhere, even if nothing is missing on the way: a file in place of a
directory, a name that is too long, or too long a path. -/
inductive Obstructs (tree : FileTree) (path : FilePath) : Prop
  | stops {cause} (hk : cause ≠ .noEntry) (h : tree.Stops (tree.start path) path.parts cause)
  | length (h : pathLimit ≤ path.toString.utf8ByteSize)

theorem Obstructs.of_parent (h : tree.Obstructs path.parent) : tree.Obstructs path := by
  cases h with
  | stops hk h => exact .stops hk (h.mono (List.dropLast_prefix path.parts))
  | length h => exact .length (FilePath.le_of_le_parent (by decide) h)

theorem locate_error_cases (hn : path.isNameable = true) (h : tree.locate path = .error kind) :
    (kind = .noEntry ∧ tree.Stops (tree.start path) path.parts .noEntry) ∨
      (kind ≠ .noEntry ∧ tree.Obstructs path) := by
  unfold locate at h
  rw [hn] at h
  split at h
  · rename_i hnot
    cases hnot
  · split at h
    · rename_i hlength
      cases h
      exact Or.inr ⟨nofun, .length hlength⟩
    · have hs := stops_of_walk h
      by_cases hk : kind = .noEntry
      · exact Or.inl ⟨hk, hk ▸ hs⟩
      · exact Or.inr ⟨hk, .stops hk hs⟩

theorem prefix_dropLast (hf : front <+: names) (hne : front ≠ names) : front <+: names.dropLast := by
  obtain ⟨back, rfl⟩ := hf
  have hback : back ≠ [] := by
    rintro rfl
    exact hne (List.append_nil front).symm
  rw [List.dropLast_append_of_ne_nil hback]
  exact List.prefix_append front _

/-- Where the parent of a path is a directory, nothing is missing on the way. -/
theorem not_stops_noEntry {place : Place}
    (h : tree.Leads (tree.start path) path.parent.parts (.existing place .directory)) :
    ¬tree.Stops (tree.start path) path.parts .noEntry := by
  intro hs
  cases hs with
  | vacant hf hne hl =>
      obtain ⟨_, hd⟩ := h.directory_before (prefix_dropLast hf hne) fun _ => rfl
      cases hl.unique hd

/-! ### Directories on the way -/

/-- Whether a path leads to something of a kind. -/
def LeadsTo (tree : FileTree) (path : FilePath) (node : Node) : Prop :=
  ∃ place, tree.Leads (tree.start path) path.parts (.existing place node)

theorem leadsTo_of_locate {place : Place} {node : Node}
    (h : tree.locate path = .ok (.existing place node)) :
    tree.LeadsTo path node :=
  ⟨place, (locate_eq_ok_iff.mp h).2.2⟩

theorem makeDirectory_leadsTo (h : tree.makeDirectory path = .ok after) :
    after.LeadsTo path .directory := by
  have hg := makeDirectory_grows h
  unfold makeDirectory at h
  split at h
  · cases h
  · rename_i place hl
    cases h
    obtain ⟨-, -, hl⟩ := locate_eq_ok_iff.mp hl
    have hthere := (hl.kept hg.keepsDirectories).2 nofun
    have hput : (tree.put place .directory).node? place = some .directory :=
      (node?_put (hl.node?_eq nofun).1 .directory place).trans (if_pos rfl)
    change Leads _ _ _ (.at_ place ((tree.put place .directory).node? place)) at hthere
    rw [hput] at hthere
    exact ⟨place, hthere⟩
  · cases h

theorem orDirectory_leadsTo (h : tree.orDirectory path refusal = .ok ()) :
    tree.LeadsTo path .directory := by
  unfold orDirectory at h
  split at h
  · cases h
  · rename_i hd
    obtain ⟨place, hl⟩ := status_eq_ok_iff.mp (isDirectory?_iff.mp hd)
    exact leadsTo_of_locate hl
  · cases h

/-- What keeps a directory from being made: something on the way, or a file in its place. -/
theorem orDirectory_refused {e : OsError} (hn : path.isNameable = true)
    (hm : tree.makeDirectory path = .error refusal) (hk : refusal.kind ≠ .noEntry)
    (h : tree.orDirectory path refusal = .error e) :
    tree.Obstructs path ∨ ∃ content, tree.LeadsTo path (.file content) := by
  unfold makeDirectory at hm
  split at hm
  · rename_i place node hl
    cases node with
    | directory =>
        rw [orDirectory, isDirectory?_of_locate hl] at h
        cases h
    | file content => exact Or.inr ⟨content, leadsTo_of_locate hl⟩
  · cases hm
  · rename_i kind hl
    cases hm
    rcases locate_error_cases hn hl with ⟨he, -⟩ | ⟨-, ho⟩
    · exact absurd he hk
    · exact Or.inl ho

/-- A file in place of the parent stands on the way. -/
theorem obstructs_of_parent
    (h : tree.Obstructs path.parent ∨ ∃ content, tree.LeadsTo path.parent (.file content)) :
    tree.Obstructs path := by
  rcases h with h | ⟨content, place, h⟩
  · exact h.of_parent
  · have hne : path.parts.dropLast ≠ path.parts := by
      intro he
      have hnil : path.parts = [] := by
        have hlength := congrArg List.length he
        rw [List.length_dropLast] at hlength
        exact List.length_eq_zero_iff.mp (by omega)
      have hempty : path.parent.parts = [] := he.trans hnil
      rw [hempty] at h
      cases h
    have hs : tree.Stops (tree.start path) path.parts .notDirectory :=
      .file (List.dropLast_prefix path.parts) hne h
    exact .stops (by decide) hs

theorem stops_of_makeDirectory (hn : path.isNameable = true)
    (hm : tree.makeDirectory path = .error refusal) (hk : refusal.kind = .noEntry) :
    tree.Stops (tree.start path) path.parts .noEntry := by
  unfold makeDirectory at hm
  split at hm
  · cases hm
    cases hk
  · cases hm
  · rename_i kind hl
    cases hm
    rcases locate_error_cases hn hl with ⟨-, hs⟩ | ⟨hne, -⟩
    · exact hs
    · exact absurd hk hne

theorem makeDirectories_leadsTo (h : tree.makeDirectories path = (grown, .ok ())) :
    grown.LeadsTo path .directory := by
  fun_induction tree.makeDirectories path with
  | case1 path made hm =>
      cases h
      exact makeDirectory_leadsTo hm
  | case2 => cases h
  | case3 => cases h
  | case4 path refusal _ _ _ _ middle hg made hm ih =>
      cases h
      exact makeDirectory_leadsTo hm
  | case5 => cases h
  | case6 path refusal _ _ _ _ middle hg again _ _ ih =>
      obtain ⟨rfl, ho⟩ := Prod.mk.inj h
      exact orDirectory_leadsTo ho
  | case7 path refusal _ _ =>
      obtain ⟨rfl, ho⟩ := Prod.mk.inj h
      exact orDirectory_leadsTo ho

/-- Directories are made unless something stands on the way or a file in place of the last: by then
nothing is missing. -/
theorem makeDirectories_refused (hn : path.isNameable = true)
    (h : tree.makeDirectories path = (grown, .error refusal)) :
    grown.Obstructs path ∨ ∃ content, grown.LeadsTo path (.file content) := by
  fun_induction tree.makeDirectories path with
  | case1 => cases h
  | case2 path refusal hm hk hparts =>
      have hs := stops_of_makeDirectory hn hm hk
      rw [hparts] at hs
      exact absurd hs Leads.here.not_stops
  | case3 path refusal _ _ _ _ middle e hg ih =>
      cases h
      exact Or.inl (obstructs_of_parent (ih (isNameable_parent hn) hg))
  | case4 => cases h
  | case5 path refusal _ _ _ _ middle hg again hm hk ih =>
      obtain ⟨place, hd⟩ := makeDirectories_leadsTo hg
      exact absurd (stops_of_makeDirectory hn hm hk) (not_stops_noEntry hd)
  | case6 path refusal _ _ _ _ middle hg again hm hk ih =>
      obtain ⟨rfl, ho⟩ := Prod.mk.inj h
      exact orDirectory_refused hn hm hk ho
  | case7 path refusal hm hk =>
      obtain ⟨rfl, ho⟩ := Prod.mk.inj h
      exact orDirectory_refused hn hm hk ho

/-! ### Writing -/

theorem writeFile_refused {content : ByteArray} (hn : path.isNameable = true)
    (hp : tree.LeadsTo path.parent .directory) (h : tree.writeFile path content = .error refusal) :
    tree.Obstructs path ∨ tree.LeadsTo path .directory := by
  unfold writeFile at h
  split at h
  · rename_i hl
    exact Or.inr (leadsTo_of_locate hl)
  · cases h
  · cases h
  · rename_i kind hl
    rcases locate_error_cases hn hl with ⟨-, hs⟩ | ⟨-, ho⟩
    · obtain ⟨place, hd⟩ := hp
      exact absurd hs (not_stops_noEntry hd)
    · exact Or.inl ho

/-- What stands against a file at a path. -/
inductive Prevents (tree : FileTree) (path : FilePath) : WriteFailure → Prop
  | unnameable (h : path.isNameable = false) : Prevents tree path .unnameable
  | obstructed {cause} (h : tree.Obstructs path) : Prevents tree path (.refused cause)
  | directory {cause} (h : tree.LeadsTo path .directory) : Prevents tree path (.refused cause)

theorem Wrote.not_prevents {content : ByteArray} {place : Place} {failure : WriteFailure}
    (h : Wrote path content place tree after) : ¬after.Prevents path failure := by
  obtain ⟨hn, hsize, hl⟩ := locate_eq_ok_iff.mp h.located
  intro hp
  cases hp with
  | unnameable h => cases hn.symm.trans h
  | obstructed h =>
      cases h with
      | stops _ hs => exact hl.not_stops hs
      | length hlength => exact absurd hsize (Nat.not_lt.mpr hlength)
  | directory h =>
      obtain ⟨_, hd⟩ := h
      cases hl.unique hd

/-- To write a text at a path either puts its bytes there, or fails because something prevents it, which
nothing does otherwise. In both cases whatever stood anywhere else is still there, every file with its
bytes, and all else that is new are directories to which names on the way lead. -/
theorem writing_touches (tree : FileTree) (path : FilePath) (text : String) :
    ((tree.writeText path text).2 = .ok () ∧
        (∀ failure, ¬(tree.writeText path text).1.Prevents path failure) ∧
        ∃ place, Wrote path text.toUTF8 place tree (tree.writeText path text).1) ∨
      ∃ failure, (tree.writeText path text).2 = .error failure ∧
        (tree.writeText path text).1.Prevents path failure ∧
        Grows (tree.start path) path.parent.parts tree (tree.writeText path text).1 := by
  have hg := tree.makeDirectories_grows path.parent
  unfold writeText write
  cases hp : path.parent.isNameable with
  | false =>
      have hn : path.isNameable = false := by
        cases hn : path.isNameable with
        | false => rfl
        | true => exact (isNameable_parent hn).symm.trans hp
      exact Or.inr ⟨.unnameable, rfl, .unnameable hn, .refl tree⟩
  | true =>
      simp only [Bool.not_true, Bool.false_eq_true, if_false]
      rcases hm : tree.makeDirectories path.parent with ⟨grown, result⟩
      rw [hm] at hg
      cases result with
      | error refusal =>
          have hobstructed := obstructs_of_parent (makeDirectories_refused hp hm)
          exact Or.inr ⟨.refused refusal, rfl, .obstructed hobstructed, hg⟩
      | ok value =>
          cases hn : path.isNameable with
          | false => exact Or.inr ⟨.unnameable, rfl, .unnameable hn, hg⟩
          | true =>
              simp only [Bool.not_true, Bool.false_eq_true, if_false]
              cases hw : grown.writeFile path text.toUTF8 with
              | ok written =>
                  obtain ⟨place, hwrote⟩ := writeFile_wrote hg hw
                  exact Or.inl ⟨rfl, fun _ => hwrote.not_prevents, place, hwrote⟩
              | error refusal =>
                  refine Or.inr ⟨.refused refusal, rfl, ?_, hg⟩
                  rcases writeFile_refused hn (makeDirectories_leadsTo hm) hw with ho | hd
                  · exact .obstructed ho
                  · exact .directory hd

end FileTree

end ToolSchema
