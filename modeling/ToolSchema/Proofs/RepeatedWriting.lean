import ToolSchema.Proofs.SoundTrees

/-! Writing once more. After a file has been written its parent is a directory and the file stands where
its path leads, so to write the same file again changes nothing (`FileTree.write_again`). What stood
elsewhere before the first writing is still there, and a directory lists the same files unless the
written one is among them (`FileTree.Wrote.filesBelow_eq`). -/

namespace ToolSchema

theorem Table.put_of_find? {α κ : Type} [DecidableEq κ] {t : Table α κ} {key : κ} {value : α}
    (h : t.find? key = some value) : t.put key value = t := by
  induction t with
  | nil => cases h
  | cons entry rest ih =>
      obtain ⟨k, v⟩ := entry
      rw [Table.find?_cons] at h
      rw [Table.put]
      split at h
      · rename_i hk
        cases h
        rw [if_pos hk]
      · rename_i hk
        rw [if_neg hk, ih h]

namespace FileTree

variable {tree before after : FileTree} {origin place : Place} {names : List String}
  {target : Target} {content : ByteArray} {path : FilePath}

/-- The place that a path leads to, whether or not something stands there. -/
def place? (tree : FileTree) (path : FilePath) : Option Place :=
  (tree.locate path).toOption.map Target.place

theorem place?_eq_some_iff :
    tree.place? path = some place ↔ ∃ target, tree.locate path = .ok target ∧ target.place = place := by
  rw [place?, Option.map_eq_some_iff]
  cases tree.locate path with
  | error kind =>
      constructor
      · rintro ⟨_, h, _⟩
        cases h
      · rintro ⟨_, h, _⟩
        cases h
  | ok target => simp only [Except.toOption, Option.some.injEq, Except.ok.injEq]

theorem place?_of_locate (h : tree.locate path = .ok target) : tree.place? path = some target.place :=
  place?_eq_some_iff.mpr ⟨target, h, rfl⟩

/-! ### Ways -/

/-- Names that go on after a directory lead from there. -/
theorem Leads.walk_append (h : tree.Leads origin names (.existing place .directory))
    (more : List String) : tree.walk origin (names ++ more) = tree.walk place more := by
  generalize ht : Target.existing place .directory = middle at h
  induction h with
  | here =>
      cases ht
      rfl
  | up _ ih =>
      rw [List.cons_append, walk.eq_def]
      exact (if_pos rfl).trans (ih ht)
  | down hname hsize hn _ ih =>
      rw [List.cons_append, walk.eq_def]
      dsimp only
      rw [if_neg hname, if_neg hsize, hn]
      exact ih ht
  | ends _ _ hn =>
      have hnode := congrArg Target.node? ht
      rw [Target.node?_at] at hnode
      exact absurd hnode.symm hn

/-! ### Paths as they are written -/

/-- A slash or a dot at the end of a text demands a directory. -/
def demandsDirectory (text : String) : Bool :=
  (Text.splitOn '/' text.toList).getLast?.any fun last => last = [] ∨ last = ['.']

/-- What stands at a path as it is written. -/
structure Shows (tree : FileTree) (text : String) (node : Node) : Prop where
  given : text ≠ ""
  fits : ¬pathLimit ≤ text.utf8ByteSize
  demand : demandsDirectory text = true → node = .directory
  leads : ∃ place, tree.Leads (tree.start (.ofString text)) (FilePath.ofString text).parts
    (.existing place node)

theorem statusOfText_eq_ok_iff {text : String} {node : Node} :
    tree.statusOfText text = .ok node ↔ tree.Shows text node := by
  unfold statusOfText
  constructor
  · intro h
    split at h
    · cases h
    · rename_i hg
      split at h
      · cases h
      · rename_i hfits
        dsimp only at h
        split at h
        · rename_i place bytes hw
          split at h
          · cases h
          · rename_i hd
            cases h
            exact ⟨hg, hfits, fun hdemand => absurd hdemand hd, place, leads_of_walk hw⟩
        · rename_i place hw
          cases h
          exact ⟨hg, hfits, fun _ => rfl, place, leads_of_walk hw⟩
        · cases h
        · cases h
  · rintro ⟨hg, hfits, hdemand, place, hl⟩
    rw [if_neg hg, if_neg hfits]
    dsimp only
    rw [hl.walk_eq]
    cases node with
    | directory => rfl
    | file bytes =>
        have hd : ¬demandsDirectory text = true := by
          intro hd
          cases hdemand hd
        exact if_neg hd

/-! ### The same file again -/

theorem makeDirectory_located (h : tree.makeDirectory path = .ok after) :
    ∃ place, after.locate path = .ok (.existing place .directory) := by
  have hg := makeDirectory_grows h
  unfold makeDirectory at h
  split at h
  · cases h
  · rename_i place hl
    cases h
    obtain ⟨hname, hsize, hl⟩ := locate_eq_ok_iff.mp hl
    have hroot : place ≠ [] := (hl.node?_eq nofun).1
    have hthere := (hl.kept hg.keepsDirectories).2 nofun
    rw [Target.place, node?_put hroot, if_pos rfl] at hthere
    exact ⟨place, locate_eq_ok_iff.mpr ⟨hname, hsize, hthere⟩⟩
  · cases h

theorem orDirectory_located {refusal : OsError} (h : tree.orDirectory path refusal = .ok ()) :
    ∃ place, tree.locate path = .ok (.existing place .directory) := by
  unfold orDirectory at h
  split at h
  · cases h
  · rename_i hd
    exact status_eq_ok_iff.mp (isDirectory?_iff.mp hd)
  · cases h

/-- Where directories could be made there is one. -/
theorem makeDirectories_located (h : (tree.makeDirectories path).2 = .ok ()) :
    ∃ place, (tree.makeDirectories path).1.locate path = .ok (.existing place .directory) := by
  fun_induction tree.makeDirectories path with
  | case1 path made hm => exact makeDirectory_located hm
  | case2 => cases h
  | case3 => cases h
  | case4 path refusal _ _ _ _ grown hg made hm => exact makeDirectory_located hm
  | case5 => cases h
  | case6 path refusal _ _ _ _ grown hg again _ _ => exact orDirectory_located h
  | case7 => exact orDirectory_located h

/-- Nothing is made where there is a directory. -/
theorem makeDirectories_again (h : tree.locate path = .ok (.existing place .directory)) :
    tree.makeDirectories path = (tree, .ok ()) := by
  have hmake : tree.makeDirectory path = .error ⟨.fileExists, path.toString⟩ := by
    rw [makeDirectory, h]
  rw [makeDirectories, hmake]
  dsimp only
  rw [if_neg (by decide), orDirectory, isDirectory?_of_locate h]

theorem writeFile_again (h : tree.locate path = .ok (.existing place (.file content))) :
    tree.writeFile path content = .ok tree := by
  obtain ⟨-, -, hl⟩ := locate_eq_ok_iff.mp h
  obtain ⟨hroot, hnode⟩ : place ≠ [] ∧ tree.node? place = some (.file content) :=
    hl.node?_eq nofun
  rw [node?, if_neg hroot] at hnode
  rw [writeFile, h]
  dsimp only
  rw [put, Table.put_of_find? hnode]

theorem write_eq_ok (h : tree.write path content = (after, .ok ())) :
    path.parent.isNameable = true ∧ path.isNameable = true ∧
      ∃ grown, tree.makeDirectories path.parent = (grown, .ok ()) ∧
        grown.writeFile path content = .ok after := by
  unfold write at h
  split at h
  · cases h
  · rename_i hparent
    split at h
    · cases h
    · rename_i grown hg
      split at h
      · cases h
      · rename_i hname
        split at h
        · rename_i written hw
          cases h
          exact ⟨by simpa using hparent, by simpa using hname, grown, hg, hw⟩
        · cases h

theorem wrote_of_write (h : tree.write path content = (after, .ok ())) :
    ∃ place, Wrote path content place tree after := by
  obtain ⟨-, hname, -⟩ := write_eq_ok h
  rcases tree.write_changes content hname with ⟨-, hw⟩ | ⟨_, hr, _⟩
  · rwa [h] at hw
  · rw [h] at hr
    cases hr

/-- To write a file again changes nothing. -/
theorem write_again (h : tree.write path content = (after, .ok ())) :
    after.write path content = (after, .ok ()) := by
  obtain ⟨hparent, hname, grown, hg, hw⟩ := write_eq_ok h
  obtain ⟨place, hwrote⟩ := writeFile_wrote (.refl grown) hw
  obtain ⟨above, hl⟩ : ∃ above, grown.locate path.parent = .ok (.existing above .directory) := by
    have hmade : (tree.makeDirectories path.parent).2 = .ok () := by rw [hg]
    have hlocated := makeDirectories_located hmade
    rwa [hg] at hlocated
  obtain ⟨hn, hsize, hl⟩ := locate_eq_ok_iff.mp hl
  have hkept := (hl.kept hwrote.keepsDirectories).1 rfl
  rw [← start_eq hwrote.base] at hkept
  have habove : after.locate path.parent = .ok (.existing above .directory) :=
    locate_eq_ok_iff.mpr ⟨hn, hsize, hkept⟩
  rw [write, hparent, hname, makeDirectories_again habove]
  dsimp only
  rw [writeFile_again hwrote.located]
  rfl

/-! ### What stays -/

namespace Wrote

variable {other : FilePath} {found : Place}

/-- What a path led to is still there, unless it is the file that was written. -/
theorem locate_kept {node : Node} (h : Wrote path content place before after)
    (hl : before.locate other = .ok (.existing found node)) (hne : found ≠ place) :
    after.locate other = .ok (.existing found node) := by
  obtain ⟨hn, hsize, hl⟩ := locate_eq_ok_iff.mp hl
  have hkept := hl.kept h.keepsDirectories
  rw [← start_eq h.base] at hkept
  refine locate_eq_ok_iff.mpr ⟨hn, hsize, ?_⟩
  cases node with
  | directory => exact hkept.1 rfl
  | file bytes =>
      have hthere := hkept.2 nofun
      have hnode := h.kept found (.file bytes) hne (hl.node?_eq nofun).2
      rw [Target.place, hnode] at hthere
      exact hthere

theorem directory_kept (h : Wrote path content place before after)
    (hl : before.locate other = .ok (.existing found .directory)) :
    after.locate other = .ok (.existing found .directory) := by
  obtain ⟨hn, hsize, hl⟩ := locate_eq_ok_iff.mp hl
  have hkept := (hl.kept h.keepsDirectories).1 rfl
  rw [← start_eq h.base] at hkept
  exact locate_eq_ok_iff.mpr ⟨hn, hsize, hkept⟩

theorem file_at_place (h : Wrote path content place before after) :
    after.node? place = some (.file content) := by
  obtain ⟨-, -, hl⟩ := locate_eq_ok_iff.mp h.located
  exact (hl.node?_eq nofun).2

/-- A path to something leads to the same place. -/
theorem place?_kept {node : Node} (h : Wrote path content place before after)
    (hl : before.locate other = .ok (.existing found node)) : after.place? other = some found := by
  obtain ⟨hn, hsize, hl⟩ := locate_eq_ok_iff.mp hl
  obtain ⟨hdirectory, hother⟩ := hl.kept h.keepsDirectories
  rw [← start_eq h.base] at hdirectory hother
  by_cases hd : (Target.existing found node).node? = some .directory
  · exact place?_of_locate (locate_eq_ok_iff.mpr ⟨hn, hsize, hdirectory hd⟩)
  · rw [place?_of_locate (locate_eq_ok_iff.mpr ⟨hn, hsize, hother hd⟩), Target.place_at]
    rfl

theorem status_kept {node : Node} (h : Wrote path content place before after)
    (hs : before.status other = .ok node) (hne : after.place? other ≠ some place) :
    after.status other = .ok node := by
  obtain ⟨found, hl⟩ := status_eq_ok_iff.mp hs
  have hfound : found ≠ place := fun he => hne (he ▸ h.place?_kept hl)
  exact status_eq_ok_iff.mpr ⟨found, h.locate_kept hl hfound⟩

/-- Where a written path showed a file there is one, and where it showed a directory there is one. -/
theorem shows_kept {text : String} {node : Node} (h : Wrote path content place before after)
    (hs : before.Shows text node) :
    ∃ now, after.Shows text now ∧ (now = .directory ↔ node = .directory) := by
  obtain ⟨hg, hfits, hdemand, found, hl⟩ := hs
  obtain ⟨hdirectory, hother⟩ := hl.kept h.keepsDirectories
  rw [← start_eq h.base] at hdirectory hother
  cases node with
  | directory => exact ⟨.directory, ⟨hg, hfits, hdemand, found, hdirectory rfl⟩, Iff.rfl⟩
  | file bytes =>
      obtain ⟨now, hnow⟩ : ∃ now, after.node? found = some (.file now) := by
        by_cases hp : found = place
        · exact ⟨content, hp ▸ h.file_at_place⟩
        · exact ⟨bytes, h.kept found _ hp (hl.node?_eq nofun).2⟩
      have hlead := hother nofun
      rw [Target.place, hnow] at hlead
      have hfile : ∀ content, Node.file content ≠ .directory := fun _ he => by cases he
      refine ⟨.file now, ⟨hg, hfits, fun hd => ?_, found, hlead⟩,
        iff_of_false (hfile now) (hfile bytes)⟩
      cases hdemand hd

theorem shows_no_directory {text : String}
    (h : Wrote (.ofString text) content place before after) : ¬after.Shows text .directory := by
  rintro ⟨-, -, -, found, hl⟩
  obtain ⟨-, -, hfile⟩ := locate_eq_ok_iff.mp h.located
  have hwalk := hl.walk_eq
  rw [hfile.walk_eq] at hwalk
  cases hwalk

/-- A directory lists the same files as before, unless the file that was written is one of them. -/
theorem filesBelow_eq {suffix : String} (h : Wrote path content place before after)
    (hs : before.Sound) (hl : before.locate other = .ok (.existing found .directory))
    (hne : ∀ names ∈ after.namesBelow found suffix, found ++ names ≠ place) :
    before.filesBelow other suffix = after.filesBelow other suffix := by
  have hafter := h.sound hs
  have hl' := h.directory_kept hl
  refine filesBelow_congr hs hafter hl hl' fun names hsuffix => ⟨?_, ?_⟩
  · rintro ⟨bytes, hb⟩
    by_cases hp : found ++ names = place
    · exact ⟨content, hp ▸ h.file_at_place⟩
    · exact ⟨bytes, h.kept _ _ hp hb⟩
  · rintro ⟨bytes, ha⟩
    have hmem : names ∈ after.namesBelow found suffix :=
      (mem_namesBelow_iff hafter (hafter.node?_of_locate hl')).mpr ⟨hsuffix, bytes, ha⟩
    have hp : found ++ names ≠ place := hne names hmem
    cases hb : before.node? (found ++ names) with
    | none => cases (h.made _ _ hp hb ha).1
    | some node =>
        have hkept := h.kept _ _ hp hb
        rw [ha] at hkept
        cases hkept
        exact ⟨bytes, rfl⟩

end Wrote

/-- The path of a file below a directory leads to the place of the file. -/
theorem Sound.place_below {suffix : String} (hs : tree.Sound)
    (hd : tree.locate path = .ok (.existing origin .directory))
    (hn : names ∈ tree.namesBelow origin suffix)
    (hl : tree.locate (path.below names) = .ok target) : target.place = origin ++ names := by
  obtain ⟨-, -, hpath⟩ := locate_eq_ok_iff.mp hd
  obtain ⟨-, -, hl⟩ := locate_eq_ok_iff.mp hl
  obtain ⟨-, _, hnode⟩ := (mem_namesBelow_iff hs (hs.node?_of_locate hd)).mp hn
  have hwalk := hl.walk_eq
  have hstart : tree.start (path.below names) = tree.start path := rfl
  have hparts : (path.below names).parts = path.parts ++ names := rfl
  rw [hstart, hparts, hpath.walk_append] at hwalk
  refine (leads_of_walk hwalk).place_eq fun hup => ?_
  exact (hs.names_below hnode ".." hup).1 rfl

end FileTree

end ToolSchema
