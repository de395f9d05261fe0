import Mathlib.Data.List.Infix
import ToolSchema.Proofs.FileChanges

/-! Trees as a system has them. Everything stands in a directory, under a name that can be asked for,
and there is a directory to start at (`FileTree.Sound`); writing a file keeps it so. In such a tree names
without double dots lead where they say, so the files below a directory are those that stand below it
(`FileTree.mem_namesBelow_iff`), and two trees with the same files below a directory list them alike. -/

namespace ToolSchema

/-! ### The order of places -/

namespace Place

theorem le_cons (a b : String) (as bs : Place) :
    le (a :: as) (b :: bs) = true ↔ a < b ∨ (a = b ∧ le as bs = true) := by
  rw [le]
  by_cases he : a = b
  · simp [he]
  · simp [he]

theorem le_total (a b : Place) : (le a b || le b a) = true := by
  rw [Bool.or_eq_true]
  induction a generalizing b with
  | nil => exact Or.inl rfl
  | cons a as ih =>
      cases b with
      | nil => exact Or.inr rfl
      | cons b bs =>
          rw [le_cons, le_cons]
          by_cases hab : a < b
          · exact Or.inl (Or.inl hab)
          · by_cases hba : b < a
            · exact Or.inr (Or.inl hba)
            · have he : a = b := String.le_antisymm (String.not_lt.mp hba) (String.not_lt.mp hab)
              exact (ih bs).imp (fun h => Or.inr ⟨he, h⟩) fun h => Or.inr ⟨he.symm, h⟩

theorem le_trans (a b c : Place) (hab : le a b = true) (hbc : le b c = true) : le a c = true := by
  induction a generalizing b c with
  | nil => rfl
  | cons a as ih =>
      cases b with
      | nil => cases hab
      | cons b bs =>
          cases c with
          | nil => cases hbc
          | cons c cs =>
              rw [le_cons] at hab hbc ⊢
              rcases hab with hab | ⟨rfl, hab⟩
              · rcases hbc with hbc | ⟨rfl, -⟩
                · exact Or.inl (String.lt_trans hab hbc)
                · exact Or.inl hab
              · rcases hbc with hbc | ⟨rfl, hbc⟩
                · exact Or.inl hbc
                · exact Or.inr ⟨rfl, ih bs cs hab hbc⟩

theorem le_antisymm (a b : Place) (hab : le a b = true) (hba : le b a = true) : a = b := by
  induction a generalizing b with
  | nil =>
      cases b with
      | nil => rfl
      | cons b bs => cases hba
  | cons a as ih =>
      cases b with
      | nil => cases hab
      | cons b bs =>
          rw [le_cons] at hab hba
          rcases hab with hab | ⟨rfl, hab⟩
          · rcases hba with hba | ⟨he, -⟩
            · exact absurd hba (String.lt_asymm hab)
            · exact absurd (he ▸ hab) (String.lt_irrefl _)
          · rcases hba with hba | ⟨-, hba⟩
            · exact absurd hba (String.lt_irrefl _)
            · rw [ih bs hab hba]

/-- The order leaves one way to sort. -/
theorem mergeSort_eq {places others : List Place} (h : places.Perm others) :
    places.mergeSort le = others.mergeSort le := by
  have hperm : (places.mergeSort le).Perm (others.mergeSort le) :=
    (List.mergeSort_perm places le).trans (h.trans (List.mergeSort_perm others le).symm)
  exact hperm.eq_of_pairwise (fun a b _ _ => le_antisymm a b)
    (List.pairwise_mergeSort le_trans le_total places)
    (List.pairwise_mergeSort le_trans le_total others)

end Place

/-! ### Sound trees -/

/-- A name under which something can stand and be asked for. -/
def IsName (name : String) : Prop :=
  name ≠ ".." ∧ name.utf8ByteSize ≤ FileTree.maxName ∧ name.toList.contains '\x00' = false

namespace FileTree

variable {tree before after : FileTree} {origin place : Place} {names : List String}
  {target : Target} {content : ByteArray}

/-- What leads to a place are names, from one directory to the next. -/
def Housed (tree : FileTree) (place : Place) : Prop :=
  ∀ front name, front ++ [name] <+: place → IsName name ∧ tree.node? front = some .directory

structure Sound (tree : FileTree) : Prop where
  base : tree.node? tree.base = some .directory
  housed : ∀ place node, tree.node? place = some node → tree.Housed place

theorem housed_iff : tree.Housed place ↔ ∀ k, ∀ h : k < place.length,
    IsName place[k] ∧ tree.node? (place.take k) = some .directory := by
  constructor
  · intro h k hk
    refine h (place.take k) place[k] ?_
    rw [List.take_append_getElem hk]
    exact List.take_prefix _ _
  · rintro h front name ⟨back, rfl⟩
    have hk := h front.length (by simp)
    simpa using hk

instance : DecidablePred IsName := fun _ => inferInstanceAs (Decidable (_ ∧ _ ∧ _))

instance : Decidable (tree.Housed place) := decidable_of_iff _ housed_iff.symm

theorem sound_iff : tree.Sound ↔
    tree.node? tree.base = some .directory ∧ ∀ place ∈ tree.entries.keys, tree.Housed place := by
  constructor
  · refine fun hs => ⟨hs.base, fun place hm => ?_⟩
    by_cases hp : place = []
    · exact hs.housed place .directory (if_pos hp)
    · cases hf : tree.entries.find? place with
      | some node => exact hs.housed place node ((if_neg hp).trans hf)
      | none => exact absurd hm (Table.find?_eq_none_iff.mp hf)
  · refine fun ⟨hb, hh⟩ => ⟨hb, fun place node hn => ?_⟩
    by_cases hp : place = []
    · intro front name h
      rw [hp] at h
      exact absurd (List.prefix_nil.mp h) (List.concat_ne_nil _ _)
    · rw [node?, if_neg hp] at hn
      exact hh place (Table.mem_keys_of_find? hn)

instance : Decidable tree.Sound := decidable_of_iff _ sound_iff.symm

namespace Housed

theorem of_prefix {front : Place} (h : tree.Housed place) (hp : front <+: place) :
    tree.Housed front :=
  fun outer name ho => h outer name (ho.trans hp)

theorem snoc {name : String} (h : tree.Housed place) (hd : tree.node? place = some .directory)
    (hname : IsName name) : tree.Housed (place ++ [name]) := by
  intro front last hp
  rcases List.prefix_concat_iff.mp hp with he | hp
  · obtain ⟨rfl, hl⟩ := List.append_inj' he rfl
    cases hl
    exact ⟨hname, hd⟩
  · exact h front last hp

theorem parent_directory (h : tree.Housed place) : tree.node? place.dropLast = some .directory := by
  rcases List.eq_nil_or_concat place with rfl | ⟨front, name, rfl⟩
  · exact if_pos rfl
  · rw [List.concat_eq_append] at h ⊢
    rw [List.dropLast_concat]
    exact (h front name List.prefix_rfl).2

theorem kept (h : before.Housed place) (hk : before.KeepsDirectories after) : after.Housed place :=
  fun front name hp => ⟨(h front name hp).1, hk front (h front name hp).2⟩

/-- Names that lead from a directory on the way to something lead to it. -/
theorem leads {node : Node} (h : tree.Housed (origin ++ names))
    (hd : tree.node? origin = some .directory) (hn : tree.node? (origin ++ names) = some node) :
    tree.Leads origin names (.existing (origin ++ names) node) := by
  induction names generalizing origin with
  | nil =>
      rw [List.append_nil] at hn ⊢
      rw [hd] at hn
      cases hn
      exact .here
  | cons name rest ih =>
      have hsplit : origin ++ name :: rest = origin ++ [name] ++ rest := List.append_cons _ _ _
      rw [hsplit] at h hn ⊢
      obtain ⟨⟨hup, hsize, -⟩, -⟩ := h origin name (List.prefix_append _ _)
      have hfits : ¬maxName < name.utf8ByteSize := Nat.not_lt.mpr hsize
      by_cases hdir : tree.node? (origin ++ [name]) = some .directory
      · exact .down hup hfits hdir (ih h hdir hn)
      · cases rest with
        | nil =>
            rw [List.append_nil] at hn ⊢
            have he := Leads.ends hup hfits hdir
            rwa [hn] at he
        | cons next rest =>
            have hp : origin ++ [name] ++ [next] <+: origin ++ [name] ++ next :: rest :=
              ⟨rest, (List.append_cons _ next rest).symm⟩
            exact absurd (h (origin ++ [name]) next hp).2 hdir

end Housed

/-- Names that can be asked for lead from one directory to the next, and to what stands there. -/
theorem Leads.housed (h : tree.Leads origin names target)
    (hnames : ∀ name ∈ names, name.toList.contains '\x00' = false) (ho : tree.Housed origin)
    (hd : tree.node? origin = some .directory) :
    tree.Housed target.place ∧ tree.node? target.place = target.node? := by
  induction h with
  | here => exact ⟨ho, hd⟩
  | @up origin _ _ _ ih =>
      exact ih (fun name hm => hnames name (List.mem_cons_of_mem _ hm))
        (ho.of_prefix (List.dropLast_prefix origin)) ho.parent_directory
  | down hup hsize hn _ ih =>
      exact ih (fun name hm => hnames name (List.mem_cons_of_mem _ hm))
        (ho.snoc hd ⟨hup, Nat.not_lt.mp hsize, hnames _ List.mem_cons_self⟩) hn
  | @ends origin name hup hsize hn =>
      have hlast := ho.snoc hd ⟨hup, Nat.not_lt.mp hsize, hnames name List.mem_cons_self⟩
      rw [Target.place_at, Target.node?_at]
      exact ⟨hlast, rfl⟩

/-- Names without double dots lead below the directory that they start in. -/
theorem Leads.place_eq (h : tree.Leads origin names target) (hnames : ".." ∉ names) :
    target.place = origin ++ names := by
  induction h with
  | here => exact (List.append_nil _).symm
  | up => exact absurd List.mem_cons_self hnames
  | @down origin name rest target _ _ _ _ ih =>
      rw [ih fun hm => hnames (List.mem_cons_of_mem _ hm), List.append_assoc]
      rfl
  | ends => exact Target.place_at _ _

namespace Sound

theorem start_directory (hs : tree.Sound) (path : FilePath) :
    tree.node? (tree.start path) = some .directory := by
  unfold start
  split
  · exact if_pos rfl
  · exact hs.base

theorem leads_housed {path : FilePath} (hs : tree.Sound) (hn : path.isNameable = true)
    (h : tree.Leads (tree.start path) names target) (hp : names <+: path.parts) :
    tree.Housed target.place ∧ tree.node? target.place = target.node? := by
  have hd := hs.start_directory path
  refine h.housed (fun name hm => ?_) (hs.housed _ _ hd) hd
  have hname := List.all_eq_true.mp hn name (hp.subset hm)
  rwa [Bool.not_eq_true'] at hname

theorem node?_of_locate {path : FilePath} {node : Node} (hs : tree.Sound)
    (h : tree.locate path = .ok (.existing place node)) : tree.node? place = some node := by
  obtain ⟨hn, -, hl⟩ := locate_eq_ok_iff.mp h
  exact (hs.leads_housed hn hl List.prefix_rfl).2

theorem names_below {node : Node} (hs : tree.Sound) (h : tree.node? (origin ++ names) = some node) :
    ∀ name ∈ names, IsName name := by
  intro name hm
  obtain ⟨front, back, rfl⟩ := List.append_of_mem hm
  have hp : origin ++ front ++ [name] <+: origin ++ (front ++ name :: back) :=
    ⟨back, by simp only [List.append_assoc, List.cons_append, List.nil_append]⟩
  exact (hs.housed _ _ h (origin ++ front) name hp).1

end Sound

theorem Wrote.keepsDirectories {path : FilePath} (h : Wrote path content place before after) :
    before.KeepsDirectories after := by
  intro other hd
  refine h.kept other .directory ?_ hd
  rintro rfl
  exact h.noDirectory hd

/-- To write a file leaves a tree sound. -/
theorem Wrote.sound {path : FilePath} (h : Wrote path content place before after)
    (hs : before.Sound) : after.Sound := by
  have hk := h.keepsDirectories
  obtain ⟨hname, -, hleads⟩ := locate_eq_ok_iff.mp h.located
  have hbase : after.node? after.base = some .directory := by
    rw [h.base]
    exact hk _ hs.base
  have hstart : after.start path = before.start path := start_eq h.base
  have hdir : after.node? (after.start path) = some .directory :=
    hstart ▸ hk _ (hs.start_directory path)
  have hhoused : after.Housed (after.start path) :=
    hstart ▸ (hs.housed _ _ (hs.start_directory path)).kept hk
  have hnul : ∀ name ∈ path.parts, name.toList.contains '\x00' = false := by
    intro name hm
    have := List.all_eq_true.mp hname name hm
    rwa [Bool.not_eq_true'] at this
  refine ⟨hbase, fun other node hn => ?_⟩
  by_cases hp : other = place
  · rw [hp]
    exact (hleads.housed hnul hhoused hdir).1
  · cases hb : before.node? other with
    | some found => exact (hs.housed other found hb).kept hk
    | none =>
        obtain ⟨-, front, hfront, hlead⟩ := h.made other node hp hb hn
        have hsub := hfront.trans (List.dropLast_prefix path.parts)
        exact (hlead.housed (fun name hm => hnul name (hsub.subset hm)) hhoused hdir).1

/-! ### Questions -/

theorem status_eq_ok_iff {path : FilePath} {node : Node} :
    tree.status path = .ok node ↔ ∃ place, tree.locate path = .ok (.existing place node) := by
  unfold status
  split
  · rename_i place found hl
    rw [hl, Except.ok.injEq]
    constructor
    · rintro rfl
      exact ⟨place, rfl⟩
    · rintro ⟨_, he⟩
      cases he
      rfl
  · rename_i hl
    rw [hl]
    constructor
    · intro h
      cases h
    · rintro ⟨_, he⟩
      cases he
  · rename_i hl
    rw [hl]
    constructor
    · intro h
      cases h
    · rintro ⟨_, he⟩
      cases he

theorem isDirectory?_iff {path : FilePath} :
    tree.isDirectory? path = .ok true ↔ tree.status path = .ok .directory := by
  unfold isDirectory? holds
  split
  · rename_i node hs
    rw [hs]
    cases node with
    | directory => exact ⟨fun _ => rfl, fun _ => rfl⟩
    | file content =>
        constructor
        · intro h
          cases h
        · intro h
          cases h
  · rename_i kind hs
    rw [hs]
    constructor
    · intro h
      split at h <;> cases h
    · intro h
      cases h

theorem isDirectory?_of_locate {path : FilePath} {place : Place}
    (h : tree.locate path = .ok (.existing place .directory)) : tree.isDirectory? path = .ok true :=
  isDirectory?_iff.mpr (status_eq_ok_iff.mpr ⟨place, h⟩)

/-! ### The files below a directory -/

/-- The names that lead from a directory to the files below it, in no order. -/
def namesBelow (tree : FileTree) (origin : Place) (suffix : String) : List (List String) :=
  (firsts id (tree.entries.keys.filterMap fun found =>
      if origin.isPrefixOf found then some (found.drop origin.length) else none)).filter fun names =>
    (names.getLast?.any fun name => name.endsWith suffix) && tree.reachesFile origin names

theorem filesBelow_eq {path : FilePath} {suffix : String}
    (h : tree.locate path = .ok (.existing origin .directory)) :
    tree.filesBelow path suffix =
      ((tree.namesBelow origin suffix).mergeSort Place.le).map path.below := by
  rw [filesBelow, h]
  rfl

theorem nodup_namesBelow (tree : FileTree) (origin : Place) (suffix : String) :
    (tree.namesBelow origin suffix).Nodup := by
  have h := nodup_map_firsts id (tree.entries.keys.filterMap fun found =>
    if origin.isPrefixOf found then some (found.drop origin.length) else none)
  rw [List.map_id] at h
  exact h.sublist List.filter_sublist

theorem mem_below_iff :
    names ∈ firsts id (tree.entries.keys.filterMap fun found =>
        if origin.isPrefixOf found then some (found.drop origin.length) else none) ↔
      origin ++ names ∈ tree.entries.keys := by
  rw [mem_firsts_id, List.mem_filterMap]
  constructor
  · rintro ⟨found, hf, h⟩
    split at h
    · rename_i hp
      cases h
      rwa [← List.prefix_append_drop (List.isPrefixOf_iff_prefix.mp hp)]
    · cases h
  · intro h
    refine ⟨origin ++ names, h, ?_⟩
    rw [if_pos (List.isPrefixOf_iff_prefix.mpr (List.prefix_append _ _)), List.drop_left]

theorem reachesFile_iff :
    tree.reachesFile origin names = true ↔
      ∃ place content, tree.Leads origin names (.existing place (.file content)) := by
  simp only [reachesFile, ← walk_eq_ok_iff]
  split
  · rename_i place content hw
    exact ⟨fun _ => ⟨place, content, hw⟩, fun _ => rfl⟩
  · rename_i hno
    constructor
    · intro h
      cases h
    · rintro ⟨place, content, h⟩
      exact absurd h (hno place content)

/-- In a sound tree the files below a directory are those whose places are below its place. -/
theorem mem_namesBelow_iff {suffix : String} (hs : tree.Sound)
    (hd : tree.node? origin = some .directory) :
    names ∈ tree.namesBelow origin suffix ↔
      (names.getLast?.any fun name => name.endsWith suffix) = true ∧
        ∃ content, tree.node? (origin ++ names) = some (.file content) := by
  rw [namesBelow, List.mem_filter, mem_below_iff, Bool.and_eq_true, reachesFile_iff]
  constructor
  · rintro ⟨hm, hsuffix, place, content, hl⟩
    have hne : origin ++ names ≠ [] := by
      intro he
      rw [(List.append_eq_nil_iff.mp he).2] at hsuffix
      cases hsuffix
    obtain ⟨node, hnode⟩ : ∃ node, tree.node? (origin ++ names) = some node := by
      rw [node?, if_neg hne]
      cases hf : tree.entries.find? (origin ++ names) with
      | some node => exact ⟨node, rfl⟩
      | none => exact absurd hm (Table.find?_eq_none_iff.mp hf)
    have hw := ((hs.housed _ _ hnode).leads hd hnode).walk_eq
    rw [hl.walk_eq] at hw
    cases hw
    exact ⟨hsuffix, content, hnode⟩
  · rintro ⟨hsuffix, content, hnode⟩
    have hne : origin ++ names ≠ [] := by
      intro he
      rw [he] at hnode
      cases hnode
    refine ⟨?_, hsuffix, _, content, (hs.housed _ _ hnode).leads hd hnode⟩
    rw [node?, if_neg hne] at hnode
    exact Table.mem_keys_of_find? hnode

theorem Sound.isNameable_below {path : FilePath} (hs : tree.Sound)
    (hd : tree.locate path = .ok (.existing origin .directory))
    (hn : tree.node? (origin ++ names) = some (.file content)) :
    (path.below names).isNameable = true := by
  obtain ⟨hpath, -, -⟩ := locate_eq_ok_iff.mp hd
  refine List.all_eq_true.mpr fun name hname => ?_
  rcases List.mem_append.mp hname with hname | hname
  · exact List.all_eq_true.mp hpath name hname
  · rw [(hs.names_below hn name hname).2.2]
    rfl

theorem Sound.isNameable_of_mem {path file : FilePath} {suffix : String} (hs : tree.Sound)
    (hd : tree.locate path = .ok (.existing origin .directory))
    (h : file ∈ tree.filesBelow path suffix) : file.isNameable = true := by
  rw [filesBelow_eq hd, List.mem_map] at h
  obtain ⟨names, hm, rfl⟩ := h
  obtain ⟨-, content, hnode⟩ :=
    (mem_namesBelow_iff hs (hs.node?_of_locate hd)).mp (List.mem_mergeSort.mp hm)
  exact hs.isNameable_below hd hnode

/-- Two sound trees with the same files below a directory list them alike. -/
theorem filesBelow_congr {other : FileTree} {path : FilePath} {suffix : String} (hs : tree.Sound)
    (ho : other.Sound) (hd : tree.locate path = .ok (.existing origin .directory))
    (hd' : other.locate path = .ok (.existing origin .directory))
    (h : ∀ names, (names.getLast?.any fun name => name.endsWith suffix) = true →
      ((∃ content, tree.node? (origin ++ names) = some (.file content)) ↔
        ∃ content, other.node? (origin ++ names) = some (.file content))) :
    tree.filesBelow path suffix = other.filesBelow path suffix := by
  rw [filesBelow_eq hd, filesBelow_eq hd']
  have hperm : (tree.namesBelow origin suffix).Perm (other.namesBelow origin suffix) := by
    refine (List.perm_ext_iff_of_nodup (tree.nodup_namesBelow origin suffix)
      (other.nodup_namesBelow origin suffix)).mpr fun names => ?_
    rw [mem_namesBelow_iff hs (hs.node?_of_locate hd),
      mem_namesBelow_iff ho (ho.node?_of_locate hd')]
    exact and_congr_right fun hsuffix => h names hsuffix
  rw [Place.mergeSort_eq hperm]

end FileTree

end ToolSchema
