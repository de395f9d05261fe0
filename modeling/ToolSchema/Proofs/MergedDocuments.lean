import Mathlib.Data.List.Sort
import ToolSchema.Proofs.AcceptedDocuments
import ToolSchema.Proofs.FileReading
import ToolSchema.Proofs.MergedDescriptors
import ToolSchema.Proofs.RepeatedWriting

/-! A directory as one document. The descriptors of a directory are those of the one document that lists
what its documents list, in the order of their places (`DescriptorSet.LoadTogether`), and loading it
fails at the first document that cannot be read or repeats a name of an earlier one
(`DescriptorSet.Faulty`). Only a document whose bytes interrupt is not told of, and no document is if
something stands in the way of the search for them (`DescriptorSet.Hindrance`). -/

namespace ToolSchema

open Expansion (bind_eq_ok_iff)

/-! ### The documents of a directory -/

theorem Place.lex_iff {a b : Place} : List.Lex (· < ·) a b ↔ Place.le a b = true ∧ a ≠ b := by
  induction a generalizing b with
  | nil =>
      cases b with
      | nil =>
          constructor
          · intro h
            cases h
          · exact fun h => absurd rfl h.2
      | cons b bs => exact ⟨fun _ => ⟨rfl, (List.cons_ne_nil b bs).symm⟩, fun _ => .nil⟩
  | cons a as ih =>
      cases b with
      | nil =>
          constructor
          · intro h
            cases h
          · rintro ⟨h, -⟩
            cases h
      | cons b bs =>
          rw [Place.le_cons]
          constructor
          · intro h
            cases h with
            | rel h => exact ⟨Or.inl h, fun he => String.lt_irrefl a ((List.cons.inj he).1 ▸ h)⟩
            | cons h =>
                obtain ⟨hl, hn⟩ := ih.mp h
                exact ⟨Or.inr ⟨rfl, hl⟩, fun he => hn (List.cons.inj he).2⟩
          · rintro ⟨h | ⟨rfl, h⟩, hn⟩
            · exact .rel h
            · exact .cons (ih.mpr ⟨h, fun he => hn (congrArg (List.cons a) he)⟩)

namespace FileTree

/-- A file of a directory: the names that lead to it and what it holds. -/
structure Document where
  names : List String
  content : ByteArray

/-- The value that a document holds; null if it holds none. -/
def Document.value (machine : Machine) (document : Document) : Json :=
  (Json.ofBytes machine document.content).toOption.getD .null

/-- The documents below a place, in the order of their names part by part. -/
structure Documents (tree : FileTree) (origin : Place) (documents : List Document) : Prop where
  sorted : documents.Pairwise fun d e => List.Lex (· < ·) d.names e.names
  complete : ∀ d, d ∈ documents ↔
    (d.names.getLast?.any fun name => name.endsWith DescriptorSet.documentSuffix) = true ∧
      tree.node? (origin ++ d.names) = some (.file d.content)

variable {machine : Machine} {tree : FileTree} {origin : Place} {path : FilePath}
  {documents : List Document}

/-- What the file at a place holds. -/
def contentAt (tree : FileTree) (place : Place) : ByteArray :=
  match tree.node? place with
  | some (.file content) => content
  | _ => .empty

theorem contentAt_eq {place : Place} {content : ByteArray}
    (h : tree.node? place = some (.file content)) : tree.contentAt place = content := by
  rw [contentAt, h]

def documentsBelow (tree : FileTree) (origin : Place) : List Document :=
  ((tree.namesBelow origin DescriptorSet.documentSuffix).mergeSort Place.le).map fun names =>
    ⟨names, tree.contentAt (origin ++ names)⟩

theorem mem_documentsBelow_iff (hs : tree.Sound) (hd : tree.node? origin = some .directory)
    {d : Document} :
    d ∈ tree.documentsBelow origin ↔
      (d.names.getLast?.any fun name => name.endsWith DescriptorSet.documentSuffix) = true ∧
        tree.node? (origin ++ d.names) = some (.file d.content) := by
  simp only [documentsBelow, List.mem_map, List.mem_mergeSort, mem_namesBelow_iff hs hd]
  constructor
  · rintro ⟨names, ⟨hsuffix, content, hn⟩, rfl⟩
    rw [contentAt_eq hn]
    exact ⟨hsuffix, hn⟩
  · rintro ⟨hsuffix, hn⟩
    refine ⟨d.names, ⟨hsuffix, d.content, hn⟩, ?_⟩
    rw [contentAt_eq hn]

theorem documents_documentsBelow (hs : tree.Sound) (hd : tree.node? origin = some .directory) :
    tree.Documents origin (tree.documentsBelow origin) := by
  refine ⟨?_, fun d => mem_documentsBelow_iff hs hd⟩
  have hnodup : (tree.namesBelow origin DescriptorSet.documentSuffix).Nodup :=
    tree.nodup_namesBelow origin DescriptorSet.documentSuffix
  have hsorted := List.pairwise_mergeSort Place.le_trans Place.le_total
    (tree.namesBelow origin DescriptorSet.documentSuffix)
  rw [documentsBelow, List.pairwise_map]
  exact hsorted.imp₂ (fun _ _ hl hn => Place.lex_iff.mpr ⟨hl, hn⟩)
    ((List.mergeSort_perm _ _).nodup_iff.mpr hnodup)

namespace Documents

/-- The order leaves one list of documents. -/
theorem names_eq (h : tree.Documents origin documents) (hs : tree.Sound)
    (hd : tree.node? origin = some .directory) :
    documents.map Document.names =
      (tree.namesBelow origin DescriptorSet.documentSuffix).mergeSort Place.le := by
  have hsorted : (documents.map Document.names).Pairwise (List.Lex (· < ·)) :=
    List.pairwise_map.mpr h.sorted
  have hnodup : (documents.map Document.names).Nodup := hsorted.imp fun hl => (Place.lex_iff.mp hl).2
  have hperm : (documents.map Document.names).Perm
      (tree.namesBelow origin DescriptorSet.documentSuffix) := by
    refine (List.perm_ext_iff_of_nodup hnodup (tree.nodup_namesBelow _ _)).mpr fun names => ?_
    rw [mem_namesBelow_iff hs hd, List.mem_map]
    constructor
    · rintro ⟨d, hm, rfl⟩
      obtain ⟨hsuffix, hn⟩ := (h.complete d).mp hm
      exact ⟨hsuffix, d.content, hn⟩
    · rintro ⟨hsuffix, content, hn⟩
      exact ⟨⟨names, content⟩, (h.complete _).mpr ⟨hsuffix, hn⟩, rfl⟩
  exact (hperm.trans (List.mergeSort_perm _ _).symm).eq_of_pairwise
    (fun a b _ _ => Place.le_antisymm a b) (hsorted.imp fun hl => (Place.lex_iff.mp hl).1)
    (List.pairwise_mergeSort Place.le_trans Place.le_total _)

theorem eq_documentsBelow (h : tree.Documents origin documents) (hs : tree.Sound)
    (hd : tree.node? origin = some .directory) : documents = tree.documentsBelow origin := by
  rw [documentsBelow, ← h.names_eq hs hd, List.map_map]
  refine (List.map_id documents).symm.trans (List.map_congr_left fun d hm => ?_)
  rw [Function.comp_apply, contentAt_eq ((h.complete d).mp hm).2]
  rfl

theorem filesBelow_eq (h : tree.Documents origin documents) (hs : tree.Sound)
    (hd : tree.locate path = .ok (.existing origin .directory)) :
    tree.filesBelow path DescriptorSet.documentSuffix =
      documents.map fun d => path.below d.names := by
  rw [FileTree.filesBelow_eq hd, ← h.names_eq hs (hs.node?_of_locate hd), List.map_map]
  rfl

end Documents

/-! ### Reading below a directory -/

/-- Below a directory only a path that is too long keeps a file from being read. -/
theorem readJson_below {names : List String} {content : ByteArray} (hs : tree.Sound)
    (hd : tree.locate path = .ok (.existing origin .directory))
    (hn : tree.node? (origin ++ names) = some (.file content)) :
    tree.readJson machine (path.below names) =
      if pathLimit ≤ (path.below names).toString.utf8ByteSize then
        .error (.refused ⟨.nameTooLong, (path.below names).toString⟩)
      else Json.ofBytes machine content := by
  have hnameable := hs.isNameable_below hd hn
  split
  · rename_i hlong
    have hlocate : tree.locate (path.below names) = .error .nameTooLong := by
      rw [locate, hnameable]
      exact if_pos hlong
    refine readJson_of_refused hnameable ?_
    rw [readFile, status, hlocate]
  · rename_i hfits
    obtain ⟨-, -, hleads⟩ := locate_eq_ok_iff.mp hd
    have hbelow := (hs.housed _ _ hn).leads (hs.node?_of_locate hd) hn
    have hwalk : tree.walk (tree.start path) (path.parts ++ names) =
        .ok (.existing (origin ++ names) (.file content)) :=
      (hleads.walk_append names).trans hbelow.walk_eq
    have hlocate : tree.locate (path.below names) =
        .ok (.existing (origin ++ names) (.file content)) :=
      locate_eq_ok_iff.mpr ⟨hnameable, Nat.lt_of_not_le hfits, walk_eq_ok_iff.mp hwalk⟩
    exact readJson_of_readFile hnameable
      (readFile_of_status (status_eq_ok_iff.mpr ⟨_, hlocate⟩))

end FileTree

/-! ### Why a directory does not load -/

def LoadError.origin : LoadError → String
  | .document error => error.origin
  | .unreadable path _ | .invalidJson path _ | .missingDirectory path => path.toString

theorem LoadFailure.ofFile_answered (file : FilePath) (error : JsonFileError) :
    (∃ told, ofFile file error = .error told ∧ told.origin = file.toString) ∨
      ∃ cause, ofFile file error = .interrupted cause ∧ error.interruption? = some cause := by
  cases error with
  | refused refusal => exact Or.inl ⟨_, rfl, rfl⟩
  | invalid complaint => exact Or.inl ⟨_, rfl, rfl⟩
  | undecodable => exact Or.inr ⟨_, rfl, rfl⟩
  | unnameable => exact Or.inr ⟨_, rfl, rfl⟩
  | oversizedInteger digits => exact Or.inr ⟨_, rfl, rfl⟩
  | overdeep kind => exact Or.inr ⟨_, rfl, rfl⟩

namespace DescriptorSet

variable {machine : Machine} {tree : FileTree} {path file : FilePath}
  {before earlier own set : DescriptorSet} {failure : LoadFailure}

/-- Why a document ends the loading after some others: it cannot be read, or it is no descriptor
document, or it repeats a name of theirs. -/
inductive Faulty (machine : Machine) (tree : FileTree) (file : FilePath) (earlier : DescriptorSet) :
    LoadFailure → Prop
  | unread {cause : JsonFileError} (h : tree.readJson machine file = .error cause) :
      Faulty machine tree file earlier (.ofFile file cause)
  | malformed {document : Json} {error : DocumentError} (h : tree.readJson machine file = .ok document)
      (hm : ofJson document file.toString = .error error) :
      Faulty machine tree file earlier (.error (.document error))
  | repeated {document : Json} {own : DescriptorSet} {error : DocumentError}
      (h : tree.readJson machine file = .ok document) (hs : document.SaysSet own)
      (hr : earlier.clash? own file.toString = some error) :
      Faulty machine tree file earlier (.error (.document error))

theorem readFile_eq_ok_iff :
    readFile machine tree file = .ok own ↔
      ∃ document, tree.readJson machine file = .ok document ∧ document.SaysSet own := by
  simp only [readFile, bind_eq_ok_iff, mapError_eq_ok_iff, ofJson_eq_ok_iff]

theorem addFile_eq_error_iff :
    addFile machine tree earlier file = .error failure ↔ Faulty machine tree file earlier failure := by
  simp only [addFile, bind_eq_error_iff, readFile_eq_ok_iff, mapError_eq_error_iff]
  rw [readFile]
  simp only [bind_eq_error_iff, mapError_eq_ok_iff, mapError_eq_error_iff]
  constructor
  · rintro ((⟨cause, h, rfl⟩ | ⟨document, h, error, hm, rfl⟩) |
      ⟨own, ⟨document, h, hs⟩, error, hm, rfl⟩)
    · exact .unread h
    · exact .malformed h hm
    · exact .repeated h hs ((merge_eq_error_iff hs).mp hm)
  · rintro (h | ⟨h, hm⟩ | ⟨h, hs, hr⟩)
    · exact Or.inl (Or.inl ⟨_, h, rfl⟩)
    · exact Or.inl (Or.inr ⟨_, h, _, hm, rfl⟩)
    · exact Or.inr ⟨_, ⟨_, h, hs⟩, _, (merge_eq_error_iff hs).mpr hr, rfl⟩

theorem addFile_eq_ok_iff (he : earlier.Distinct) :
    addFile machine tree earlier file = .ok set ↔
      ∃ own, readFile machine tree file = .ok own ∧ set = earlier ++ own ∧ set.Distinct := by
  simp only [addFile, bind_eq_ok_iff, mapError_eq_ok_iff]
  refine exists_congr fun own => and_congr_right fun h => ?_
  obtain ⟨document, -, hs⟩ := readFile_eq_ok_iff.mp h
  exact merge_eq_ok_iff he hs

/-- Files load one after the other exactly if each does and no name comes twice. -/
theorem foldlM_addFile_eq_ok_iff {files : List FilePath} (hb : before.Distinct) :
    files.foldlM (addFile machine tree) before = .ok set ↔
      ∃ owns, List.Forall₂ (fun file own => readFile machine tree file = .ok own) files owns ∧
        set = before ++ joined owns ∧ set.Distinct := by
  induction files generalizing before with
  | nil =>
      constructor
      · intro h
        cases h
        exact ⟨[], .nil, (append_joined_nil _).symm, hb⟩
      · rintro ⟨_, h, rfl, -⟩
        cases h
        rw [append_joined_nil]
        rfl
  | cons file rest ih =>
      rw [List.foldlM_cons, bind_eq_ok_iff]
      constructor
      · rintro ⟨middle, hm, h⟩
        obtain ⟨own, hr, rfl, hd⟩ := (addFile_eq_ok_iff hb).mp hm
        obtain ⟨owns, ho, rfl, hset⟩ := (ih hd).mp h
        exact ⟨own :: owns, .cons hr ho, (append_joined_cons _ _ _).symm, hset⟩
      · rintro ⟨_, h, rfl, hset⟩
        obtain ⟨own, owns, hr, ho, rfl⟩ := List.forall₂_cons_left_iff.mp h
        have hcons := append_joined_cons before own owns
        have hd : (before ++ own).Distinct := (hcons ▸ hset).of_append
        exact ⟨_, (addFile_eq_ok_iff hb).mpr ⟨own, hr, rfl, hd⟩, (ih hd).mpr ⟨owns, ho, hcons, hset⟩⟩

theorem foldlM_addFile_congr {other : FileTree} {files : List FilePath}
    (h : ∀ file ∈ files, tree.readJson machine file = other.readJson machine file) :
    files.foldlM (addFile machine tree) before = files.foldlM (addFile machine other) before := by
  induction files generalizing before with
  | nil => rfl
  | cons file rest ih =>
      obtain ⟨hfile, hrest⟩ := List.forall_mem_cons.mp h
      have hadd : addFile machine tree before file = addFile machine other before file := by
        rw [addFile, addFile, readFile, readFile, hfile]
      rw [List.foldlM_cons, List.foldlM_cons, hadd]
      exact congrArg _ (funext fun middle => ih hrest)

/-- Documents that load one by one, and together as the one document that lists what they list. -/
structure LoadTogether (machine : Machine) (tree : FileTree) (path : FilePath)
    (documents : List FileTree.Document) (set : DescriptorSet) : Prop where
  alone : ∀ d ∈ documents, ∃ own, (loadFile machine tree (path.below d.names)).result = .ok own
  joined : ∀ label,
    ofJson (Json.concatenation (documents.map (FileTree.Document.value machine))) label = .ok set

theorem loadTogether_iff {documents : List FileTree.Document}
    (hv : ∀ d ∈ documents, ∀ own, readFile machine tree (path.below d.names) = .ok own →
      (d.value machine).SaysSet own) :
    LoadTogether machine tree path documents set ↔
      (documents.map fun d => path.below d.names).foldlM (addFile machine tree) {} = .ok set := by
  have hempty : Distinct {} := ⟨List.nodup_nil, List.nodup_nil⟩
  have hsaid (owns : List DescriptorSet)
      (h : List.Forall₂ (fun d own => readFile machine tree (path.below d.names) = .ok own) documents
        owns) :
      List.Forall₂ Json.SaysSet (documents.map (FileTree.Document.value machine)) owns := by
    rw [List.forall₂_map_left_iff]
    refine ((List.forall₂_and_left documents owns).mpr ⟨hv, h⟩).imp fun d own hboth => ?_
    exact hboth.1 own hboth.2
  rw [foldlM_addFile_eq_ok_iff hempty]
  simp only [List.forall₂_map_left_iff]
  constructor
  · rintro ⟨halone, hjoined⟩
    simp only [loadFile_result] at halone
    obtain ⟨owns, ho⟩ := Json.exists_forall₂_iff.mpr halone
    have hset := ofJson_eq_ok_iff.mp (hjoined "")
    obtain ⟨he, hd⟩ := (Json.says_concatenation_iff (hsaid owns ho)).mp hset
    exact ⟨owns, ho, he, hd⟩
  · rintro ⟨owns, ho, he, hd⟩
    refine ⟨?_, fun label => ?_⟩
    · simp only [loadFile_result]
      exact Json.exists_forall₂_iff.mp ⟨owns, ho⟩
    · exact ofJson_eq_ok_iff.mpr ((Json.says_concatenation_iff (hsaid owns ho)).mpr ⟨he, hd⟩)

section Directory

variable {place : Place}

theorem value_of_readFile {d : FileTree.Document} (hs : tree.Sound)
    (hd : tree.locate path = .ok (.existing place .directory))
    (hn : tree.node? (place ++ d.names) = some (.file d.content))
    (h : readFile machine tree (path.below d.names) = .ok own) : (d.value machine).SaysSet own := by
  obtain ⟨document, hr, hsaid⟩ := readFile_eq_ok_iff.mp h
  rw [FileTree.readJson_below hs hd hn] at hr
  split at hr
  · cases hr
  · rw [FileTree.Document.value, hr]
    exact hsaid

/-- A document that ends the loading is told of, unless its bytes interrupt. -/
theorem Faulty.answered {d : FileTree.Document} (hs : tree.Sound)
    (hd : tree.locate path = .ok (.existing place .directory))
    (hn : tree.node? (place ++ d.names) = some (.file d.content))
    (h : Faulty machine tree (path.below d.names) earlier failure) :
    (∃ error, failure = .error error ∧ error.origin = (path.below d.names).toString) ∨
      ∃ cause, failure = .interrupted cause ∧ Interrupts machine d.content cause := by
  cases h with
  | @unread error h =>
      rcases LoadFailure.ofFile_answered (path.below d.names) error with ht | ⟨cause, hc, hi⟩
      · exact Or.inl ht
      · refine Or.inr ⟨cause, hc, ?_⟩
        rw [FileTree.readJson_below hs hd hn] at h
        split at h
        · cases h
          cases hi
        · exact interrupts_iff.mpr ⟨error, h, hi⟩
  | malformed h hm => exact Or.inl ⟨_, rfl, origin_of_ofJson hm⟩
  | repeated h hsaid hr => exact Or.inl ⟨_, rfl, origin_of_clash? hr⟩

/-- What stands in the way of the search for the documents of a directory. -/
def Hindrance (machine : Machine) (tree : FileTree) (path : FilePath) (place : Place)
    (cause : Interruption) : Prop :=
  tree.Obstacle documentSuffix machine.directories path place cause

theorem unhindered_of_obstacle?
    (h : tree.obstacle? documentSuffix machine.directories path place = none) (cause : Interruption) :
    ¬Hindrance machine tree path place cause :=
  fun hm => FileTree.met_of_obstacle hm h

theorem loadDirectory_hindered (hd : tree.locate path = .ok (.existing place .directory))
    (h : ∃ cause, Hindrance machine tree path place cause) :
    ∃ cause, Hindrance machine tree path place cause ∧
      (loadDirectory machine tree path).result = .error (.interrupted cause) := by
  obtain ⟨cause, hsearch⟩ := (FileTree.search_refused_iff hd).mpr h
  refine ⟨cause, FileTree.obstacle_of_search hd hsearch, ?_⟩
  rw [loadDirectory_result hd, hsearch]
  rfl

theorem loadDirectory_eq {documents : List FileTree.Document} (hs : tree.Sound)
    (hd : tree.locate path = .ok (.existing place .directory))
    (h : tree.Documents place documents) (hc : ∀ cause, ¬Hindrance machine tree path place cause) :
    (loadDirectory machine tree path).result =
      (documents.map fun d => path.below d.names).foldlM (addFile machine tree) {} := by
  have hsearch : ¬∃ cause, tree.search machine path documentSuffix = .error cause := by
    rw [FileTree.search_refused_iff hd]
    exact fun ⟨cause, hm⟩ => hc cause hm
  cases hf : tree.search machine path documentSuffix with
  | error cause => exact absurd ⟨cause, hf⟩ hsearch
  | ok files =>
      rw [loadDirectory_of_search hd hf, FileTree.search_eq_ok hf, h.filesBelow_eq hs hd]
      exact loadEach_result _ _ {} _

/-- Nothing is loaded from a directory if something stands in the way of its search. Else its
descriptors are those of the one document that lists what its documents list, in the order of their
names part by part, if each of them loads by itself, and if not the first one is to blame that cannot be
read, is no descriptor document or repeats a name of an earlier one; the error is about its path, unless
its bytes interrupt. Nothing else in the tree counts, and neither does the order of its entries. -/
theorem directory_loads_as_one_document (machine : Machine) (hs : tree.Sound)
    (hd : tree.locate path = .ok (.existing place .directory)) :
    ∃ documents, tree.Documents place documents ∧
      ((∃ cause, Hindrance machine tree path place cause) →
        ∃ cause, Hindrance machine tree path place cause ∧
          (loadDirectory machine tree path).result = .error (.interrupted cause)) ∧
      ((∀ cause, ¬Hindrance machine tree path place cause) →
        (∀ set, (loadDirectory machine tree path).result = .ok set ↔
          LoadTogether machine tree path documents set) ∧
        (∀ failure, (loadDirectory machine tree path).result = .error failure ↔
          ∃ front d back earlier, documents = front ++ d :: back ∧
            LoadTogether machine tree path front earlier ∧
            Faulty machine tree (path.below d.names) earlier failure) ∧
        ∀ other elsewhere, FileTree.Sound other →
          other.locate path = .ok (.existing elsewhere .directory) →
          other.Documents elsewhere documents →
          (∀ cause, ¬Hindrance machine other path elsewhere cause) →
          (loadDirectory machine other path).result = (loadDirectory machine tree path).result) ∧
      ∀ d ∈ documents, ∀ earlier failure,
        Faulty machine tree (path.below d.names) earlier failure →
        (∃ error, failure = .error error ∧ error.origin = (path.below d.names).toString) ∨
          ∃ cause, failure = .interrupted cause ∧ Interrupts machine d.content cause := by
  have hdocs := FileTree.documents_documentsBelow hs (hs.node?_of_locate hd)
  generalize tree.documentsBelow place = documents at hdocs
  have hnode (d : FileTree.Document) (hm : d ∈ documents) :
      tree.node? (place ++ d.names) = some (.file d.content) := ((hdocs.complete d).mp hm).2
  have hvalue (d : FileTree.Document) (hm : d ∈ documents) (own : DescriptorSet)
      (h : readFile machine tree (path.below d.names) = .ok own) : (d.value machine).SaysSet own :=
    value_of_readFile hs hd (hnode d hm) h
  refine ⟨documents, hdocs, loadDirectory_hindered hd, fun hc => ?_,
    fun d hm earlier failure hf => hf.answered hs hd (hnode d hm)⟩
  have hload := loadDirectory_eq hs hd hdocs hc
  refine ⟨fun set => ?_, fun failure => ?_, fun other elsewhere hso hdo hother hco => ?_⟩
  · rw [hload, loadTogether_iff hvalue]
  · rw [hload, List.foldlM_map, foldlM_eq_error_iff]
    refine exists_congr fun front => exists_congr fun d => exists_congr fun back =>
      exists_congr fun earlier => and_congr_right fun he => ?_
    have hfront : LoadTogether machine tree path front earlier ↔ _ :=
      loadTogether_iff fun d hm => hvalue d (he ▸ List.mem_append_left _ hm)
    rw [hfront, List.foldlM_map, addFile_eq_error_iff]
  · rw [loadDirectory_eq hso hdo hother hco, hload]
    refine foldlM_addFile_congr fun file hfile => ?_
    obtain ⟨d, hm, rfl⟩ := List.mem_map.mp hfile
    rw [FileTree.readJson_below hs hd (hnode d hm),
      FileTree.readJson_below hso hdo ((hother.complete d).mp hm).2]

end Directory

end DescriptorSet

/-! ### Two directories -/

def stopsDocument : Json :=
  .obj [("records", .arr [.obj [("name", .str "Stop")]]),
    ("enums", .arr [.obj [("name", .str "Mode")]])]

def linesDocument : Json :=
  .obj [("records", .arr [.obj [("name", .str "Line")]]), ("enums", .str "")]

/-- A directory where the names decide part by part: `rail` comes before `rail.json`. -/
def cabinet : FileTree where
  base := ["home"]
  entries := [(["home"], .directory), (["home", "in"], .directory),
    (["home", "in", "notes.txt"], .file ⟨#[0xff]⟩), (["home", "in", "rail"], .directory),
    (["home", "in", "rail", "stops.json"], .file stopsDocument.compactText.toUTF8),
    (["home", "in", "rail.json"], .file linesDocument.compactText.toUTF8)]

def inPath : FilePath := ⟨"", ["in"]⟩

theorem cabinet_documents : cabinet.documentsBelow ["home", "in"] =
    [⟨["rail", "stops.json"], stopsDocument.compactText.toUTF8⟩,
      ⟨["rail.json"], linesDocument.compactText.toUTF8⟩] := by
  have hnames : cabinet.namesBelow ["home", "in"] DescriptorSet.documentSuffix =
      [["rail", "stops.json"], ["rail.json"]] := by with_unfolding_all rfl
  rw [FileTree.documentsBelow, hnames, List.mergeSort_of_pairwise (by decide)]
  rfl

/-- A file that is no document does not count, whatever its bytes. -/
theorem cabinet_loads_as_one_document :
    (cabinet.Sound ∧ cabinet.locate inPath = .ok (.existing ["home", "in"] .directory)) ∧
      (DescriptorSet.loadDirectory .usual cabinet inPath).result =
        .ok { records := [⟨"Stop", none, []⟩, ⟨"Line", none, []⟩]
              enums := [("Mode", ⟨"Mode", none, []⟩)] } := by
  have hs : cabinet.Sound := by decide +kernel
  have hd : cabinet.locate inPath = .ok (.existing ["home", "in"] .directory) := rfl
  obtain ⟨documents, hdocs, -, hloads, -⟩ :=
    DescriptorSet.directory_loads_as_one_document .usual hs hd
  obtain ⟨hload, -⟩ := hloads (DescriptorSet.unhindered_of_obstacle? (by with_unfolding_all rfl))
  have he := hdocs.eq_documentsBelow hs (hs.node?_of_locate hd)
  rw [cabinet_documents] at he
  subst he
  have hstops := @Json.ofBytes_compactText .usual stopsDocument rfl (by decide)
  have hlines := @Json.ofBytes_compactText .usual linesDocument rfl (by decide)
  refine ⟨⟨hs, hd⟩, (hload _).mpr ⟨?_, fun label => ?_⟩⟩
  · rw [List.forall_mem_cons, List.forall_mem_singleton]
    exact ⟨⟨_, DescriptorSet.loadFile_of_ofJson rfl hstops rfl⟩,
      ⟨_, DescriptorSet.loadFile_of_ofJson rfl hlines rfl⟩⟩
  · rw [List.map_cons, List.map_singleton, FileTree.Document.value, FileTree.Document.value, hstops,
      hlines]
    rfl

/-! ### A number of too many digits -/

/-- Ones, one more than `more`. -/
def ones (more : Nat) : String := String.ofList ('1' :: List.replicate more '1')

theorem Json.Token.first?_ones (more : Nat) (h : Decimal.maxDigits ≤ more) :
    first? ('1' :: List.replicate more '1') = some (.oversized (more + 1), []) := by
  have hwhole : scanWhole ('1' :: List.replicate more '1') =
      some ('1' :: List.replicate more '1', []) := by
    rw [scanWhole, if_neg (by decide), if_pos (by decide), List.takeWhile_replicate,
      List.dropWhile_replicate]
    rfl
  change scanUnsigned false ('1' :: List.replicate more '1') = _
  rw [scanUnsigned, hwhole]
  dsimp only [scanFraction, scanExponent]
  rw [List.length_cons, List.length_replicate]
  exact if_pos (Nat.lt_succ_of_le h)

theorem Json.ofBytes_ones {more : Nat} (h : Decimal.maxDigits ≤ more) :
    Json.ofBytes .usual (ones more).toUTF8 = .error (.oversizedInteger (more + 1)) := by
  have hread : Json.readWithin Machine.usual.nesting (ones more) = .error (.oversized (more + 1)) := by
    rw [readWithin, ones, String.toList_ofList,
      Token.scan_of_first? (by decide) (Token.first?_ones more h)]
    rfl
  rw [Json.ofBytes, fromUTF8?_toUTF8]
  dsimp only
  rw [hread]

def ledger : FileTree where
  base := ["home"]
  entries := [(["home"], .directory), (["home", "in"], .directory),
    (["home", "in", "a.json"], .file (ones 4300).toUTF8)]

/-- The only document of the directory is a text, and nobody answers for the number in it. -/
theorem ledger_unanswered :
    ledger.Sound ∧ ledger.Documents ["home", "in"] [⟨["a.json"], (ones 4300).toUTF8⟩] ∧
      String.fromUTF8? (ones 4300).toUTF8 = some (ones 4300) ∧
      (DescriptorSet.loadDirectory .usual ledger inPath).result =
        .error (.interrupted (.oversizedInteger 4301)) := by
  have hs : ledger.Sound := by decide +kernel
  have hd : ledger.locate inPath = .ok (.existing ["home", "in"] .directory) := rfl
  have hnames : ledger.namesBelow ["home", "in"] DescriptorSet.documentSuffix = [["a.json"]] := by
    with_unfolding_all rfl
  have hdocs := FileTree.documents_documentsBelow hs (hs.node?_of_locate hd)
  rw [FileTree.documentsBelow, hnames, List.mergeSort_singleton] at hdocs
  refine ⟨hs, hdocs, fromUTF8?_toUTF8 _, ?_⟩
  have hread : ledger.readJson .usual (inPath.below ["a.json"]) = .error (.oversizedInteger 4301) :=
    (FileTree.readJson_of_readFile rfl rfl).trans (Json.ofBytes_ones (Nat.le_refl 4300))
  rw [DescriptorSet.loadDirectory_eq hs hd hdocs
    (DescriptorSet.unhindered_of_obstacle? (by with_unfolding_all rfl))]
  exact foldlM_eq_error_iff.mpr ⟨[], _, [], {}, rfl, rfl,
    DescriptorSet.addFile_eq_error_iff.mpr (.unread hread)⟩

end ToolSchema
