import ToolSchema.Proofs.RepeatedReading
import ToolSchema.Proofs.ReportedOutput

/-! Running once more. A run that is done has prepared a document and written it
(`completes_of_exitCode`). As long as it has written none of the files that it reads, it prepares the same
document again (`Options.Completes.again`), and to write that once more changes nothing. Otherwise the
second run may fail or write something else. -/

namespace ToolSchema.Command

open Expansion (bind_eq_ok_iff)
open FileTree (Wrote)
open Step (Yields Gives bind_gives printEach_gives)
open Console (Showable IsVerbatim)

/-! ### The same request -/

section Requests

variable {before after : FileTree} {output : FilePath} {content : ByteArray} {place : Place}
  {line : Line} {parameter : Parameter} {options : Options}

theorem usable_input_again {text : String} (hp : parameter = .inputFile ∨ parameter = .inputDirectory)
    (h : Wrote output content place before after) (hu : usable before parameter text = true) :
    usable after parameter text = true := by
  have hshown : ∃ node, before.Shows text node := by
    cases hs : before.statusOfText text with
    | ok node => exact ⟨node, FileTree.statusOfText_eq_ok_iff.mp hs⟩
    | error kind =>
        rcases hp with rfl | rfl
        all_goals
          rw [usable, hs] at hu
          cases hu
  obtain ⟨node, hshows⟩ := hshown
  obtain ⟨now, hnow, hsame⟩ := h.shows_kept hshows
  have hbefore := FileTree.statusOfText_eq_ok_iff.mpr hshows
  have hafter := FileTree.statusOfText_eq_ok_iff.mpr hnow
  rcases hp with rfl | rfl
  · rw [usable, hbefore] at hu
    rw [usable, hafter]
    cases now with
    | file bytes => rfl
    | directory =>
        rw [hsame.mp rfl] at hu
        cases hu
  · rw [usable, hbefore] at hu
    rw [usable, hafter]
    cases node with
    | file bytes => cases hu
    | directory => rw [hsame.mpr rfl]

theorem usable_output_again {text : String}
    (h : Wrote (.ofString text) content place before after) :
    usable after .outputFile text = true := by
  rw [usable]
  split
  · rename_i hs
    exact absurd (FileTree.statusOfText_eq_ok_iff.mp hs) h.shows_no_directory
  · rfl

theorem Line.check_again (hc : line.check before parameter = .ok ())
    (hu : ∀ text, line.last? parameter = some text → usable before parameter text = true →
      usable after parameter text = true) : line.check after parameter = .ok () := by
  cases hl : line.last? parameter with
  | none =>
      unfold Line.check
      rw [hl]
  | some text =>
      cases hp : parameter.isPath with
      | false =>
          unfold Line.check at hc ⊢
          rw [hl] at hc ⊢
          cases parameter with
          | typeName | format => exact hc
          | inputFile | inputDirectory | outputFile | logFile => cases hp
      | true =>
          obtain ⟨hname, hbefore⟩ := (Line.check_path_iff hp hl).mp hc
          exact (Line.check_path_iff hp hl).mpr ⟨hname, hu text hl hbefore⟩

/-- A command line asks for the same options after the output has been written. -/
theorem Line.options_again (h : Wrote options.output content place before after)
    (ho : line.options before = .ok options) (hlog : options.log = none) :
    line.options after = .ok options := by
  obtain ⟨⟨output, houtput, hpath⟩, hgiven⟩ := Line.options_given ho
  obtain ⟨_, hchecks, ho⟩ := bind_eq_ok_iff.mp ho
  refine bind_eq_ok_iff.mpr ⟨(), forM_eq_ok_iff.mpr fun parameter hm => ?_, ho⟩
  refine Line.check_again (forM_eq_ok_iff.mp hchecks parameter hm) fun text hl hu => ?_
  cases parameter with
  | typeName => rfl
  | format => rfl
  | inputFile => exact usable_input_again (Or.inl rfl) h hu
  | inputDirectory => exact usable_input_again (Or.inr rfl) h hu
  | outputFile =>
      cases houtput.symm.trans hl
      exact usable_output_again (hpath ▸ h)
  | logFile =>
      have hempty : text = "" := by
        by_contra hne
        rw [hlog, Line.log?, hl, Option.filter_some, decide_eq_true hne] at hgiven
        cases hgiven
      rw [hempty]
      rfl

theorem Request.ofArguments_again {arguments : List String}
    (h : Wrote options.output content place before after)
    (hr : Request.ofArguments before arguments = .ok (.run options)) (hlog : options.log = none) :
    Request.ofArguments after arguments = .ok (.run options) := by
  obtain ⟨line, hline, hquestion, hfound⟩ := Request.ofArguments_run_iff.mp hr
  exact Request.ofArguments_run_iff.mpr
    ⟨line, hline, hquestion, Line.options_again h hfound hlog⟩

end Requests

/-! ### A run that comes to its end -/

/-- What is prepared, written and shown by a run that is done. -/
structure Options.Completes (options : Options) (surroundings : Surroundings) (prepared : Prepared)
    (after : FileTree) : Prop where
  prepares : options.Prepares surroundings prepared
  whole : Text.holdsHalf prepared.text.toList = false
  announced : ∀ line ∈ options.announcement prepared, Showable surroundings.machine.columns line
  writes : surroundings.tree.writeText options.output prepared.text = (after, .ok ())
  reported : ∃ lines,
    options.Estimated surroundings.machine surroundings.tokenizer
      ⟨prepared.settings, prepared.entries⟩ lines ∧
    options.report surroundings.machine surroundings.tokenizer ⟨prepared.settings, prepared.entries⟩ =
      (summary prepared.entries.length options.output ++ lines).forM
        (Step.print surroundings.machine) ∧
    ∀ line ∈ summary prepared.entries.length options.output ++ lines,
      Showable surroundings.machine.columns line

/-- A run without a log file that does not fail has completed. -/
theorem run_completes {options : Options} (surroundings : Surroundings) (hlog : options.log = none) :
    Yields surroundings.tree (fun ending _ => ending.exitCode ≠ 0)
      (fun _ after => ∃ prepared, options.Completes surroundings prepared after)
      (options.run surroundings) := by
  have hstop : ∀ ending : Ending, ending.exitCode ≠ 0 → ending.exitCode ≠ 0 := fun _ => id
  rw [Options.run_eq]
  apply Step.bind_yields (deliver_yields (fun prepared after =>
      Text.holdsHalf prepared.text.toList = false ∧
        surroundings.tree.writeText options.output prepared.text = (after, .ok ())) hlog hstop
    fun _ _ _ _ _ _ => writeOutput_goes)
  rintro product after ⟨prepared, hp, hannounced, rfl, hh, hw⟩
  obtain ⟨lines, hlines, hreport⟩ := options.report_eq surroundings.machine surroundings.tokenizer
    ⟨prepared.settings, prepared.entries⟩
  exact (Options.report_keeps hreport).yields hstop fun _ hsaid =>
    ⟨prepared, hp, hh, hannounced, hw, lines, hlines, hreport, hsaid⟩

theorem completes_of_exitCode {surroundings : Surroundings} {arguments : List String}
    {options : Options}
    (h : Request.ofArguments surroundings.tree arguments = .ok (.run options))
    (hlog : options.log = none) (hcode : (run surroundings arguments).ending.exitCode = 0) :
    ∃ prepared, options.Completes surroundings prepared (run surroundings arguments).tree := by
  have hy := run_completes surroundings hlog ⟨"", surroundings.tree⟩ rfl
  unfold run at hcode ⊢
  rw [h] at hcode ⊢
  dsimp only at hcode ⊢
  rcases hr : options.run surroundings ⟨"", surroundings.tree⟩ with ⟨result, after⟩
  rw [hr] at hy hcode
  cases result with
  | error ending => exact absurd hcode hy
  | ok value => exact hy

/-! ### The same run -/

/-- The output is no file that the run reads, neither a document of the input nor the settings file; if
there was no settings file then the directories made for the output lead to none, and they do not keep
the directory of the input from being searched. -/
structure Options.Apart (options : Options) (surroundings : Surroundings) (after : FileTree) :
    Prop where
  input : ∀ place, after.place? options.output = some place → ¬options.input.Reads after place
  found : options.input.Found surroundings.machine after
  settings : after.place? (Settings.path surroundings.settingsFile) ≠ after.place? options.output
  absent : surroundings.tree.exists? (Settings.path surroundings.settingsFile) = .ok false →
    after.exists? (Settings.path surroundings.settingsFile) = .ok false ∨
      after.status (Settings.path surroundings.settingsFile) = .ok .directory

section Again

variable {options : Options} {surroundings : Surroundings} {prepared : Prepared} {after : FileTree}
  {tokenizer : Tokenizer} {time : String}

/-- What a run has prepared it prepares again from the tree that it leaves. -/
theorem Options.Completes.prepares_again (h : options.Completes surroundings prepared after)
    (hs : surroundings.tree.Sound) (ha : options.Apart surroundings after) :
    options.Prepares { surroundings with tree := after, tokenizer, time } prepared := by
  obtain ⟨place, hw⟩ := FileTree.wrote_of_write h.writes
  have hplace : after.place? options.output = some place := FileTree.place?_of_locate hw.located
  have hsettings : after.place? (Settings.path surroundings.settingsFile) ≠ some place :=
    hplace ▸ ha.settings
  have hp := h.prepares
  refine ⟨?_, hp.choice, ?_, hp.components, hp.entries, hp.text⟩
  · exact Settings.load_again hw hp.settings hsettings ha.absent
  · exact loadInput_again hw hs hp.descriptors (ha.input place hplace) ha.found

/-- To deliver it again changes nothing. -/
theorem Options.Completes.delivers_again (h : options.Completes surroundings prepared after)
    (hlog : options.log = none) (hs : surroundings.tree.Sound) (ha : options.Apart surroundings after) :
    Gives after after ⟨prepared.settings, prepared.entries⟩
      (options.deliver { surroundings with tree := after, tokenizer, time }) :=
  deliver_gives hlog (h.prepares_again hs ha) h.whole (FileTree.write_again h.writes) h.announced

/-- The report is the same one, unless another tokenizer is asked for an estimate. -/
theorem Options.Completes.reports_again (h : options.Completes surroundings prepared after)
    (ht : options.estimate = true → tokenizer = surroundings.tokenizer) :
    Gives after after () (options.report surroundings.machine tokenizer
      ⟨prepared.settings, prepared.entries⟩) := by
  obtain ⟨lines, hlines, hreport, hsaid⟩ := h.reported
  cases he : options.estimate with
  | true =>
      rw [ht he, hreport]
      exact printEach_gives hsaid after
  | false =>
      rw [hlines.unasked he, List.append_nil] at hsaid
      rw [Options.report_of_no_estimate he]
      exact printEach_gives hsaid after

/-- Whatever is reported, a run leaves the tree that it has when its output is delivered. -/
theorem run_tree_of_delivered {arguments : List String} {product : Product}
    (h : Request.ofArguments surroundings.tree arguments = .ok (.run options))
    (hg : Gives surroundings.tree after product (options.deliver surroundings)) :
    (run surroundings arguments).tree = after := by
  obtain ⟨shown, hd⟩ := hg ""
  obtain ⟨lines, -, hreport⟩ := options.report_eq surroundings.machine surroundings.tokenizer product
  have hkept := Options.report_keeps hreport ⟨shown, after⟩ rfl
  obtain ⟨herror, hok⟩ := run_of_delivered h hd
  rcases hr : options.report surroundings.machine surroundings.tokenizer product ⟨shown, after⟩ with
    ⟨result, last⟩
  rw [hr] at hkept
  cases result with
  | error ending =>
      rw [herror ending last hr]
      exact hkept.2
  | ok value =>
      rw [hok last hr]
      exact hkept.1

end Again

/-- A question about the program asks nothing of the files. -/
theorem Request.ofArguments_of_question {tree other : FileTree} {arguments : List String}
    {request : Request} (h : Request.ofArguments tree arguments = .ok request)
    (hq : ∀ options, request ≠ .run options) :
    Request.ofArguments other arguments = .ok request := by
  obtain ⟨line, hline, h⟩ := bind_eq_ok_iff.mp h
  refine bind_eq_ok_iff.mpr ⟨line, hline, ?_⟩
  split at h
  · exact h
  · obtain ⟨options, -, h⟩ := bind_eq_ok_iff.mp h
    cases h
    exact absurd rfl (hq options)

/-- A run that is done changes nothing when it is repeated, and it is done again if the tokenizer has not
changed in case it is asked for an estimate, as long as there is no log file, the output is none of the
files that the run reads, and the directories made for it do not stand in the way. -/
theorem rerun_changes_nothing {surroundings : Surroundings} {arguments : List String}
    (hs : surroundings.tree.Sound) (hcode : (run surroundings arguments).ending.exitCode = 0)
    (hapart : ∀ options, Request.ofArguments surroundings.tree arguments = .ok (.run options) →
      options.log = none ∧ options.Apart surroundings (run surroundings arguments).tree)
    (tokenizer : Tokenizer) (time : String) :
    let again : Surroundings :=
      { surroundings with tree := (run surroundings arguments).tree, tokenizer, time }
    ((∀ options, Request.ofArguments surroundings.tree arguments = .ok (.run options) →
        options.estimate = true → tokenizer = surroundings.tokenizer) →
      (run again arguments).ending.exitCode = 0) ∧
    (run again arguments).tree = again.tree := by
  intro again
  cases hr : Request.ofArguments surroundings.tree arguments with
  | error e => exact absurd hcode (run_of_lineError hr).1
  | ok request =>
      cases request with
      | version =>
          have ha : Request.ofArguments again.tree arguments = .ok .version :=
            Request.ofArguments_of_question hr fun _ hq => by cases hq
          rw [run, ha]
          exact ⟨fun _ => rfl, rfl⟩
      | help =>
          have ha : Request.ofArguments again.tree arguments = .ok .help :=
            Request.ofArguments_of_question hr fun _ hq => by cases hq
          rw [run, ha]
          exact ⟨fun _ => rfl, rfl⟩
      | run options =>
          obtain ⟨hlog, hap⟩ := hapart options hr
          obtain ⟨prepared, hc⟩ := completes_of_exitCode hr hlog hcode
          obtain ⟨place, hw⟩ := FileTree.wrote_of_write hc.writes
          have ha : Request.ofArguments again.tree arguments = .ok (.run options) :=
            Request.ofArguments_again hw hr hlog
          have hdelivers : Gives again.tree again.tree ⟨prepared.settings, prepared.entries⟩
              (options.deliver again) := hc.delivers_again hlog hs hap
          refine ⟨fun ht => ?_, run_tree_of_delivered ha hdelivers⟩
          have hagain : Gives again.tree again.tree () (options.run again) := by
            rw [Options.run_eq]
            exact bind_gives hdelivers (hc.reports_again (ht options rfl))
          exact (run_done ha hagain).1

/-- The desk, where the first run has made the directory of the output. -/
theorem desk_rerun :
    let first := run desk (deskArguments "Place")
    let again : Surroundings := { desk with tree := first.tree, time := "12:01" }
    desk.tree.Sound ∧ first.ending.exitCode = 0 ∧
      (deskOptions "Place").Apart desk first.tree ∧
      (run again (deskArguments "Place")).ending.exitCode = 0 ∧
      (run again (deskArguments "Place")).tree = again.tree := by
  have hsound : desk.tree.Sound := by decide +kernel
  have hdone := run_done (desk_request (Or.inl rfl)) desk_writes
  have houtput : (run desk (deskArguments "Place")).tree.place? (deskOptions "Place").output =
      some ["home", "out", "o.json"] := by
    rw [hdone.2]
    with_unfolding_all rfl
  have hinput : (run desk (deskArguments "Place")).tree.place? ⟨"", ["in.json"]⟩ =
      some ["home", "in.json"] := by
    rw [hdone.2]
    with_unfolding_all rfl
  have hsettings : (run desk (deskArguments "Place")).tree.place? (Settings.path none) =
      some ["home", "schema_forge.json"] := by
    rw [hdone.2]
    with_unfolding_all rfl
  have hthere : desk.tree.exists? (Settings.path none) = .ok true := by with_unfolding_all rfl
  have hapart : (deskOptions "Place").Apart desk (run desk (deskArguments "Place")).tree := by
    refine ⟨fun place hp hr => ?_, .file, ?_, fun habsent => ?_⟩
    · cases hr with
      | file h =>
          rw [houtput] at hp
          rw [hinput] at h
          exact absurd (hp.trans h.symm) (by decide)
    · rw [houtput]
      exact ne_of_eq_of_ne hsettings (by decide)
    · cases hthere.symm.trans habsent
  have hagain := rerun_changes_nothing hsound hdone.1 (fun options ho => ?_) desk.tokenizer "12:01"
  · exact ⟨hsound, hdone.1, hapart, hagain.1 fun _ _ _ => rfl, hagain.2⟩
  · rw [desk_request (Or.inl rfl)] at ho
    cases ho
    exact ⟨rfl, hapart⟩

/-! ### Where the second run differs -/

/-- What else might be asked of an output: that it is neither the input file nor the settings file. -/
structure Options.Elsewhere (options : Options) (surroundings : Surroundings) (after : FileTree) :
    Prop where
  input : ∀ path, options.input = .file path → after.place? path ≠ after.place? options.output
  settings : after.place? (Settings.path surroundings.settingsFile) ≠ after.place? options.output

def shelfDocument : Json := .obj [("records", .arr [.obj [("name", .str "Place")]])]

def shelfSettings : Json := .obj [("sort_keys", .bool false)]

/-- A shelf with a directory of one document, and settings behind a directory that is not there. -/
def shelf : Surroundings where
  machine := .usual
  tree := ⟨["home"],
    [(["home"], .directory), (["home", "in"], .directory),
      (["home", "in", "a.json"], .file shelfDocument.compactText.toUTF8),
      (["home", "cfg.json"], .file (shelfSettings.compactText ++ "\n").toUTF8)]⟩
  settingsFile := some "out/../cfg.json"
  tokenizer := ⟨fun _ => .ok none, fun _ => .error "No encoder"⟩
  time := "12:00"

def shelfWith (tree : FileTree) : Surroundings := { shelf with tree }

def shelfOptions (input : Input) (output : FilePath) : Options where
  input := input
  names := ["Place"]
  output := output
  format := none
  pretty := false
  estimate := false
  verbose := false
  log := none

def shelfSet : DescriptorSet where
  records := [{ name := "Place" }]

def shelfEntry : Json :=
  .obj [("type", .str "function"), ("function", .obj [("name", .str "Place"),
    ("parameters", .obj [("type", .str "object"), ("properties", .obj []), ("required", .arr [])])])]

/-- The entry in the order of its names. -/
def shelfSorted : Json :=
  .obj [("function", .obj [("name", .str "Place"), ("parameters", .obj [("properties", .obj []),
    ("required", .arr []), ("type", .str "object")])]), ("type", .str "function")]

theorem shelfEntry_sorted : (Json.arr [shelfEntry]).sorted = .arr [shelfSorted] := by
  simp [shelfEntry, shelfSorted, Json.sorted, Json.sortedItems, Json.sortedMembers, List.mergeSort,
    List.MergeSort.Internal.splitInTwo]

def shelfText (entry : Json) : String := (Json.arr [entry]).compactText ++ "\n"

theorem ofBytes_shelfText {entry : Json} (h : entry.isTextual = true)
    (hroom : (Json.arr [entry]).depth ≤ Machine.usual.nesting) :
    Json.ofBytes .usual (shelfText entry).toUTF8 = .ok (.arr [entry]) := by
  have hv : (Json.arr [entry]).Textual :=
    .arr (List.forall_mem_singleton.mpr (Json.textual_of_isTextual h))
  exact Json.ofBytes_toUTF8
    (Json.readWithin_of_spells hv (Json.spells_line Json.Layout.compact_blank hv) hroom)

theorem shelf_reads {machine : Machine} {tree : FileTree}
    (h : tree.status ⟨"", ["in", "a.json"]⟩ = .ok (.file shelfDocument.compactText.toUTF8)) :
    DescriptorSet.readFile machine tree ⟨"", ["in", "a.json"]⟩ = .ok shelfSet := by
  have hroom : shelfDocument.depth ≤ machine.nesting :=
    Nat.le_trans (by decide) machine.readsDocuments
  rw [DescriptorSet.readFile_of_value h (Json.ofBytes_compactText rfl hroom)]
  with_unfolding_all rfl

theorem shelf_merges : ({} : DescriptorSet).merge shelfSet "in/a.json" = .ok shelfSet := by
  with_unfolding_all rfl

/-- A run for the record of the shelf writes its document under the settings that it finds. -/
theorem shelf_run {surroundings : Surroundings} {input : Input} {output : FilePath}
    {arguments : List String} {settings : Settings} {text : String}
    (hr : Request.ofArguments surroundings.tree arguments = .ok (.run (shelfOptions input output)))
    (hs : (Settings.load surroundings.machine surroundings.tree
      (Settings.path surroundings.settingsFile)).result = .ok settings)
    (hc : settings.choose .null false = .ok ⟨"openai", false⟩)
    (hd : (loadInput surroundings.machine surroundings.tree input).result = .ok shelfSet)
    (ht : (settings.encoding false).encode surroundings.machine.memory (.arr [shelfEntry]) = .ok text)
    (hh : Text.holdsHalf text.toList = false) (hw : (surroundings.tree.writeText output text).2 = .ok ())
    (hverbatim : IsVerbatim (toString output).toList) :
    (run surroundings arguments).ending.exitCode = 0 ∧
      (run surroundings arguments).tree = (surroundings.tree.writeText output text).1 := by
  have hp : (shelfOptions input output).Prepares surroundings
      ⟨settings, ⟨"openai", false⟩, shelfSet, [("Place", {})], [shelfEntry], text⟩ :=
    ⟨hs, hc, hd, rfl, rfl, ht⟩
  have ha : ∀ line ∈ (shelfOptions input output).announcement
      ⟨settings, ⟨"openai", false⟩, shelfSet, [("Place", {})], [shelfEntry], text⟩,
      Showable surroundings.machine.columns line := by
    have hheadline : Showable surroundings.machine.columns (headline 1 "openai") :=
      showable_headline 1 (by decide) (by decide)
    exact List.forall_mem_singleton.mpr hheadline
  exact run_done hr (run_gives rfl hp hh (Prod.ext rfl hw) ha (Options.report_of_no_estimate rfl)
    (showable_summary _ hverbatim))

theorem shelf_settings (machine : Machine) :
    (Settings.load machine shelf.tree (Settings.path shelf.settingsFile)).result =
      .ok Settings.defaults :=
  Settings.load_of_absent (by with_unfolding_all rfl)

theorem shelf_encoded :
    (Settings.defaults.encoding false).encode Machine.usual.memory (.arr [shelfEntry]) =
      .ok (shelfText shelfSorted) := by
  have hencode : (Settings.defaults.encoding false).encode Machine.usual.memory (.arr [shelfEntry]) =
      .ok ((Json.arr [shelfEntry]).sorted.compactText ++ "\n") := rfl
  rw [hencode, shelfEntry_sorted, shelfText]

theorem shelf_directory :
    shelf.tree.locate ⟨"", ["in"]⟩ = .ok (.existing ["home", "in"] .directory) := rfl

/-- Whatever is written, the directory stays where it is. -/
theorem shelf_directory_kept {output : FilePath} {text : String}
    (h : (shelf.tree.writeText output text).2 = .ok ()) :
    (shelf.tree.writeText output text).1.locate ⟨"", ["in"]⟩ =
      .ok (.existing ["home", "in"] .directory) := by
  obtain ⟨place, hw⟩ := FileTree.wrote_of_write (Prod.ext rfl h)
  exact hw.directory_kept shelf_directory

theorem shelf_names : shelf.tree.namesBelow ["home", "in"] DescriptorSet.documentSuffix =
    [["a.json"]] := by
  with_unfolding_all rfl

theorem shelf_descriptors {machine : Machine}
    (hc : shelf.tree.obstacle? DescriptorSet.documentSuffix machine.directories ⟨"", ["in"]⟩
      ["home", "in"] = none) :
    (loadInput machine shelf.tree (.directory ⟨"", ["in"]⟩)).result = .ok shelfSet := by
  have hsearch := FileTree.search_of_clear shelf_directory hc
  have hread : DescriptorSet.readFile machine shelf.tree (FilePath.below ⟨"", ["in"]⟩ ["a.json"]) =
      .ok shelfSet := shelf_reads rfl
  rw [loadInput, DescriptorSet.loadDirectory_of_search shelf_directory hsearch,
    FileTree.filesBelow_eq shelf_directory, shelf_names, List.mergeSort_singleton,
    List.map_singleton, DescriptorSet.loadEach_of_ok hread shelf_merges]
  rfl

/-! With the output in the directory of the input, the second run meets it as a document. -/

def insideArguments : List String := ["-d", "in", "-t", "Place", "-o", "in/o.json"]

def insideOptions : Options := shelfOptions (.directory ⟨"", ["in"]⟩) ⟨"", ["in", "o.json"]⟩

def insideTree : FileTree :=
  (shelf.tree.writeText ⟨"", ["in", "o.json"]⟩ (shelfText shelfSorted)).1

theorem inside_written : (shelf.tree.writeText ⟨"", ["in", "o.json"]⟩ (shelfText shelfSorted)).2 =
    .ok () := by
  with_unfolding_all rfl

theorem inside_request {tree : FileTree} (h : tree = shelf.tree ∨ tree = insideTree) :
    Request.ofArguments tree insideArguments = .ok (.run insideOptions) := by
  rcases h with rfl | rfl <;> with_unfolding_all rfl

theorem inside_unreadable : (loadInput .usual insideTree (.directory ⟨"", ["in"]⟩)).result =
    .error (.error (.document (.notAnObject "in/o.json"))) := by
  have hlocated : insideTree.locate ⟨"", ["in"]⟩ = .ok (.existing ["home", "in"] .directory) :=
    shelf_directory_kept inside_written
  have hnames : insideTree.namesBelow ["home", "in"] DescriptorSet.documentSuffix =
      [["a.json"], ["o.json"]] := by with_unfolding_all rfl
  have hread : DescriptorSet.readFile .usual insideTree (FilePath.below ⟨"", ["in"]⟩ ["a.json"]) =
      .ok shelfSet := shelf_reads (by with_unfolding_all rfl)
  have hstatus : insideTree.status (FilePath.below ⟨"", ["in"]⟩ ["o.json"]) =
      .ok (.file (shelfText shelfSorted).toUTF8) := by with_unfolding_all rfl
  have hlast : DescriptorSet.readFile .usual insideTree (FilePath.below ⟨"", ["in"]⟩ ["o.json"]) =
      .error (.error (.document (.notAnObject "in/o.json"))) := by
    rw [DescriptorSet.readFile_of_value hstatus (ofBytes_shelfText rfl (by decide))]
    with_unfolding_all rfl
  have hclear : insideTree.obstacle? DescriptorSet.documentSuffix Machine.usual.directories
      ⟨"", ["in"]⟩ ["home", "in"] = none := by with_unfolding_all rfl
  have hsearch := FileTree.search_of_clear hlocated hclear
  rw [loadInput, DescriptorSet.loadDirectory_of_search hlocated hsearch,
    FileTree.filesBelow_eq hlocated, hnames, List.mergeSort_of_pairwise (by decide), List.map_cons,
    List.map_singleton, DescriptorSet.loadEach_of_ok hread shelf_merges]
  exact DescriptorSet.loadEach_of_error hlast

theorem inside_first : (run shelf insideArguments).ending.exitCode = 0 ∧
    (run shelf insideArguments).tree = insideTree :=
  shelf_run (inside_request (Or.inl rfl)) (shelf_settings _) rfl
    (shelf_descriptors (by with_unfolding_all rfl)) shelf_encoded (by decide +kernel) inside_written
    (by decide +kernel)

theorem inside_second : (run (shelfWith insideTree) insideArguments).ending.exitCode ≠ 0 := by
  have hr : Request.ofArguments (shelfWith insideTree).tree insideArguments =
      .ok (.run insideOptions) := inside_request (Or.inr rfl)
  have hfails : insideOptions.Fails (shelfWith insideTree) := .descriptors inside_unreadable
  exact ((run_leaves hr rfl).of_fails hfails).1

/-! With the output in the directory before the settings, the second run finds them. -/

def besideArguments : List String := ["-i", "in/a.json", "-t", "Place", "-o", "out/o.json"]

def besideOptions : Options :=
  shelfOptions (.file ⟨"", ["in", "a.json"]⟩) ⟨"", ["out", "o.json"]⟩

def besideTree : FileTree :=
  (shelf.tree.writeText ⟨"", ["out", "o.json"]⟩ (shelfText shelfSorted)).1

theorem beside_request {tree : FileTree} (h : tree = shelf.tree ∨ tree = besideTree) :
    Request.ofArguments tree besideArguments = .ok (.run besideOptions) := by
  rcases h with rfl | rfl <;> with_unfolding_all rfl

theorem beside_descriptors {tree : FileTree}
    (h : tree.status ⟨"", ["in", "a.json"]⟩ = .ok (.file shelfDocument.compactText.toUTF8)) :
    (loadInput .usual tree (.file ⟨"", ["in", "a.json"]⟩)).result = .ok shelfSet := by
  rw [loadInput, DescriptorSet.loadFile_result, shelf_reads h]

theorem beside_settings :
    (Settings.load .usual besideTree (Settings.path shelf.settingsFile)).result =
      .ok (Settings.defaults.override [("sort_keys", .bool false)]) := by
  have hs : besideTree.status (Settings.path shelf.settingsFile) =
      .ok (.file (shelfSettings.compactText ++ "\n").toUTF8) := by with_unfolding_all rfl
  have hv : shelfSettings.Textual := Json.textual_of_isTextual rfl
  exact Settings.load_of_object hs (Json.ofBytes_toUTF8
    (Json.readWithin_of_spells hv (Json.spells_line Json.Layout.compact_blank hv) (by decide)))
    (by decide)

theorem beside_first : (run shelf besideArguments).ending.exitCode = 0 ∧
    (run shelf besideArguments).tree = besideTree :=
  shelf_run (beside_request (Or.inl rfl)) (shelf_settings _) rfl (beside_descriptors rfl)
    shelf_encoded (by decide +kernel) (by with_unfolding_all rfl) (by decide +kernel)

theorem beside_second : (run (shelfWith besideTree) besideArguments).ending.exitCode = 0 ∧
    (run (shelfWith besideTree) besideArguments).tree =
      (besideTree.writeText ⟨"", ["out", "o.json"]⟩ (shelfText shelfEntry)).1 :=
  shelf_run (beside_request (Or.inr rfl)) beside_settings rfl
    (beside_descriptors (by with_unfolding_all rfl)) rfl (by decide +kernel)
    (by with_unfolding_all rfl) (by decide +kernel)

theorem beside_changes : (besideTree.writeText besideOptions.output (shelfText shelfEntry)).1.status
    besideOptions.output ≠ besideTree.status besideOptions.output := by
  have hlast : (besideTree.writeText besideOptions.output (shelfText shelfEntry)).1.status
      besideOptions.output = .ok (.file (shelfText shelfEntry).toUTF8) := by with_unfolding_all rfl
  have hfirst : besideTree.status besideOptions.output =
      .ok (.file (shelfText shelfSorted).toUTF8) := by with_unfolding_all rfl
  intro hsame
  rw [hlast, hfirst] at hsame
  have hbytes : (shelfText shelfEntry).toUTF8 = (shelfText shelfSorted).toUTF8 := by
    injection hsame with hnode
    injection hnode
  have hentry : Json.ofBytes .usual (shelfText shelfEntry).toUTF8 = .ok (.arr [shelfEntry]) :=
    ofBytes_shelfText rfl (by decide)
  rw [hbytes, ofBytes_shelfText rfl (by decide)] at hentry
  simp [shelfEntry, shelfSorted] at hentry

/-! With the output in a new directory below that of the input, the second run has one directory more to
search, for which there may be no room. -/

/-- The shelf on a machine that searches one directory and none inside it. -/
def narrow : Surroundings := { shelf with machine := { Machine.usual with directories := 1 } }

def narrowWith (tree : FileTree) : Surroundings := { narrow with tree }

def narrowArguments : List String := ["-d", "in", "-t", "Place", "-o", "in/new/o.txt"]

def narrowOptions : Options := shelfOptions (.directory ⟨"", ["in"]⟩) ⟨"", ["in", "new", "o.txt"]⟩

def narrowTree : FileTree :=
  (shelf.tree.writeText ⟨"", ["in", "new", "o.txt"]⟩ (shelfText shelfSorted)).1

theorem narrow_written :
    (shelf.tree.writeText ⟨"", ["in", "new", "o.txt"]⟩ (shelfText shelfSorted)).2 = .ok () := by
  with_unfolding_all rfl

theorem narrow_request {tree : FileTree} (h : tree = shelf.tree ∨ tree = narrowTree) :
    Request.ofArguments tree narrowArguments = .ok (.run narrowOptions) := by
  rcases h with rfl | rfl <;> with_unfolding_all rfl

theorem narrow_first : (run narrow narrowArguments).ending.exitCode = 0 ∧
    (run narrow narrowArguments).tree = narrowTree :=
  shelf_run (narrow_request (Or.inl rfl)) (shelf_settings _) rfl
    (shelf_descriptors (by with_unfolding_all rfl)) shelf_encoded (by decide +kernel) narrow_written
    (by decide +kernel)

theorem narrow_directory :
    narrowTree.locate ⟨"", ["in"]⟩ = .ok (.existing ["home", "in"] .directory) :=
  shelf_directory_kept narrow_written

theorem narrow_second : (run (narrowWith narrowTree) narrowArguments).ending.exitCode ≠ 0 := by
  have hr : Request.ofArguments (narrowWith narrowTree).tree narrowArguments =
      .ok (.run narrowOptions) := narrow_request (Or.inr rfl)
  have hsearch : narrowTree.search narrow.machine ⟨"", ["in"]⟩ DescriptorSet.documentSuffix =
      .error .overdeepSearch := by
    have hdeep : narrowTree.obstacle? DescriptorSet.documentSuffix narrow.machine.directories
        ⟨"", ["in"]⟩ ["home", "in"] = some .overdeepSearch := by with_unfolding_all rfl
    rw [FileTree.search, narrow_directory]
    dsimp only
    rw [hdeep]
  have hinput : (loadInput narrow.machine narrowTree narrowOptions.input).result =
      .error (.interrupted .overdeepSearch) := by
    change (DescriptorSet.loadDirectory _ _ _).result = _
    rw [DescriptorSet.loadDirectory_result narrow_directory, hsearch]
    rfl
  have hfails : narrowOptions.Fails (narrowWith narrowTree) := .descriptors hinput
  exact ((run_leaves hr rfl).of_fails hfails).1

/-- The output is no document. -/
theorem narrow_apart : ∀ place, narrowTree.place? narrowOptions.output = some place →
    ¬narrowOptions.input.Reads narrowTree place := by
  intro place hp hr
  have hplace : narrowTree.place? narrowOptions.output = some ["home", "in", "new", "o.txt"] := by
    with_unfolding_all rfl
  have hnames : narrowTree.namesBelow ["home", "in"] DescriptorSet.documentSuffix =
      [["a.json"]] := by with_unfolding_all rfl
  cases hr with
  | directory hl hn hfound =>
      cases hl.symm.trans narrow_directory
      rw [hnames] at hn
      cases List.mem_singleton.mp hn
      cases hfound
      exact absurd (hplace.symm.trans hp) (by decide)

/-- Three runs that are done, with an output that is neither the input file nor the settings file, where
the same run fails afterwards, as it reads the output or meets the directory made for it, or writes
another document. -/
theorem shelf_rerun_differs :
    (Request.ofArguments shelf.tree insideArguments = .ok (.run insideOptions) ∧
      insideOptions.log = none ∧ (run shelf insideArguments).ending.exitCode = 0 ∧
      insideOptions.Elsewhere shelf (run shelf insideArguments).tree ∧
      (run (shelfWith (run shelf insideArguments).tree) insideArguments).ending.exitCode ≠ 0) ∧
    (Request.ofArguments shelf.tree besideArguments = .ok (.run besideOptions) ∧
      besideOptions.log = none ∧ (run shelf besideArguments).ending.exitCode = 0 ∧
      besideOptions.Elsewhere shelf (run shelf besideArguments).tree ∧
      (run (shelfWith (run shelf besideArguments).tree) besideArguments).tree.status
          besideOptions.output ≠
        (run shelf besideArguments).tree.status besideOptions.output) ∧
    (Request.ofArguments narrow.tree narrowArguments = .ok (.run narrowOptions) ∧
      narrowOptions.log = none ∧ (run narrow narrowArguments).ending.exitCode = 0 ∧
      narrowOptions.Elsewhere narrow (run narrow narrowArguments).tree ∧
      (∀ place, (run narrow narrowArguments).tree.place? narrowOptions.output = some place →
        ¬narrowOptions.input.Reads (run narrow narrowArguments).tree place) ∧
      (run (narrowWith (run narrow narrowArguments).tree) narrowArguments).ending.exitCode ≠ 0) := by
  rw [inside_first.2, beside_first.2, beside_second.2, narrow_first.2]
  refine ⟨⟨inside_request (Or.inl rfl), rfl, inside_first.1, ⟨?_, ?_⟩, inside_second⟩,
    ⟨beside_request (Or.inl rfl), rfl, beside_first.1, ⟨?_, ?_⟩, ?_⟩,
    ⟨narrow_request (Or.inl rfl), rfl, narrow_first.1, ⟨?_, ?_⟩, narrow_apart, narrow_second⟩⟩
  · intro path hp
    cases hp
  · decide +kernel
  · intro path hp
    cases hp
    decide +kernel
  · decide +kernel
  · exact beside_changes
  · intro path hp
    cases hp
  · decide +kernel

end ToolSchema.Command
