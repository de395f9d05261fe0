import ToolSchema.Proofs.FileReading
import ToolSchema.Proofs.RepeatedWriting
import ToolSchema.Proofs.RunStages

/-! What a run of the command leaves behind. There are four ways for a run without a log file to leave
the tree (`Options.Leaves`): as it was, with the whole output written, with an empty output where half a
character stood against its text, or with nothing new but directories where writing was refused. Only the
second is a success, and a run whose stages succeed is one. -/

namespace ToolSchema.Command

open Step (Yields Gives Stops tree_keeps print_shows bind_gives pure_gives print_gives)
open Console (Showable IsVerbatim)

/-! ### What a run leaves behind -/

/-- What a run has put together when it comes to writing. -/
structure Prepared where
  settings : Settings
  choice : Settings.Choice
  set : DescriptorSet
  components : Table Components
  entries : List Json
  text : String

namespace Options

variable (options : Options) (surroundings : Surroundings)

/-- The settings and the descriptors are read, the targets among the records are generated and
formatted as the settings and the options say, and the document is encoded. -/
structure Prepares (prepared : Prepared) : Prop where
  settings : (Settings.load surroundings.machine surroundings.tree
    (Settings.path surroundings.settingsFile)).result = .ok prepared.settings
  choice : prepared.settings.choose (asked options.format) options.pretty = .ok prepared.choice
  descriptors : (loadInput surroundings.machine surroundings.tree options.input).result =
    .ok prepared.set
  components : generateSchemas (prepared.set.select options.names).targets prepared.set.enums =
    .ok prepared.components
  entries : formatSchemas (prepared.set.select options.names).targets
    (Components.table prepared.components) prepared.choice.format = .ok prepared.entries
  text : (prepared.settings.encoding prepared.choice.pretty).encode surroundings.machine.memory
    (.arr prepared.entries) = .ok prepared.text

/-- The whole output is written, and nothing else is changed. -/
inductive Delivers (tree : FileTree) : Prop
  | intro {prepared place} (hp : options.Prepares surroundings prepared)
      (hh : Text.holdsHalf prepared.text.toList = false)
      (hw : FileTree.Wrote options.output prepared.text.toUTF8 place surroundings.tree tree)

/-- The output is left empty, for there is half a character in its text. -/
inductive Empties (tree : FileTree) : Prop
  | intro {prepared place} (hp : options.Prepares surroundings prepared)
      (hh : Text.holdsHalf prepared.text.toList = true)
      (hw : FileTree.Wrote options.output .empty place surroundings.tree tree)

/-- Writing the output is refused, and there is nothing new but directories on the way. -/
inductive Refuses (tree : FileTree) : Prop
  | intro {prepared} (hp : options.Prepares surroundings prepared)
      (hg : FileTree.Grows (surroundings.tree.start options.output) options.output.parent.parts
        surroundings.tree tree)

/-- How a run can leave the tree. -/
inductive Leaves : Ending → FileTree → Prop
  | untouched {ending} (h : ending.exitCode ≠ 0) : Leaves ending surroundings.tree
  | written {ending tree} (h : options.Delivers surroundings tree) : Leaves ending tree
  | emptied {tree} (h : options.Empties surroundings tree) : Leaves (.crashed .unencodable) tree
  | refused {tree} (h : options.Refuses surroundings tree) : Leaves .failed tree
  | unreported {tree} (h : options.Refuses surroundings tree) :
      Leaves (.crashed (.markup .unencodable)) tree

end Options

/-- The components of some targets and the entries that are made of them. -/
theorem buildDocument_result_eq_ok_iff {targets : List Record} {enums : Table Enumeration}
    {format : String} {entries : List Json} :
    (buildDocument targets enums format).result = .ok entries ↔
      ∃ components, generateSchemas targets enums = .ok components ∧
        formatSchemas targets (Components.table components) format = .ok entries := by
  rw [buildDocument, Logged.bind_result, Expansion.bind_eq_ok_iff]
  simp only [Logged.mapError, generateLogged_result, formatLogged_result, mapError_eq_ok_iff]

/-- The writing of a document goes on once its text is written. It stops where there is no text, where
half a character leaves the file empty, and where the file is refused. -/
theorem writeOutput_writes {machine : Machine} {tree : FileTree} {stops : Ending → FileTree → Prop}
    {encoding : Json.Encoding} {path : FilePath} {document : Json}
    (hs : ∀ ending, ending.exitCode ≠ 0 → stops ending tree)
    (he : ∀ text after, encoding.encode machine.memory document = .ok text →
      Text.holdsHalf text.toList = true → tree.writeText path "" = (after, .ok ()) →
      stops (.crashed .unencodable) after)
    (hr : ∀ text given after failure, encoding.encode machine.memory document = .ok text →
      tree.writeText path given = (after, .error failure) → ∀ ending,
      ending = .failed ∨ ending = .crashed (.markup .unencodable) ∨
        failure = .unnameable ∧ ending = .crashed (.interrupted .unnameable) →
      stops ending after) :
    Yields tree stops (fun _ after => ∃ text, encoding.encode machine.memory document = .ok text ∧
        Text.holdsHalf text.toList = false ∧ tree.writeText path text = (after, .ok ()))
      (writeOutput machine encoding path document) := by
  unfold writeOutput
  split
  · exact Step.finish_yields (hs _ Nat.one_ne_zero)
  · rename_i text htext
    apply tree_keeps.bind_yields hs
    rintro current rfl
    rcases hresult : current.writeText path
      (if Text.holdsHalf text.toList = true then "" else text) with ⟨written, result⟩
    dsimp only
    apply Step.bind_yields (Step.setTree_yields current written)
    rintro _ _ rfl
    split
    · split
      · rename_i hh
        rw [if_pos hh] at hresult
        exact Step.finish_yields (he text _ htext hh hresult)
      · rename_i hh
        rw [if_neg hh] at hresult
        exact Step.pure_yields ⟨text, htext, Bool.eq_false_iff.mpr hh, hresult⟩
    · have hstops := hr text _ _ _ htext hresult
      exact Step.fail_yields (legible_reportWriting path _) (hstops _ (Or.inl rfl))
        (hstops _ (Or.inr (Or.inl rfl)))
    · exact Step.finish_yields (hr text _ _ _ htext hresult _ (Or.inr (Or.inr ⟨rfl, rfl⟩)))

/-- Wherever the writing of a document stops, the run has failed. -/
theorem writeOutput_goes {machine : Machine} {tree : FileTree} {encoding : Json.Encoding}
    {path : FilePath} {document : Json} :
    Yields tree (fun ending _ => ending.exitCode ≠ 0)
      (fun _ after => ∃ text, encoding.encode machine.memory document = .ok text ∧
        Text.holdsHalf text.toList = false ∧ tree.writeText path text = (after, .ok ()))
      (writeOutput machine encoding path document) := by
  refine writeOutput_writes (fun _ => id) (fun _ _ _ _ _ => Nat.one_ne_zero) ?_
  rintro text given after failure - - ending (rfl | rfl | ⟨-, rfl⟩)
  all_goals exact Nat.one_ne_zero

/-- What the writing of a document leaves of the tree, if the system takes the names of the path. -/
theorem writeOutput_yields {machine : Machine} {tree : FileTree} {stops : Ending → FileTree → Prop}
    {encoding : Json.Encoding} {path : FilePath} {document : Json} (hname : path.isNameable = true)
    (hs : ∀ ending, ending.exitCode ≠ 0 → stops ending tree)
    (he : ∀ text place after, encoding.encode machine.memory document = .ok text →
      Text.holdsHalf text.toList = true → FileTree.Wrote path .empty place tree after →
      stops (.crashed .unencodable) after)
    (hr : ∀ text after, encoding.encode machine.memory document = .ok text →
      FileTree.Grows (tree.start path) path.parent.parts tree after →
      stops .failed after ∧ stops (.crashed (.markup .unencodable)) after) :
    Yields tree stops (fun _ after => ∃ text, encoding.encode machine.memory document = .ok text ∧
      Text.holdsHalf text.toList = false ∧ ∃ place, FileTree.Wrote path text.toUTF8 place tree after)
      (writeOutput machine encoding path document) := by
  have hwrote {text : String} {after : FileTree} (h : tree.writeText path text = (after, .ok ())) :
      ∃ place, FileTree.Wrote path text.toUTF8 place tree after := FileTree.wrote_of_write h
  refine (writeOutput_writes hs (fun text after htext hh hw => ?_)
    fun text given after failure htext hw ending hend => ?_).mono fun _ after ⟨text, htext, hh, hw⟩ =>
      ⟨text, htext, hh, hwrote hw⟩
  · obtain ⟨place, hplace⟩ := hwrote hw
    exact he text place after htext hh hplace
  · have hwrite := tree.write_changes given.toUTF8 hname
    rw [← FileTree.writeText, hw] at hwrite
    rcases hwrite with ⟨hok, -⟩ | ⟨refusal, hrefused, hg⟩
    · cases hok
    · obtain ⟨hfailed, hunreported⟩ := hr text after htext hg
      rcases hend with rfl | rfl | ⟨rfl, -⟩
      · exact hfailed
      · exact hunreported
      · cases hrefused

/-- What is announced before a run writes its output. -/
def Options.announcement (options : Options) (prepared : Prepared) : List String :=
  headline options.names.length prepared.choice.format :: notices (prepared.set.select options.names)

/-- A run that delivers its output has prepared it; what the writing leaves is left. -/
theorem deliver_yields {options : Options} {surroundings : Surroundings}
    {stops : Ending → FileTree → Prop} (goes : Prepared → FileTree → Prop) (hlog : options.log = none)
    (hs : ∀ ending : Ending, ending.exitCode ≠ 0 → stops ending surroundings.tree)
    (hw : ∀ settings choice set components entries,
      (∀ text, (settings.encoding choice.pretty).encode surroundings.machine.memory (.arr entries) =
        .ok text →
        options.Prepares surroundings ⟨settings, choice, set, components, entries, text⟩) →
      Yields surroundings.tree stops
        (fun _ after => ∃ text,
          (settings.encoding choice.pretty).encode surroundings.machine.memory (.arr entries) =
            .ok text ∧ goes ⟨settings, choice, set, components, entries, text⟩ after)
        (writeOutput surroundings.machine (settings.encoding choice.pretty) options.output
          (.arr entries))) :
    Yields surroundings.tree stops
      (fun product after => ∃ prepared, options.Prepares surroundings prepared ∧
        (∀ line ∈ options.announcement prepared, Showable surroundings.machine.columns line) ∧
        product = ⟨prepared.settings, prepared.entries⟩ ∧ goes prepared after)
      (options.deliver surroundings) := by
  unfold Options.deliver
  apply (start_keeps hlog _).bind_yields hs
  intro journal hj
  apply (settle_keeps hj surroundings).bind_yields hs
  intro settings hsettings
  split
  · exact Step.finish_yields (hs _ Nat.one_ne_zero)
  · rename_i choice hchoice
    apply (print_shows _).bind_yields hs
    intro _ hheadline
    apply (load_keeps hj _).bind_yields hs
    intro set hset
    apply (select_keeps hj set _).bind_yields hs
    rintro selection ⟨rfl, hnotices⟩
    apply (generate_keeps hj _ set _).bind_yields hs
    intro entries hentries
    obtain ⟨components, hcomponents, hformatted⟩ := buildDocument_result_eq_ok_iff.mp hentries
    have hp : ∀ text, (settings.encoding choice.pretty).encode surroundings.machine.memory
        (.arr entries) = .ok text →
        options.Prepares surroundings ⟨settings, choice, set, components, entries, text⟩ :=
      fun _ htext => ⟨hsettings, hchoice, hset, hcomponents, hformatted, htext⟩
    apply Step.bind_yields (hw settings choice set components entries hp)
    rintro _ after ⟨text, htext, hgoes⟩
    exact Step.pure_yields ⟨_, hp text htext, List.forall_mem_cons.mpr ⟨hheadline, hnotices⟩, rfl, hgoes⟩

theorem run_yields {options : Options} (surroundings : Surroundings) (hlog : options.log = none)
    (hname : options.output.isNameable = true) :
    Yields surroundings.tree (options.Leaves surroundings)
      (fun _ after => options.Leaves surroundings .done after) (options.run surroundings) := by
  have hstop : ∀ ending : Ending, ending.exitCode ≠ 0 →
      options.Leaves surroundings ending surroundings.tree := fun _ => .untouched
  rw [Options.run_eq]
  apply Step.bind_yields (deliver_yields (fun prepared after =>
      Text.holdsHalf prepared.text.toList = false ∧ ∃ place,
        FileTree.Wrote options.output prepared.text.toUTF8 place surroundings.tree after) hlog hstop
    fun settings choice set components entries hp =>
      writeOutput_yields hname hstop (fun text _ _ htext hh hw => .emptied (.intro (hp text htext) hh hw))
        fun text _ htext hg =>
          ⟨.refused (.intro (hp text htext) hg), .unreported (.intro (hp text htext) hg)⟩)
  rintro product after ⟨prepared, hp, -, -, hh, place, hw⟩
  have hwritten : ∀ ending, options.Leaves surroundings ending after :=
    fun _ => .written (.intro hp hh hw)
  obtain ⟨lines, -, hreport⟩ := options.report_eq surroundings.machine surroundings.tokenizer product
  exact (Options.report_keeps hreport).yields (fun ending _ => hwritten ending) fun _ _ => hwritten .done

section Deliveries

variable {options : Options} {surroundings : Surroundings} {prepared : Prepared} {after : FileTree}

/-- Where everything is prepared and what is announced can be shown, a run comes to the writing of its
output, and goes on from there. -/
theorem deliver_reaches (hlog : options.log = none) (hp : options.Prepares surroundings prepared)
    (ha : ∀ line ∈ options.announcement prepared, Showable surroundings.machine.columns line)
    {reaches : Step Product → Prop}
    (hbind : ∀ {α : Type} {value : α} {first : Step α} {next : α → Step Product},
      Gives surroundings.tree surroundings.tree value first → reaches (next value) →
      reaches (first >>= next))
    (hwrite : reaches (do
      writeOutput surroundings.machine (prepared.settings.encoding prepared.choice.pretty)
        options.output (.arr prepared.entries)
      return ⟨prepared.settings, prepared.entries⟩)) :
    reaches (options.deliver surroundings) := by
  obtain ⟨hheadline, hnotices⟩ := List.forall_mem_cons.mp ha
  unfold Options.deliver
  apply hbind (start_gives hlog _)
  apply hbind (settle_gives rfl hp.settings)
  rw [hp.choice]
  apply hbind (print_gives hheadline _)
  apply hbind (load_gives rfl hp.descriptors)
  apply hbind (select_gives rfl prepared.set options.names hnotices)
  have hbuilt := buildDocument_result_eq_ok_iff.mpr ⟨_, hp.components, hp.entries⟩
  exact hbind (generate_gives rfl hbuilt) hwrite

/-- The output is delivered if its text holds no half of a character and can be written. -/
theorem deliver_gives (hlog : options.log = none) (hp : options.Prepares surroundings prepared)
    (hh : Text.holdsHalf prepared.text.toList = false)
    (hw : surroundings.tree.writeText options.output prepared.text = (after, .ok ()))
    (ha : ∀ line ∈ options.announcement prepared, Showable surroundings.machine.columns line) :
    Gives surroundings.tree after ⟨prepared.settings, prepared.entries⟩
      (options.deliver surroundings) :=
  deliver_reaches hlog hp ha bind_gives
    (bind_gives (writeOutput_gives hp.text hh hw) (pure_gives after _))

/-- A run that delivers its output goes on to its end if the lines of its report can be shown. -/
theorem run_gives {lines : List String} (hlog : options.log = none)
    (hp : options.Prepares surroundings prepared) (hh : Text.holdsHalf prepared.text.toList = false)
    (hw : surroundings.tree.writeText options.output prepared.text = (after, .ok ()))
    (ha : ∀ line ∈ options.announcement prepared, Showable surroundings.machine.columns line)
    (hreport : options.report surroundings.machine surroundings.tokenizer
      ⟨prepared.settings, prepared.entries⟩ = lines.forM (Step.print surroundings.machine))
    (hl : ∀ line ∈ lines, Showable surroundings.machine.columns line) :
    Gives surroundings.tree after () (options.run surroundings) := by
  rw [Options.run_eq]
  refine bind_gives (deliver_gives hlog hp hh hw ha) ?_
  rw [hreport]
  exact Step.printEach_gives hl after

end Deliveries

/-! ### The command line -/

theorem forM_eq_ok_iff {ε α : Type} {f : α → Except ε Unit} {items : List α} :
    items.forM f = .ok () ↔ ∀ a ∈ items, f a = .ok () := by
  induction items with
  | nil => exact ⟨fun _ _ hm => absurd hm List.not_mem_nil, fun _ => rfl⟩
  | cons first rest ih =>
      rw [List.forall_mem_cons, ← ih]
      constructor
      · intro h
        obtain ⟨_, hf, hr⟩ := Expansion.bind_eq_ok_iff.mp h
        exact ⟨hf, hr⟩
      · rintro ⟨hf, hr⟩
        exact Expansion.bind_eq_ok_iff.mpr ⟨(), hf, hr⟩

theorem Line.mem_parameters {line : Line} {parameter : Parameter} {text : String}
    (h : line.last? parameter = some text) : parameter ∈ line.parameters := by
  obtain ⟨given, hg, hv⟩ := List.mem_filterMap.mp (List.mem_of_getLast? h)
  rw [Line.parameters, ← List.map_id (firsts id _)]
  apply mem_map_firsts
  refine List.mem_filterMap.mpr ⟨given, hg, ?_⟩
  cases given with
  | switch switch => cases hv
  | value other found =>
      dsimp only at hv ⊢
      split at hv
      · rename_i he
        rw [he]
      · cases hv

/-- Whether the value of a parameter is a path. -/
def Parameter.isPath : Parameter → Bool
  | .inputFile | .inputDirectory | .outputFile | .logFile => true
  | .typeName | .format => false

theorem Line.check_path_iff {tree : FileTree} {line : Line} {parameter : Parameter} {text : String}
    (hp : parameter.isPath = true) (hl : line.last? parameter = some text) :
    line.check tree parameter = .ok () ↔
      (FilePath.ofString text).isNameable = true ∧ usable tree parameter text = true := by
  unfold Line.check
  rw [hl]
  cases parameter with
  | typeName => cases hp
  | format => cases hp
  | inputFile | inputDirectory | outputFile | logFile =>
      dsimp only
      cases (FilePath.ofString text).isNameable <;> simp

/-- What the options say that a line was taken for. -/
theorem Line.options_given {tree : FileTree} {line : Line} {options : Options}
    (h : line.options tree = .ok options) :
    (∃ text, line.last? .outputFile = some text ∧ options.output = .ofString text) ∧
      options.log = line.log? := by
  obtain ⟨_, -, h⟩ := Expansion.bind_eq_ok_iff.mp h
  split at h
  · cases h
  · rename_i output hpath
    obtain ⟨text, htext, rfl⟩ := Option.map_eq_some_iff.mp hpath
    dsimp only at h
    split at h
    · cases h
    · obtain ⟨input, -, h⟩ := Expansion.bind_eq_ok_iff.mp h
      cases h
      exact ⟨⟨text, htext, rfl⟩, rfl⟩

theorem Request.ofArguments_run_iff {tree : FileTree} {arguments : List String} {options : Options} :
    Request.ofArguments tree arguments = .ok (.run options) ↔
      ∃ line, (Line.read none arguments).mapError LineError.usage = .ok line ∧
        line.question? = none ∧ line.options tree = .ok options := by
  constructor
  · intro h
    obtain ⟨line, hline, h⟩ := Expansion.bind_eq_ok_iff.mp h
    split at h
    · rename_i request hrequest
      cases h
      obtain ⟨given, -, hg⟩ := List.exists_of_findSome?_eq_some hrequest
      split at hg <;> cases hg
    · rename_i hquestion
      obtain ⟨found, hfound, h⟩ := Expansion.bind_eq_ok_iff.mp h
      cases h
      exact ⟨line, hline, hquestion, hfound⟩
  · rintro ⟨line, hline, hquestion, hfound⟩
    refine Expansion.bind_eq_ok_iff.mpr ⟨line, hline, ?_⟩
    rw [hquestion]
    exact Expansion.bind_eq_ok_iff.mpr ⟨options, hfound, rfl⟩

/-- A path that may stand for the output holds no name that the system does not take. -/
theorem isNameable_output {tree : FileTree} {arguments : List String} {options : Options}
    (h : Request.ofArguments tree arguments = .ok (.run options)) :
    options.output.isNameable = true := by
  obtain ⟨line, -, -, hfound⟩ := Request.ofArguments_run_iff.mp h
  obtain ⟨⟨text, htext, houtput⟩, -⟩ := Line.options_given hfound
  obtain ⟨_, hchecks, -⟩ := Expansion.bind_eq_ok_iff.mp hfound
  have hcheck := forM_eq_ok_iff.mp hchecks _ (Line.mem_parameters htext)
  rw [houtput]
  exact ((Line.check_path_iff rfl htext).mp hcheck).1

theorem run_leaves {surroundings : Surroundings} {arguments : List String} {options : Options}
    (h : Request.ofArguments surroundings.tree arguments = .ok (.run options))
    (hlog : options.log = none) :
    options.Leaves surroundings (run surroundings arguments).ending
      (run surroundings arguments).tree := by
  have hy := run_yields surroundings hlog (isNameable_output h) ⟨"", surroundings.tree⟩ rfl
  unfold run
  rw [h]
  dsimp only
  rcases hr : options.run surroundings ⟨"", surroundings.tree⟩ with ⟨result, after⟩
  rw [hr] at hy
  cases result with
  | error ending => exact hy
  | ok value => exact hy

theorem run_of_lineError {surroundings : Surroundings} {arguments : List String} {e : LineError}
    (h : Request.ofArguments surroundings.tree arguments = .error e) :
    (run surroundings arguments).ending.exitCode ≠ 0 ∧
      (run surroundings arguments).tree = surroundings.tree := by
  unfold run
  rw [h]
  cases e with
  | usage error => exact ⟨nofun, rfl⟩
  | unnameable parameter => exact ⟨nofun, rfl⟩

theorem run_eq_done {surroundings : Surroundings} {arguments : List String} {options : Options}
    {after : FileTree} (h : Request.ofArguments surroundings.tree arguments = .ok (.run options))
    (hg : Gives surroundings.tree after () (options.run surroundings)) :
    ∃ shown, run surroundings arguments = ⟨.done, shown, after⟩ := by
  obtain ⟨shown, hrun⟩ := hg ""
  refine ⟨shown, ?_⟩
  unfold run
  rw [h]
  dsimp only
  rw [hrun]

theorem run_done {surroundings : Surroundings} {arguments : List String} {options : Options}
    {after : FileTree} (h : Request.ofArguments surroundings.tree arguments = .ok (.run options))
    (hg : Gives surroundings.tree after () (options.run surroundings)) :
    (run surroundings arguments).ending.exitCode = 0 ∧ (run surroundings arguments).tree = after := by
  obtain ⟨shown, hrun⟩ := run_eq_done h hg
  rw [hrun]
  exact ⟨rfl, rfl⟩

namespace Options

variable {options : Options} {surroundings : Surroundings} {ending : Ending} {tree : FileTree}

/-- Why a run does not come to its output: what it reads cannot be read, or nothing can be made of
it. -/
inductive Fails (options : Options) (surroundings : Surroundings) : Prop
  | settings {cause}
      (h : (Settings.load surroundings.machine surroundings.tree
        (Settings.path surroundings.settingsFile)).result = .error cause)
  | descriptors {failure}
      (h : (loadInput surroundings.machine surroundings.tree options.input).result = .error failure)
  | generation {set error}
      (hset : (loadInput surroundings.machine surroundings.tree options.input).result = .ok set)
      (h : generateSchemas (set.select options.names).targets set.enums = .error error)
  | formatting {settings choice set components error}
      (hsettings : (Settings.load surroundings.machine surroundings.tree
        (Settings.path surroundings.settingsFile)).result = .ok settings)
      (hchoice : settings.choose (asked options.format) options.pretty = .ok choice)
      (hset : (loadInput surroundings.machine surroundings.tree options.input).result = .ok set)
      (hcomponents : generateSchemas (set.select options.names).targets set.enums = .ok components)
      (h : formatSchemas (set.select options.names).targets (Components.table components)
        choice.format = .error error)

theorem Fails.not_prepares (h : options.Fails surroundings) (prepared : Prepared) :
    ¬options.Prepares surroundings prepared := by
  intro hp
  cases h with
  | settings h => cases h.symm.trans hp.settings
  | descriptors h => cases h.symm.trans hp.descriptors
  | generation hset h =>
      cases hset.symm.trans hp.descriptors
      cases h.symm.trans hp.components
  | formatting hsettings hchoice hset hcomponents h =>
      cases hsettings.symm.trans hp.settings
      cases hchoice.symm.trans hp.choice
      cases hset.symm.trans hp.descriptors
      cases hcomponents.symm.trans hp.components
      cases h.symm.trans hp.entries

/-- There is one way to prepare a document. -/
theorem Prepares.unique {prepared other : Prepared} (hp : options.Prepares surroundings prepared)
    (ho : options.Prepares surroundings other) : prepared = other := by
  obtain ⟨settings, choice, set, components, entries, text⟩ := prepared
  obtain ⟨settings', choice', set', components', entries', text'⟩ := other
  cases hp.settings.symm.trans ho.settings
  cases hp.choice.symm.trans ho.choice
  cases hp.descriptors.symm.trans ho.descriptors
  cases hp.components.symm.trans ho.components
  cases hp.entries.symm.trans ho.entries
  cases hp.text.symm.trans ho.text
  rfl

theorem Leaves.of_fails (h : options.Leaves surroundings ending tree)
    (hf : options.Fails surroundings) : ending.exitCode ≠ 0 ∧ tree = surroundings.tree := by
  cases h with
  | untouched hcode => exact ⟨hcode, rfl⟩
  | written h | emptied h | refused h | unreported h =>
      cases h with
      | intro hp => exact absurd hp (hf.not_prepares _)

end Options

/-- A desk with a document of two records, one of which holds itself. -/
def desk : Surroundings where
  machine := .usual
  tree := ⟨["home"],
    [(["home"], .directory),
      (["home", "in.json"], .file (Json.obj [("records", .arr
        [.obj [("name", .str "Place"), ("fields", .arr
            [.obj [("name", .str "x"), ("type", .str "Int")]])],
          .obj [("name", .str "Loop"), ("fields", .arr
            [.obj [("name", .str "next"), ("type", .str "Loop")]])]])]).compactText.toUTF8),
      (["home", "schema_forge.json"],
        .file (Json.obj [("sort_keys", .bool false)]).compactText.toUTF8)]⟩
  settingsFile := none
  tokenizer := ⟨fun _ => .ok none, fun _ => .error "No encoder"⟩
  time := "12:00"

def deskArguments (name : String) : List String :=
  ["-i", "in.json", "-t", name, "-o", "sub/../out/o.json"]

def deskOptions (name : String) : Options where
  input := .file ⟨"", ["in.json"]⟩
  names := [name]
  output := ⟨"", ["sub", "..", "out", "o.json"]⟩
  format := none
  pretty := false
  estimate := false
  verbose := false
  log := none

def deskSet : DescriptorSet where
  records := [{ name := "Place", fields := [⟨"x", "Int", none, false⟩] },
    { name := "Loop", fields := [⟨"next", "Loop", none, false⟩] }]

def deskDocument : Json :=
  .obj [("records", .arr [
    .obj [("name", .str "Place"), ("fields", .arr [.obj [("name", .str "x"), ("type", .str "Int")]])],
    .obj [("name", .str "Loop"), ("fields", .arr
      [.obj [("name", .str "next"), ("type", .str "Loop")]])]])]

def deskEntry : Json :=
  .obj [("type", .str "function"), ("function", .obj [("name", .str "Place"),
    ("parameters", .obj [("type", .str "object"),
      ("properties", .obj [("x", .obj [("type", .str "integer")])]),
      ("required", .arr [.str "x"])])])]

def deskText : String := (Json.arr [deskEntry]).compactText ++ "\n"

theorem desk_request {name : String} (h : name = "Place" ∨ name = "Loop") :
    Request.ofArguments desk.tree (deskArguments name) = .ok (.run (deskOptions name)) := by
  rcases h with rfl | rfl <;> with_unfolding_all rfl

theorem desk_descriptors :
    (loadInput desk.machine desk.tree (.file ⟨"", ["in.json"]⟩)).result = .ok deskSet := by
  have hstatus : desk.tree.status ⟨"", ["in.json"]⟩ =
      .ok (.file deskDocument.compactText.toUTF8) := rfl
  exact DescriptorSet.loadFile_of_ofJson hstatus (Json.ofBytes_compactText rfl (by decide))
    (by with_unfolding_all rfl)

theorem desk_settings :
    (Settings.load desk.machine desk.tree (Settings.path desk.settingsFile)).result =
      .ok (Settings.defaults.override [("sort_keys", .bool false)]) := by
  have hstatus : desk.tree.status (Settings.path desk.settingsFile) =
      .ok (.file (Json.obj [("sort_keys", .bool false)]).compactText.toUTF8) := rfl
  exact Settings.load_of_object hstatus (Json.ofBytes_compactText rfl (by decide)) (by decide)

/-- What is put together for the record `Place`. -/
def deskPrepared : Prepared where
  settings := Settings.defaults.override [("sort_keys", .bool false)]
  choice := ⟨"openai", false⟩
  set := deskSet
  components := [("Place", ⟨[("x", .obj [("type", .str "integer")])], ["x"]⟩)]
  entries := [deskEntry]
  text := deskText

theorem desk_prepares : (deskOptions "Place").Prepares desk deskPrepared where
  settings := desk_settings
  choice := rfl
  descriptors := desk_descriptors
  components := by with_unfolding_all rfl
  entries := rfl
  text := rfl

theorem desk_announced :
    ∀ line ∈ (deskOptions "Place").announcement deskPrepared, Showable desk.machine.columns line := by
  refine List.forall_mem_cons.mpr ⟨showable_headline _ (by decide) (by decide), ?_⟩
  exact List.forall_mem_nil _

theorem desk_verbatim : IsVerbatim (toString (deskOptions "Place").output).toList := by
  decide +kernel

theorem desk_writes : Gives desk.tree
    (desk.tree.writeText (deskOptions "Place").output deskText).1 ()
    ((deskOptions "Place").run desk) := by
  have hw : (desk.tree.writeText (deskOptions "Place").output deskText).2 = .ok () := by
    with_unfolding_all rfl
  exact run_gives rfl desk_prepares (by decide +kernel) (Prod.ext rfl hw) desk_announced
    (Options.report_of_no_estimate rfl) (showable_summary _ desk_verbatim)

end ToolSchema.Command
