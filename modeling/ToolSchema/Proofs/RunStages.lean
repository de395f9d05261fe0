import ToolSchema.Command.Run
import ToolSchema.Proofs.FileChanges
import ToolSchema.Proofs.VerbatimText

/-! The stages of a run. A stage goes on with a value or stops the run. Up to the output every stage
only reads (`Step.Keeps`): the tree stays as it is, and where the run stops it has failed. The output is
written at once. The other way round, a stage whose reading succeeds goes on (`Step.Gives`), as long as
what it has to show can be shown. What a run says at its end are lines (`Options.report_eq`); nothing but
half a character stands against the estimate, but the line with the path of the output may be wrong as
markup. -/

namespace ToolSchema.Command

namespace Step

variable {α β : Type} {machine : Machine} {tree : FileTree} {stops : Ending → FileTree → Prop}

theorem bind_apply (first : Step α) (next : α → Step β) (progress : Progress) :
    (first >>= next) progress =
      match first progress with
      | (.error ending, after) => (.error ending, after)
      | (.ok value, after) => next value after := rfl

instance : LawfulMonad Step :=
  LawfulMonad.mk' Step
    (fun step => funext fun progress => by
      change (step >>= pure) progress = step progress
      rw [bind_apply]
      rcases step progress with ⟨_ | _, _⟩ <;> rfl)
    (fun _ _ => rfl)
    (fun first second third => funext fun progress => by
      simp only [bind_apply]
      rcases first progress with ⟨_ | _, _⟩ <;> rfl)

theorem bind_eq_ok_iff {first : Step α} {next : α → Step β} {progress after : Progress} {result : β} :
    (first >>= next) progress = (.ok result, after) ↔
      ∃ value reached, first progress = (.ok value, reached) ∧
        next value reached = (.ok result, after) := by
  rw [bind_apply]
  rcases first progress with ⟨_ | value, reached⟩
  · constructor
    · intro h
      cases h
    · rintro ⟨_, _, h, _⟩
      cases h
  · constructor
    · exact fun h => ⟨value, reached, rfl, h⟩
    · rintro ⟨_, _, h, hn⟩
      cases h
      exact hn

/-- From a tree a step stops the run in one way, or goes on in another. -/
def Yields (tree : FileTree) (stops : Ending → FileTree → Prop) (goes : α → FileTree → Prop)
    (step : Step α) : Prop :=
  ∀ progress, progress.tree = tree →
    match step progress with
    | (.error ending, after) => stops ending after.tree
    | (.ok value, after) => goes value after.tree

section Yields

variable {goes : α → FileTree → Prop}

theorem bind_yields {further : β → FileTree → Prop} {first : Step α} {next : α → Step β}
    (hf : Yields tree stops goes first)
    (hn : ∀ value after, goes value after → Yields after stops further (next value)) :
    Yields tree stops further (first >>= next) := by
  intro progress hp
  have h := hf progress hp
  rw [bind_apply]
  rcases hr : first progress with ⟨result, after⟩
  rw [hr] at h
  cases result with
  | error ending => exact h
  | ok value => exact hn value after.tree h after rfl

theorem Yields.mono {further : α → FileTree → Prop} {step : Step α} (h : Yields tree stops goes step)
    (hg : ∀ value after, goes value after → further value after) : Yields tree stops further step := by
  intro progress hp
  have hstep := h progress hp
  rcases hr : step progress with ⟨result, after⟩
  rw [hr] at hstep
  cases result with
  | error ending => exact hstep
  | ok value => exact hg value after.tree hstep

theorem pure_yields {value : α} (h : goes value tree) : Yields tree stops goes (pure value) := by
  rintro progress rfl
  exact h

theorem finish_yields {ending : Ending} (h : stops ending tree) :
    Yields tree stops goes (finish ending) := by
  rintro progress rfl
  exact h

/-- A report ends the run as failed, unless it cannot be encoded. -/
theorem fail_yields {markup : String} (h : Console.Legible machine.columns markup)
    (hs : stops .failed tree) (hc : stops (.crashed (.markup .unencodable)) tree) :
    Yields tree stops goes (fail machine markup) := by
  unfold fail print
  cases hp : Console.plain machine.columns markup with
  | ok text =>
      rintro progress rfl
      exact hs
  | error error =>
      cases h error hp
      rintro progress rfl
      exact hc

theorem setTree_yields (tree after : FileTree) :
    Yields tree stops (fun _ found => found = after) (setTree after) :=
  fun _ _ => rfl

end Yields

/-- A step that only reads: the tree stays, and a run that ends here has failed. -/
def Keeps (tree : FileTree) (post : α → Prop) : Step α → Prop :=
  Yields tree (fun ending after => ending.exitCode ≠ 0 ∧ after = tree)
    fun value after => after = tree ∧ post value

variable {post : α → Prop}

theorem Keeps.yields {goes : α → FileTree → Prop} {step : Step α} (h : Keeps tree post step)
    (hs : ∀ ending, ending.exitCode ≠ 0 → stops ending tree)
    (hg : ∀ value, post value → goes value tree) : Yields tree stops goes step := by
  intro progress hp
  have hk := h progress hp
  rcases hr : step progress with ⟨result, after⟩
  rw [hr] at hk
  cases result with
  | error ending =>
      obtain ⟨hcode, hsame⟩ := hk
      change stops ending after.tree
      rw [hsame]
      exact hs ending hcode
  | ok value =>
      obtain ⟨hsame, hv⟩ := hk
      change goes value after.tree
      rw [hsame]
      exact hg value hv

/-- After a step that only reads, the run goes on from the same tree. -/
theorem Keeps.bind_yields {goes : β → FileTree → Prop} {first : Step α} {next : α → Step β}
    (hf : Keeps tree post first) (hs : ∀ ending, ending.exitCode ≠ 0 → stops ending tree)
    (hn : ∀ value, post value → Yields tree stops goes (next value)) :
    Yields tree stops goes (first >>= next) := by
  have hfirst : Yields tree stops (fun value after => after = tree ∧ post value) first :=
    hf.yields hs fun value hv => ⟨rfl, hv⟩
  apply Step.bind_yields hfirst
  rintro value after ⟨rfl, hv⟩
  exact hn value hv

theorem bind_keeps {further : β → Prop} {first : Step α} {next : α → Step β}
    (hf : Keeps tree post first) (hn : ∀ value, post value → Keeps tree further (next value)) :
    Keeps tree further (first >>= next) :=
  hf.bind_yields (fun _ hcode => ⟨hcode, rfl⟩) hn

theorem pure_keeps {value : α} (h : post value) : Keeps tree post (pure value) :=
  pure_yields ⟨rfl, h⟩

theorem tree_keeps : Keeps tree (· = tree) Step.tree := fun _ hp => ⟨hp, hp⟩

theorem setTree_keeps : Keeps tree (fun _ => True) (setTree tree) := fun _ _ => ⟨rfl, trivial⟩

theorem finish_keeps {ending : Ending} (h : ending.exitCode ≠ 0) :
    Keeps tree post (finish ending) :=
  finish_yields ⟨h, rfl⟩

theorem crash_keeps (cause : Crash) : Keeps tree post (crash cause) :=
  finish_keeps Nat.one_ne_zero

theorem showText_keeps (text : String) : Keeps tree (fun _ => True) (showText text) :=
  fun _ hp => ⟨hp, trivial⟩

theorem print_shows (markup : String) :
    Keeps tree (fun _ => Console.Showable machine.columns markup) (print machine markup) := by
  unfold print
  split
  · rename_i text ht
    exact (showText_keeps text).yields (fun _ hcode => ⟨hcode, rfl⟩) fun _ _ => ⟨rfl, text, ht⟩
  · exact crash_keeps _

theorem print_keeps (markup : String) : Keeps tree (fun _ => True) (print machine markup) :=
  (print_shows markup).yields (fun _ hcode => ⟨hcode, rfl⟩) fun _ _ => ⟨rfl, trivial⟩

theorem printEach_shows (lines : List String) :
    Keeps tree (fun _ => ∀ line ∈ lines, Console.Showable machine.columns line)
      (lines.forM (print machine)) := by
  induction lines with
  | nil => exact pure_keeps fun _ hm => absurd hm List.not_mem_nil
  | cons line rest ih =>
      refine bind_keeps (print_shows line) fun _ hline => ?_
      exact ih.yields (fun _ hcode => ⟨hcode, rfl⟩) fun _ hrest =>
        ⟨rfl, List.forall_mem_cons.mpr ⟨hline, hrest⟩⟩

theorem fail_keeps (markup : String) : Keeps tree post (fail machine markup) :=
  bind_keeps (print_keeps markup) fun _ _ => finish_keeps Nat.one_ne_zero

/-! ### Steps that go on -/

/-- From a tree a step goes on with a value and a tree, whatever has been shown before. -/
def Gives (tree after : FileTree) (value : α) (step : Step α) : Prop :=
  ∀ shown, ∃ more, step ⟨shown, tree⟩ = (.ok value, ⟨more, after⟩)

variable {middle after : FileTree}

theorem bind_gives {first : Step α} {next : α → Step β} {value : α} {result : β}
    (hf : Gives tree middle value first) (hn : Gives middle after result (next value)) :
    Gives tree after result (first >>= next) := by
  intro shown
  obtain ⟨more, hr⟩ := hf shown
  rw [bind_apply, hr]
  exact hn more

theorem pure_gives (tree : FileTree) (value : α) : Gives tree tree value (pure value) :=
  fun shown => ⟨shown, rfl⟩

theorem tree_gives (tree : FileTree) : Gives tree tree tree Step.tree := fun shown => ⟨shown, rfl⟩

theorem setTree_gives (tree after : FileTree) : Gives tree after () (setTree after) :=
  fun shown => ⟨shown, rfl⟩

theorem print_gives {markup : String} (h : Console.Showable machine.columns markup) (tree : FileTree) :
    Gives tree tree () (print machine markup) := by
  obtain ⟨text, ht⟩ := h
  intro shown
  refine ⟨shown ++ text, ?_⟩
  rw [print, ht]
  rfl

theorem printEach_gives {lines : List String}
    (h : ∀ line ∈ lines, Console.Showable machine.columns line) (tree : FileTree) :
    Gives tree tree () (lines.forM (print machine)) := by
  induction lines with
  | nil => exact pure_gives tree ()
  | cons line rest ih =>
      obtain ⟨hline, hrest⟩ := List.forall_mem_cons.mp h
      exact bind_gives (print_gives hline tree) (ih hrest)

/-- From a tree a step stops the run, whatever has been shown before. -/
def Stops (tree after : FileTree) (ending : Ending) (step : Step α) : Prop :=
  ∀ shown, ∃ more, step ⟨shown, tree⟩ = (.error ending, ⟨more, after⟩)

theorem Stops.bind {first : Step α} {next : α → Step β} {ending : Ending}
    (h : Stops tree after ending first) : Stops tree after ending (first >>= next) := by
  intro shown
  obtain ⟨more, hr⟩ := h shown
  exact ⟨more, by rw [bind_apply, hr]⟩

end Step

open Step (Keeps Yields Gives Stops bind_keeps pure_keeps tree_keeps setTree_keeps crash_keeps
  showText_keeps print_keeps printEach_shows fail_keeps bind_gives pure_gives tree_gives setTree_gives
  print_gives printEach_gives)

/-! ### Lines that can be shown -/

open Console (IsStyle IsTagless IsVerbatim isStyle_of_mem Passes passes_plain passes_within isPlain_digits
  legible_of_passes)

section Lines

variable {width : Nat}

theorem legible_reportWriting (path : FilePath) (refusal : OsError) :
    Console.Legible width (reportWriting path refusal) := by
  have hlead : Console.isPlain "Error writing output file: " = true := by decide
  exact Console.legible_in_style Console.red_opens hlead (refusal.writeMessage path)

/-- What a line says of the format can be shown, if the format is a plain word. -/
theorem showable_headline (count : Nat) {format : String} (h : Console.isPlain format = true)
    (hw : ':' ∉ format.toList ∧ Text.halfSign ∉ format.toList) :
    Console.Showable width (headline count format) := by
  have hgreen : IsStyle "bold green" := isStyle_of_mem (by decide)
  have hyellow : IsStyle "yellow" := isStyle_of_mem (by decide)
  have hname : Passes none none
      ("🛠  " ++ "[" ++ "bold green" ++ "]" ++ "schema-forge" ++ "[/]" ++ ": ").toList :=
    passes_within hgreen (by decide) (by decide) (by decide)
  have hformat : Passes none none
      (" target(s) as " ++ "[" ++ "yellow" ++ "]" ++ format ++ "[/]" ++ "").toList :=
    passes_within hyellow (by decide) h rfl
  have hline := hname.append ((passes_plain (isPlain_digits count) none).append hformat)
  have hfirst : "🛠  " ++ "[" ++ "bold green" ++ "]" ++ "schema-forge" ++ "[/]" ++ ": " =
      "🛠  [bold green]schema-forge[/]: " := by decide
  have hlast : " target(s) as " ++ "[" ++ "yellow" ++ "]" = " target(s) as [yellow]" := by decide
  rw [hfirst, hlast, String.append_empty] at hline
  have hchars : (headline count format).toList = "🛠  [bold green]schema-forge[/]: ".toList ++
      ((toString count).toList ++ (" target(s) as [yellow]" ++ format ++ "[/]").toList) := by
    rw [← String.toList_append, ← String.toList_append, ← String.append_assoc, ← String.append_assoc,
      ← String.append_assoc]
    rfl
  have hlegible : Console.Legible width (headline count format) := legible_of_passes (hchars ▸ hline)
  have hdigits := Console.isVerbatim_digits count
  have hcolon : ':' ∉ (toString count).toList := fun hc =>
    absurd (Console.isDigit_of_mem_digits hc) (by decide)
  refine hlegible.showable ?_ ?_
  · simp only [hchars, String.toList_append, List.mem_append, not_or]
    exact ⟨by decide, hdigits.whole, ⟨by decide, hw.2⟩, by decide⟩
  · simp only [hchars, String.toList_append, List.count_append]
    rw [List.count_eq_zero_of_not_mem hcolon, List.count_eq_zero_of_not_mem hw.1]
    decide

/-- The line that tells where the output is; the path is taken as markup. -/
def savedLine (path : FilePath) : String := s!"   Output saved to: [bold yellow]{path}[/]"

/-- The lines before it. -/
def heading (count : Nat) : List String :=
  ["\n✅ Successfully generated schema!", s!"   Definitions: [cyan]{count}[/]"]

theorem showable_heading (count : Nat) : ∀ line ∈ heading count, Console.Showable width line := by
  have hdone : Passes none none "\n✅ Successfully generated schema!".toList :=
    passes_plain (by decide) none
  have hdone' : Console.Legible width "\n✅ Successfully generated schema!" := legible_of_passes hdone
  have hcyan : IsStyle "cyan" := isStyle_of_mem (by decide)
  have hbefore : IsVerbatim "   Definitions: ".toList := by decide +kernel
  have hcount : Console.Showable width
      ("   Definitions: " ++ "[" ++ "cyan" ++ "]" ++ toString count ++ "[/]") :=
    ⟨_, Console.plain_verbatim hcyan (by decide) hbefore (Console.isVerbatim_digits count)⟩
  have htag : "   Definitions: " ++ "[" ++ "cyan" ++ "]" = "   Definitions: [cyan]" := by decide
  rw [htag] at hcount
  exact List.forall_mem_cons.mpr ⟨hdone'.showable (by decide) (by decide),
    List.forall_mem_singleton.mpr hcount⟩

theorem savedLine_eq (path : FilePath) :
    savedLine path = "   Output saved to: " ++ "[" ++ "bold yellow" ++ "]" ++ toString path ++ "[/]" := by
  have htag : "   Output saved to: " ++ "[" ++ "bold yellow" ++ "]" =
      "   Output saved to: [bold yellow]" := by decide
  rw [htag]
  rfl

theorem summary_eq (count : Nat) (path : FilePath) :
    summary count path = heading count ++ [savedLine path] := by
  unfold summary heading savedLine
  rfl

theorem isVerbatim_saved : IsVerbatim "   Output saved to: ".toList := by decide +kernel

theorem showable_savedLine {path : FilePath} (h : IsVerbatim (toString path).toList) :
    Console.Showable width (savedLine path) := by
  have hyellow : IsStyle "bold yellow" := isStyle_of_mem (by decide)
  rw [savedLine_eq]
  exact ⟨_, Console.plain_verbatim hyellow (by decide) isVerbatim_saved h⟩

theorem showable_summary (count : Nat) {path : FilePath} (h : IsVerbatim (toString path).toList) :
    ∀ line ∈ summary count path, Console.Showable width line := by
  rw [summary_eq]
  exact List.forall_mem_append.mpr
    ⟨showable_heading count, List.forall_mem_singleton.mpr (showable_savedLine h)⟩

/-- The line that is shown of the tokens of a document: their number, or why there is none to be shown. -/
inductive Estimates (width : Nat) (tokenizer : Tokenizer) (document : Json) (model : String) :
    String → Prop
  | counted {estimate} (h : estimateTokens tokenizer document model = .ok estimate)
      (hl : Console.Legible width (footprint estimate.count model)) :
      Estimates width tokenizer document model (footprint estimate.count model)
  | refused {complaint} (h : estimateTokens tokenizer document model = .error complaint) :
      Estimates width tokenizer document model (warnEstimate complaint)
  | unshowable {estimate error complaint} (h : estimateTokens tokenizer document model = .ok estimate)
      (he : Console.plain width (footprint estimate.count model) = .error error)
      (hm : error.message? = some complaint) :
      Estimates width tokenizer document model (warnEstimate complaint)

end Lines

/-- What is shown of the estimate is one line. -/
theorem showEstimate_eq (machine : Machine) (tokenizer : Tokenizer) (document : Json)
    (model : String) :
    ∃ line, Estimates machine.columns tokenizer document model line ∧
      showEstimate machine tokenizer document model = Step.print machine line := by
  unfold showEstimate
  cases hestimate : estimateTokens tokenizer document model with
  | error complaint => exact ⟨_, .refused hestimate, rfl⟩
  | ok estimate =>
      dsimp only
      cases hplain : Console.plain machine.columns (footprint estimate.count model) with
      | ok text =>
          refine ⟨_, .counted hestimate fun error he => ?_, ?_⟩
          · cases hplain.symm.trans he
          · rw [Step.print, hplain]
      | error error =>
          dsimp only
          cases hm : error.message? with
          | some complaint => exact ⟨_, .unshowable hestimate hplain hm, rfl⟩
          | none =>
              have hencoding : error = .unencodable := by
                cases error with
                | unencodable => rfl
                | _ => cases hm
              refine ⟨_, .counted hestimate fun other ho => ?_, ?_⟩
              · cases hplain.symm.trans ho
                exact hencoding
              · rw [Step.print, hplain]

/-- The lines about what has been selected. -/
def notices (selection : Selection) : List String :=
  (if selection.missing.isEmpty then [] else [warnMissing selection.missing]) ++
    if selection.targets.isEmpty then [warnEmpty] else []

theorem select_eq (machine : Machine) (journal : Journal) (set : DescriptorSet)
    (names : List String) :
    select machine journal set names = (do
      journal.record (set.select names).warnings
      (notices (set.select names)).forM (Step.print machine)
      return set.select names) := by
  unfold select notices
  dsimp only
  cases (set.select names).missing.isEmpty <;> cases (set.select names).targets.isEmpty <;>
    simp only [Bool.not_true, Bool.not_false, if_true, if_false, Bool.false_eq_true,
      List.forM_eq_forM, List.nil_append, List.cons_append, List.append_nil, List.forM_cons,
      List.forM_nil, bind_assoc, pure_bind]

/-! ### The stages of a run -/

section Stages

variable {machine : Machine} {tree : FileTree} {journal : Journal}

theorem record_keeps (hj : journal.place = none) (entries : List Log.Entry) :
    Keeps tree (fun _ => True) (journal.record entries) := by
  unfold Journal.record
  apply bind_keeps tree_keeps
  rintro current rfl
  have he : journal.extended entries current = current := by rw [Journal.extended, hj]
  rw [he]
  exact setTree_keeps

theorem follow_keeps {ε α : Type} (hj : journal.place = none) (computation : Logged ε α) :
    Keeps tree (· = computation.result) (journal.follow computation) :=
  bind_keeps (record_keeps hj _) fun _ _ => pure_keeps rfl

theorem start_keeps {options : Options} (h : options.log = none) (time : String) :
    Keeps tree (fun journal => journal.place = none) (Journal.start options time) := by
  unfold Journal.start
  rw [h]
  exact pure_keeps rfl

theorem settle_keeps (hj : journal.place = none) (surroundings : Surroundings) :
    Keeps tree (fun settings =>
        (Settings.load surroundings.machine tree (Settings.path surroundings.settingsFile)).result =
          .ok settings)
      (settle surroundings journal) := by
  unfold settle
  apply bind_keeps tree_keeps
  rintro _ rfl
  apply bind_keeps (follow_keeps hj _)
  rintro result rfl
  split
  · rename_i settings hs
    exact pure_keeps hs
  · exact crash_keeps _

theorem load_keeps (hj : journal.place = none) (input : Input) :
    Keeps tree (fun set => (loadInput machine tree input).result = .ok set)
      (load machine journal input) := by
  unfold load
  apply bind_keeps tree_keeps
  rintro _ rfl
  apply bind_keeps (follow_keeps hj _)
  rintro result rfl
  split
  · rename_i set hs
    exact pure_keeps hs
  · exact fail_keeps _
  · exact crash_keeps _

theorem select_keeps (hj : journal.place = none) (set : DescriptorSet) (names : List String) :
    Keeps tree (fun selection => selection = set.select names ∧
        ∀ line ∈ notices selection, Console.Showable machine.columns line)
      (select machine journal set names) := by
  rw [select_eq]
  apply bind_keeps (record_keeps hj _)
  intro _ _
  apply bind_keeps (printEach_shows _)
  exact fun _ hnotices => pure_keeps ⟨rfl, hnotices⟩

theorem generate_keeps (hj : journal.place = none) (targets : List Record) (set : DescriptorSet)
    (format : String) :
    Keeps tree (fun entries => (buildDocument targets set.enums format).result = .ok entries)
      (generate machine journal targets set format) := by
  unfold generate
  apply bind_keeps (follow_keeps hj _)
  rintro result rfl
  split
  · rename_i entries he
    exact pure_keeps he
  · exact fail_keeps _

/-! What succeeds goes on. -/

theorem record_gives (hj : journal.place = none) (entries : List Log.Entry) :
    Gives tree tree () (journal.record entries) := by
  have he : journal.extended entries tree = tree := by rw [Journal.extended, hj]
  unfold Journal.record
  apply bind_gives (tree_gives tree)
  rw [he]
  exact setTree_gives tree tree

theorem follow_gives {ε α : Type} (hj : journal.place = none) (computation : Logged ε α) :
    Gives tree tree computation.result (journal.follow computation) :=
  bind_gives (record_gives hj _) (pure_gives tree _)

theorem start_gives {options : Options} (h : options.log = none) (time : String) :
    Gives tree tree ⟨none, options.verbose, time⟩ (Journal.start options time) := by
  unfold Journal.start
  rw [h]
  exact pure_gives tree _

theorem settle_gives (hj : journal.place = none) {surroundings : Surroundings} {settings : Settings}
    (h : (Settings.load surroundings.machine tree (Settings.path surroundings.settingsFile)).result =
      .ok settings) :
    Gives tree tree settings (settle surroundings journal) := by
  unfold settle
  apply bind_gives (tree_gives tree)
  apply bind_gives (follow_gives hj _)
  rw [h]
  exact pure_gives tree settings

theorem load_gives (hj : journal.place = none) {input : Input} {set : DescriptorSet}
    (h : (loadInput machine tree input).result = .ok set) :
    Gives tree tree set (load machine journal input) := by
  unfold load
  apply bind_gives (tree_gives tree)
  apply bind_gives (follow_gives hj _)
  rw [h]
  exact pure_gives tree set

theorem select_gives (hj : journal.place = none) (set : DescriptorSet) (names : List String)
    (h : ∀ line ∈ notices (set.select names), Console.Showable machine.columns line) :
    Gives tree tree (set.select names) (select machine journal set names) := by
  rw [select_eq]
  apply bind_gives (record_gives hj _)
  exact bind_gives (printEach_gives h tree) (pure_gives tree _)

theorem generate_gives (hj : journal.place = none) {targets : List Record} {set : DescriptorSet}
    {format : String} {entries : List Json}
    (h : (buildDocument targets set.enums format).result = .ok entries) :
    Gives tree tree entries (generate machine journal targets set format) := by
  unfold generate
  apply bind_gives (follow_gives hj _)
  rw [h]
  exact pure_gives tree entries

theorem writeOutput_gives {after : FileTree} {encoding : Json.Encoding} {path : FilePath}
    {document : Json} {text : String} (h : encoding.encode machine.memory document = .ok text)
    (hh : Text.holdsHalf text.toList = false) (hw : tree.writeText path text = (after, .ok ())) :
    Gives tree after () (writeOutput machine encoding path document) := by
  unfold writeOutput
  rw [h]
  apply bind_gives (tree_gives tree)
  dsimp only
  rw [hh, if_neg Bool.false_ne_true, hw]
  exact bind_gives (setTree_gives tree after) (pure_gives after ())

end Stages

/-! ### The two parts of a run -/

/-- What a run has made when its output is written. -/
structure Product where
  settings : Settings
  entries : List Json

namespace Options

variable {options : Options} {machine : Machine} {tokenizer : Tokenizer} {product : Product}
  {tree : FileTree}

/-- A run up to the writing of its output. -/
def deliver (options : Options) (surroundings : Surroundings) : Step Product := do
  let journal ← Journal.start options surroundings.time
  let settings ← settle surroundings journal
  match settings.choose (asked options.format) options.pretty with
  | .error error => Step.crash (.format error)
  | .ok choice =>
    let machine := surroundings.machine
    Step.print machine (headline options.names.length choice.format)
    let set ← load machine journal options.input
    let selection ← select machine journal set options.names
    let entries ← generate machine journal selection.targets set choice.format
    writeOutput machine (settings.encoding choice.pretty) options.output (.arr entries)
    return ⟨settings, entries⟩

/-- What a run says once its output is written. -/
def report (options : Options) (machine : Machine) (tokenizer : Tokenizer) (product : Product) :
    Step Unit := do
  (summary product.entries.length options.output).forM (Step.print machine)
  if options.estimate then
    showEstimate machine tokenizer (.arr product.entries) product.settings.tokenModel

theorem run_eq (options : Options) (surroundings : Surroundings) :
    options.run surroundings =
      options.deliver surroundings >>=
        options.report surroundings.machine surroundings.tokenizer := by
  unfold run deliver
  simp only [bind_assoc]
  congr 1
  funext journal
  congr 1
  funext settings
  cases settings.choose (asked options.format) options.pretty with
  | error error => rfl
  | ok choice => simp only [bind_assoc, pure_bind]; rfl

/-- What a report has behind the line with the path: a line about the tokens if that is asked for. -/
structure Estimated (options : Options) (machine : Machine) (tokenizer : Tokenizer)
    (product : Product) (lines : List String) : Prop where
  unasked : options.estimate = false → lines = []
  asked : options.estimate = true → ∃ line, lines = [line] ∧
    Estimates machine.columns tokenizer (.arr product.entries) product.settings.tokenModel line

theorem report_of_no_estimate (h : options.estimate = false) :
    options.report machine tokenizer product =
      (summary product.entries.length options.output).forM (Step.print machine) := by
  simp [report, h]

/-- A report is a number of lines. -/
theorem report_eq (options : Options) (machine : Machine) (tokenizer : Tokenizer)
    (product : Product) :
    ∃ lines, options.Estimated machine tokenizer product lines ∧
      options.report machine tokenizer product =
        (summary product.entries.length options.output ++ lines).forM (Step.print machine) := by
  cases he : options.estimate with
  | false =>
      refine ⟨[], ⟨fun _ => rfl, fun h => ?_⟩, ?_⟩
      · rw [he] at h
        cases h
      · rw [report_of_no_estimate he, List.append_nil]
  | true =>
      obtain ⟨line, hl, hline⟩ := showEstimate_eq machine tokenizer (.arr product.entries)
        product.settings.tokenModel
      refine ⟨[line], ⟨fun h => ?_, fun _ => ⟨line, rfl, hl⟩⟩, ?_⟩
      · rw [he] at h
        cases h
      · simp [report, he, hline, List.forM_eq_forM]

theorem report_keeps {lines : List String}
    (h : options.report machine tokenizer product = lines.forM (Step.print machine)) :
    Keeps tree (fun _ => ∀ line ∈ lines, Console.Showable machine.columns line)
      (options.report machine tokenizer product) :=
  h ▸ printEach_shows lines

end Options

end ToolSchema.Command
