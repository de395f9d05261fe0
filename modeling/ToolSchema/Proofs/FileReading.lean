import ToolSchema.Descriptor.Loading
import ToolSchema.Proofs.DocumentEntries
import ToolSchema.Proofs.ReadValues
import ToolSchema.Proofs.RefusedSearches
import ToolSchema.Settings

/-! What the bytes of a file come to. They are no text, or a text that is no JSON, or one with a number
of too many digits or too many containers inside of each other, or a value (`Json.ofBytes`). Only no
text, too many digits and too many containers interrupt (`Interrupts`) what reads the file, be it for
descriptors or for settings; everything else is answered for, but for a value in place of a setting that
is too deep to be shown (`Settings.Unshown`). A directory is interrupted by a search that is refused, or
by the first of its files that is not answered for. -/

namespace ToolSchema

namespace Json

/-! ### Too many containers inside of each other -/

/-- Whether a word opens a container. -/
def Token.opens : Token → Bool
  | .openBracket | .openBrace => true
  | _ => false

/-- How many containers are open. -/
def ReadState.open_ (state : ReadState) : Nat :=
  state.frames.length + match state.expected with
    | .firstItem | .firstKey | .key _ | .colon _ _ => 1
    | .value | .follower _ => 0

/-- A word opens one container at most. -/
theorem ReadState.open_of_step {state next : ReadState} {token : Token}
    (h : state.step token = .ok next) :
    next.open_ ≤ state.open_ + if token.opens then 1 else 0 := by
  have hbegin : ∀ frames, beginValue frames token = .ok next →
      next.open_ ≤ frames.length + if token.opens then 1 else 0 := by
    intro frames hb
    cases token <;> cases hb <;> simp [open_, Token.opens, completed]
  obtain ⟨expected, frames⟩ := state
  unfold step at h
  cases expected with
  | value => exact hbegin _ h
  | firstItem =>
      dsimp only at h
      split at h
      · cases h
        simp [open_, completed, Token.opens]
      · exact hbegin _ h
  | firstKey | key | colon | follower =>
      dsimp only at h
      split at h <;> cases h <;> simp [open_, completed, Token.opens]

theorem ReadState.ne_overdeep_of_step {state : ReadState} {token : Token} {kind : Kind} :
    state.step token ≠ .error (.overdeep kind) := by
  intro h
  have hbegin : ∀ frames, beginValue frames token ≠ .error (.overdeep kind) := by
    intro frames hb
    cases token <;> cases hb
  unfold step at h
  split at h
  · exact hbegin _ h
  · split at h
    · cases h
    · exact hbegin _ h
  all_goals
    split at h <;> cases h

theorem ReadState.open_of_opened {nesting : Nat} {state : ReadState} {kind : Kind}
    (h : state.overdeep? nesting = some kind) : nesting < state.open_ := by
  obtain ⟨expected, frames⟩ := state
  obtain ⟨hopened, hroom⟩ := Option.filter_eq_some_iff.mp h
  have hfull : nesting ≤ frames.length := by simpa using hroom
  cases expected <;> cases hopened <;> exact Nat.lt_succ_of_le hfull

theorem ReadState.open_of_overdeep {nesting : Nat} {state : ReadState} {tokens : List Token}
    {kind : Kind} (h : state.runWithin nesting tokens = .error (.overdeep kind)) :
    nesting < state.open_ + tokens.countP Token.opens := by
  induction tokens generalizing state with
  | nil =>
      rw [runWithin, finish] at h
      split at h <;> cases h
  | cons token rest ih =>
      rw [runWithin] at h
      split at h
      · cases h
        exact absurd ‹_› ne_overdeep_of_step
      · rename_i next hstep
        have hopen := open_of_step hstep
        rw [List.countP_cons]
        split at h
        · have := open_of_opened ‹_›
          omega
        · have := ih h
          omega

/-- A text of containers too deep inside of each other opens more of them than there is room for. -/
theorem opens_of_readWithin {nesting : Nat} {text : String} {kind : Kind}
    (h : readWithin nesting text = .error (.overdeep kind)) :
    nesting < (Token.scan text.toList).countP Token.opens := by
  have hopen := ReadState.open_of_overdeep h
  rwa [show ReadState.start.open_ = 0 from rfl, Nat.zero_add] at hopen

end Json

/-! ### Bytes -/

theorem fromUTF8?_toUTF8 (text : String) : String.fromUTF8? text.toUTF8 = some text :=
  dif_pos text.isValidUTF8

variable {machine : Machine}

theorem Json.ofBytes_toUTF8 {text : String} {value : Json}
    (h : Json.readWithin machine.nesting text = .ok value) :
    Json.ofBytes machine text.toUTF8 = .ok value := by
  rw [Json.ofBytes, fromUTF8?_toUTF8]
  dsimp only
  rw [h]

theorem Json.readable_of_ofBytes {content : ByteArray} {value : Json}
    (h : Json.ofBytes machine content = .ok value) : value.Readable := by
  unfold Json.ofBytes at h
  split at h
  · cases h
  · split at h
    · rename_i value hread
      cases h
      exact Json.readable_of_read (Json.read_of_readWithin hread)
    all_goals cases h

theorem Json.ofBytes_compactText {value : Json} (h : value.isTextual = true)
    (hroom : value.depth ≤ machine.nesting) :
    Json.ofBytes machine value.compactText.toUTF8 = .ok value :=
  Json.ofBytes_toUTF8
    (Json.readWithin_write Json.Layout.compact_blank (Json.textual_of_isTextual h) hroom)

/-- What an error interrupts with, if nobody answers for it. -/
def JsonFileError.interruption? : JsonFileError → Option Interruption
  | .refused _ | .invalid _ => none
  | .undecodable => some .undecodable
  | .unnameable => some .unnameable
  | .oversizedInteger digits => some (.oversizedInteger digits)
  | .overdeep kind => some (.overdeep kind)

/-- Bytes for which nothing that reads them has an answer. -/
inductive Interrupts (machine : Machine) (content : ByteArray) : Interruption → Prop
  | undecodable (h : String.fromUTF8? content = none) : Interrupts machine content .undecodable
  | oversized {text digits} (ht : String.fromUTF8? content = some text)
      (h : Json.readWithin machine.nesting text = .error (.oversized digits)) :
      Interrupts machine content (.oversizedInteger digits)
  | overdeep {text kind} (ht : String.fromUTF8? content = some text)
      (h : Json.readWithin machine.nesting text = .error (.overdeep kind)) :
      Interrupts machine content (.overdeep kind)

theorem interrupts_iff {content : ByteArray} {cause : Interruption} :
    Interrupts machine content cause ↔
      ∃ error, Json.ofBytes machine content = .error error ∧ error.interruption? = some cause := by
  constructor
  · rintro (h | ⟨ht, h⟩ | ⟨ht, h⟩)
    · exact ⟨.undecodable, by rw [Json.ofBytes, h], rfl⟩
    · refine ⟨.oversizedInteger _, ?_, rfl⟩
      rw [Json.ofBytes, ht]
      dsimp only
      rw [h]
    · refine ⟨.overdeep _, ?_, rfl⟩
      rw [Json.ofBytes, ht]
      dsimp only
      rw [h]
  · rintro ⟨error, h, hc⟩
    unfold Json.ofBytes at h
    split at h
    · cases h
      cases hc
      exact .undecodable ‹_›
    · split at h
      · cases h
      · cases h
        cases hc
      · cases h
        cases hc
        exact .oversized ‹_› ‹_›
      · cases h
        cases hc
        exact .overdeep ‹_› ‹_›

/-! ### Files -/

namespace FileTree

variable {tree : FileTree} {path : FilePath} {content : ByteArray}

theorem isNameable_of_status {node : Node} (h : tree.status path = .ok node) :
    path.isNameable = true := by
  obtain ⟨place, hl⟩ := status_eq_ok_iff.mp h
  exact (locate_eq_ok_iff.mp hl).1

theorem readFile_of_status (h : tree.status path = .ok (.file content)) :
    tree.readFile path = .ok content := by
  rw [readFile, h]

theorem readFile_eq_ok_iff :
    tree.readFile path = .ok content ↔ tree.status path = .ok (.file content) := by
  refine ⟨fun h => ?_, readFile_of_status⟩
  unfold readFile at h
  split at h
  · cases h
    assumption
  · cases h
  · cases h

theorem readJson_of_readFile (hn : path.isNameable = true) (h : tree.readFile path = .ok content) :
    tree.readJson machine path = Json.ofBytes machine content := by
  rw [readJson, hn, h]
  rfl

theorem readJson_of_status (h : tree.status path = .ok (.file content)) :
    tree.readJson machine path = Json.ofBytes machine content :=
  readJson_of_readFile (isNameable_of_status h) (readFile_of_status h)

theorem readJson_of_refused {refusal : OsError} (hn : path.isNameable = true)
    (h : tree.readFile path = .error refusal) :
    tree.readJson machine path = .error (.refused refusal) := by
  rw [readJson, hn, h]
  rfl

theorem readJson_interrupted_iff {cause : Interruption} (hn : path.isNameable = true) :
    (∃ error, tree.readJson machine path = .error error ∧ error.interruption? = some cause) ↔
      ∃ content, tree.status path = .ok (.file content) ∧ Interrupts machine content cause := by
  simp only [interrupts_iff, ← readFile_eq_ok_iff]
  cases hr : tree.readFile path with
  | error refusal =>
      rw [readJson_of_refused hn hr]
      constructor
      · rintro ⟨_, he, hc⟩
        cases he
        cases hc
      · rintro ⟨_, hf, _⟩
        cases hf
  | ok content =>
      rw [readJson_of_readFile hn hr]
      constructor
      · exact fun h => ⟨content, rfl, h⟩
      · rintro ⟨_, hf, h⟩
        cases hf
        exact h

end FileTree

namespace DescriptorSet

variable {tree : FileTree} {path : FilePath} {cause : Interruption}

theorem loadFile_result (machine : Machine) (tree : FileTree) (path : FilePath) :
    (loadFile machine tree path).result = readFile machine tree path := by
  unfold loadFile
  cases readFile machine tree path <;> rfl

theorem readFile_of_value {content : ByteArray} {value : Json}
    (h : tree.status path = .ok (.file content)) (hv : Json.ofBytes machine content = .ok value) :
    readFile machine tree path =
      (ofJson value path.toString).mapError fun error => .error (.document error) := by
  rw [readFile, FileTree.readJson_of_status h, hv]
  rfl

theorem loadFile_of_ofJson {content : ByteArray} {value : Json} {set : DescriptorSet}
    (h : tree.status path = .ok (.file content)) (hv : Json.ofBytes machine content = .ok value)
    (hs : ofJson value path.toString = .ok set) : (loadFile machine tree path).result = .ok set := by
  rw [loadFile_result, readFile_of_value h hv, hs]
  rfl

theorem ofFile_eq_interrupted_iff {error : JsonFileError} :
    LoadFailure.ofFile path error = .interrupted cause ↔ error.interruption? = some cause := by
  cases error <;> simp [LoadFailure.ofFile, JsonFileError.interruption?]

theorem readFile_interrupted_iff (hn : path.isNameable = true) :
    readFile machine tree path = .error (.interrupted cause) ↔
      ∃ content, tree.status path = .ok (.file content) ∧ Interrupts machine content cause := by
  rw [← FileTree.readJson_interrupted_iff hn, readFile]
  simp only [bind_eq_error_iff, mapError_eq_error_iff, ofFile_eq_interrupted_iff]
  constructor
  · rintro (h | ⟨_, _, _, _, h⟩)
    · exact h
    · cases h
  · exact Or.inl

theorem loadEach_cons (machine : Machine) (tree : FileTree) (set : DescriptorSet) (path : FilePath)
    (rest : List FilePath) :
    (loadEach machine tree set (path :: rest)).result = (do
      let loaded ← readFile machine tree path
      let merged ← (set.merge loaded path.toString).mapError fun error =>
        LoadFailure.error (.document error)
      (loadEach machine tree merged rest).result) := by
  rw [loadEach, Logged.bind_result, loadFile_result]
  cases readFile machine tree path with
  | error failure => rfl
  | ok loaded => exact Logged.bind_result _ _

theorem loadEach_of_ok {set loaded merged : DescriptorSet} {rest : List FilePath}
    (hr : readFile machine tree path = .ok loaded) (hm : set.merge loaded path.toString = .ok merged) :
    (loadEach machine tree set (path :: rest)).result = (loadEach machine tree merged rest).result := by
  rw [loadEach_cons, hr]
  dsimp only [bind, Except.bind]
  rw [hm]
  rfl

theorem loadEach_of_error {set : DescriptorSet} {rest : List FilePath} {failure : LoadFailure}
    (hr : readFile machine tree path = .error failure) :
    (loadEach machine tree set (path :: rest)).result = .error failure := by
  rw [loadEach_cons, hr]
  rfl

/-- What one file adds to the descriptors of those before it. -/
def addFile (machine : Machine) (tree : FileTree) (set : DescriptorSet) (path : FilePath) :
    Except LoadFailure DescriptorSet := do
  let loaded ← readFile machine tree path
  (set.merge loaded path.toString).mapError fun error => .error (.document error)

theorem loadEach_result (machine : Machine) (tree : FileTree) (set : DescriptorSet)
    (files : List FilePath) :
    (loadEach machine tree set files).result = files.foldlM (addFile machine tree) set := by
  induction files generalizing set with
  | nil => rfl
  | cons path rest ih =>
      rw [loadEach_cons, List.foldlM_cons, addFile]
      simp only [ih]
      cases readFile machine tree path with
      | error failure => rfl
      | ok loaded => rfl

theorem addFile_interrupted_iff {set : DescriptorSet} (hn : path.isNameable = true) :
    addFile machine tree set path = .error (.interrupted cause) ↔
      ∃ content, tree.status path = .ok (.file content) ∧ Interrupts machine content cause := by
  rw [addFile, ← readFile_interrupted_iff hn]
  simp only [bind_eq_error_iff, mapError_eq_error_iff]
  constructor
  · rintro (h | ⟨_, _, _, _, h⟩)
    · exact h
    · cases h
  · exact Or.inl

/-- The first file that interrupts is the one that interrupts the whole, if all before it load. -/
theorem loadEach_interrupted_iff {files : List FilePath}
    (hn : ∀ file ∈ files, file.isNameable = true) (set : DescriptorSet) :
    (loadEach machine tree set files).result = .error (.interrupted cause) ↔
      ∃ front file back earlier content, files = front ++ file :: back ∧
        (loadEach machine tree set front).result = .ok earlier ∧
        tree.status file = .ok (.file content) ∧ Interrupts machine content cause := by
  simp only [loadEach_result, foldlM_eq_error_iff]
  constructor
  · rintro ⟨front, file, back, earlier, rfl, hf, hstep⟩
    have hfile := hn file (List.mem_append_right front List.mem_cons_self)
    obtain ⟨content, hs, hi⟩ := (addFile_interrupted_iff hfile).mp hstep
    exact ⟨front, file, back, earlier, content, rfl, hf, hs, hi⟩
  · rintro ⟨front, file, back, earlier, content, rfl, hf, hs, hi⟩
    have hfile := hn file (List.mem_append_right front List.mem_cons_self)
    exact ⟨front, file, back, earlier, rfl, hf,
      (addFile_interrupted_iff hfile).mpr ⟨content, hs, hi⟩⟩

theorem loadDirectory_result {place : Place} (hl : tree.locate path = .ok (.existing place .directory)) :
    (loadDirectory machine tree path).result = (do
      let files ← (tree.search machine path documentSuffix).mapError .interrupted
      (loadEach machine tree {} files).result) := by
  rw [loadDirectory, FileTree.isDirectory?_of_locate hl]
  dsimp only
  rw [Logged.bind_result]
  cases tree.search machine path documentSuffix with
  | error cause => rfl
  | ok files =>
      change Logged.result (if files.isEmpty then _ else _) = _
      split
      · exact Logged.bind_result _ _
      · rfl

theorem loadDirectory_of_search {place : Place} {files : List FilePath}
    (hl : tree.locate path = .ok (.existing place .directory))
    (hf : tree.search machine path documentSuffix = .ok files) :
    (loadDirectory machine tree path).result = (loadEach machine tree {} files).result := by
  rw [loadDirectory_result hl, hf]
  rfl

theorem loadDirectory_interrupted_iff (hs : tree.Sound) (h : tree.status path = .ok .directory) :
    (loadDirectory machine tree path).result = .error (.interrupted cause) ↔
      tree.search machine path documentSuffix = .error cause ∨
      ∃ front file back earlier content,
        tree.search machine path documentSuffix = .ok (front ++ file :: back) ∧
        (loadEach machine tree {} front).result = .ok earlier ∧
        tree.status file = .ok (.file content) ∧ Interrupts machine content cause := by
  obtain ⟨place, hd⟩ := FileTree.status_eq_ok_iff.mp h
  rw [loadDirectory_result hd]
  cases hsearch : tree.search machine path documentSuffix with
  | error refusal =>
      constructor
      · intro he
        cases he
        exact Or.inl rfl
      · rintro (he | ⟨_, _, _, _, _, he, -⟩) <;> cases he
        rfl
  | ok files =>
      have hfiles := FileTree.search_eq_ok hsearch
      have hn : ∀ file ∈ files, file.isNameable = true := by
        intro file hm
        rw [hfiles] at hm
        exact hs.isNameable_of_mem hd hm
      refine (loadEach_interrupted_iff hn {}).trans ?_
      constructor
      · rintro ⟨front, file, back, earlier, content, rfl, hf, hst, hi⟩
        exact Or.inr ⟨front, file, back, earlier, content, rfl, hf, hst, hi⟩
      · rintro (he | ⟨front, file, back, earlier, content, he, hf, hst, hi⟩)
        · cases he
        · cases he
          exact ⟨front, file, back, earlier, content, rfl, hf, hst, hi⟩

end DescriptorSet

namespace Settings

variable {tree : FileTree} {path : FilePath} {cause : Interruption}

variable {key : String} {value : Json} {members : List (String × Json)}

theorem accepts_of_unknown (h : defaults.find? key = none) (value : Json) :
    accepts key value = true := by
  unfold accepts rejection?
  rw [h]
  rfl

theorem accepts_of_kind_ne {standard : Json} (hd : defaults.find? key = some standard)
    (h : value.kind ≠ standard.kind) : accepts key value = false := by
  unfold accepts rejection?
  rw [hd]
  dsimp only
  rw [if_pos h]
  rfl

/-- What a setting takes has no parts. -/
theorem layers_of_accepts (hk : key ∈ defaults.keys) (h : accepts key value = true) :
    value.layers = 1 := by
  have hscalar : ∀ entry ∈ defaults, entry.2.kind ≠ .arr ∧ entry.2.kind ≠ .obj := by decide
  cases hd : defaults.find? key with
  | none => exact absurd hk (Table.find?_eq_none_iff.mp hd)
  | some standard =>
      obtain ⟨harr, hobj⟩ : standard.kind ≠ .arr ∧ standard.kind ≠ .obj :=
        hscalar _ (Table.mem_of_find? hd)
      cases value with
      | arr items =>
          have hne : (Json.arr items).kind ≠ standard.kind := harr.symm
          rw [accepts_of_kind_ne hd hne] at h
          cases h
      | obj members =>
          have hne : (Json.obj members).kind ≠ standard.kind := hobj.symm
          rw [accepts_of_kind_ne hd hne] at h
          cases h
      | _ => rfl

/-- Members among which a setting has a value of too many layers to be shown. -/
def Unshown (machine : Machine) (members : List (String × Json)) : Prop :=
  ∃ entry ∈ members, entry.1 ∈ defaults.keys ∧ machine.showing < entry.2.layers

instance (machine : Machine) (members : List (String × Json)) : Decidable (Unshown machine members) :=
  inferInstanceAs (Decidable (∃ entry ∈ members, _))

theorem check_result (machine : Machine) (path : FilePath) (entry : String × Json) :
    (check machine path entry).result =
      if entry.1 ∈ defaults.keys ∧ machine.showing < entry.2.layers then .error .overdeepValue
      else .ok () := by
  unfold check
  cases hr : rejection? entry.1 entry.2 with
  | none =>
      have ha : accepts entry.1 entry.2 = true := by rw [accepts, hr]; rfl
      have hshown : ¬(entry.1 ∈ defaults.keys ∧ machine.showing < entry.2.layers) := by
        rintro ⟨hk, hdeep⟩
        rw [layers_of_accepts hk ha] at hdeep
        exact absurd machine.showsScalars (Nat.not_le.mpr hdeep)
      rw [if_neg hshown]
      rfl
  | some rejection =>
      have hk : entry.1 ∈ defaults.keys := by
        by_contra hk
        have ha := accepts_of_unknown (Table.find?_eq_none_iff.mpr hk) entry.2
        rw [accepts, hr] at ha
        cases ha
      dsimp only
      by_cases hdeep : machine.showing < entry.2.layers
      · rw [if_pos hdeep, if_pos ⟨hk, hdeep⟩]
        rfl
      · rw [if_neg hdeep, if_neg fun h => hdeep h.2]
        rfl

theorem checkEach_result (machine : Machine) (path : FilePath) (members : List (String × Json)) :
    (members.forM (check machine path)).result =
      if Unshown machine members then .error .overdeepValue else .ok () := by
  induction members with
  | nil => rfl
  | cons entry rest ih =>
      have hcons : Unshown machine (entry :: rest) ↔
          (entry.1 ∈ defaults.keys ∧ machine.showing < entry.2.layers) ∨ Unshown machine rest :=
        List.exists_mem_cons_iff _ _ _
      rw [List.forM_eq_forM, List.forM_cons, Logged.bind_result, check_result, ← List.forM_eq_forM, ih]
      by_cases he : entry.1 ∈ defaults.keys ∧ machine.showing < entry.2.layers
      · rw [if_pos he, if_pos (hcons.mpr (Or.inl he))]
        rfl
      · simp only [hcons, he, false_or]
        rfl

theorem ofFile_result (machine : Machine) (path : FilePath) (members : List (String × Json)) :
    (ofFile machine path (.obj members)).result =
      if Unshown machine members then .error .overdeepValue else .ok (defaults.override members) := by
  rw [ofFile, Logged.bind_result, checkEach_result]
  split <;> rfl

theorem ofFile_of_other (machine : Machine) (path : FilePath) (h : value.kind ≠ .obj) :
    (ofFile machine path value).result = .ok defaults := by
  cases value with
  | obj => exact absurd rfl h
  | _ => rfl

theorem exists?_of_status {node : Node} (h : tree.status path = .ok node) :
    tree.exists? path = .ok true := by
  rw [FileTree.exists?, FileTree.holds, h]

/-- A file that is no JSON changes nothing. -/
theorem load_of_invalid {content : ByteArray} {complaint : Json.Complaint}
    (h : tree.status path = .ok (.file content))
    (hj : Json.ofBytes machine content = .error (.invalid complaint)) :
    (load machine tree path).result = .ok defaults := by
  rw [load, exists?_of_status h]
  dsimp only
  rw [FileTree.readJson_of_status h, hj]
  rfl

theorem load_of_value {content : ByteArray} (h : tree.status path = .ok (.file content))
    (hj : Json.ofBytes machine content = .ok value) :
    load machine tree path = ofFile machine path value := by
  rw [load, exists?_of_status h]
  dsimp only
  rw [FileTree.readJson_of_status h, hj]

theorem load_of_object {content : ByteArray} (h : tree.status path = .ok (.file content))
    (hj : Json.ofBytes machine content = .ok (.obj members)) (hs : ¬Unshown machine members) :
    (load machine tree path).result = .ok (defaults.override members) := by
  rw [load_of_value h hj, ofFile_result, if_neg hs]

/-- Which contents of their file keep settings from being loaded: those that interrupt every reading,
and an object with a value that the log would have to show and cannot. -/
inductive Prevents (machine : Machine) (content : ByteArray) : Interruption → Prop
  | reading {cause : Interruption} (h : Interrupts machine content cause) : Prevents machine content cause
  | showing {members : List (String × Json)} (hj : Json.ofBytes machine content = .ok (.obj members))
      (hu : Unshown machine members) : Prevents machine content .overdeepValue

theorem ofFile_interrupted_iff :
    (ofFile machine path value).result = .error cause ↔
      ∃ members, value = .obj members ∧ Unshown machine members ∧ cause = .overdeepValue := by
  by_cases hv : value.kind = .obj
  · cases value with
    | obj members =>
        rw [ofFile_result]
        by_cases hu : Unshown machine members
        · simp [hu, eq_comm]
        · simp [hu]
    | _ => cases hv
  · rw [ofFile_of_other machine path hv]
    constructor
    · intro h
      cases h
    · rintro ⟨members, rfl, -⟩
      exact absurd rfl hv

theorem load_interrupted_iff {content : ByteArray} (h : tree.status path = .ok (.file content)) :
    (load machine tree path).result = .error cause ↔ Prevents machine content cause := by
  cases hj : Json.ofBytes machine content with
  | ok value =>
      rw [load_of_value h hj, ofFile_interrupted_iff]
      constructor
      · rintro ⟨members, rfl, hu, rfl⟩
        exact .showing hj hu
      · intro hp
        cases hp with
        | reading hi =>
            obtain ⟨error, he, -⟩ := interrupts_iff.mp hi
            cases hj.symm.trans he
        | showing hm hu =>
            cases hj.symm.trans hm
            exact ⟨_, rfl, hu, rfl⟩
  | error error =>
      have hsame : Prevents machine content cause ↔ error.interruption? = some cause := by
        constructor
        · intro hp
          cases hp with
          | reading hi =>
              obtain ⟨_, he, hc⟩ := interrupts_iff.mp hi
              cases hj.symm.trans he
              exact hc
          | showing hm => cases hj.symm.trans hm
        · exact fun hc => .reading (interrupts_iff.mpr ⟨error, hj, hc⟩)
      rw [hsame, load, exists?_of_status h]
      dsimp only
      rw [FileTree.readJson_of_status h, hj]
      cases error with
      | refused refusal => constructor <;> intro h <;> cases h
      | invalid => constructor <;> intro h <;> cases h
      | undecodable => simp [JsonFileError.interruption?, Logged.fail]
      | unnameable => simp [JsonFileError.interruption?, Logged.fail]
      | oversizedInteger digits => simp [JsonFileError.interruption?, Logged.fail]
      | overdeep kind => simp [JsonFileError.interruption?, Logged.fail]

end Settings

/-- Whatever is asked of a file, descriptors or settings, is answered for all bytes but those that
interrupt, which are no text, hold a number of too many digits or open too many containers; of settings
those are left out as well that the log cannot show, and those that are no JSON are the defaults. A
directory is answered for if nothing stands in the way of its search, up to the first file with bytes
that interrupt. -/
theorem loading_interrupted_iff (machine : Machine) (tree : FileTree) (path : FilePath)
    (cause : Interruption) :
    (∀ content, tree.status path = .ok (.file content) →
      ((DescriptorSet.loadFile machine tree path).result = .error (.interrupted cause) ↔
        Interrupts machine content cause) ∧
      ((Settings.load machine tree path).result = .error cause ↔
        Settings.Prevents machine content cause) ∧
      ∀ complaint, Json.ofBytes machine content = .error (.invalid complaint) →
        (Settings.load machine tree path).result = .ok Settings.defaults) ∧
    (tree.Sound → ∀ place, tree.locate path = .ok (.existing place .directory) →
      let searched := tree.search machine path DescriptorSet.documentSuffix
      let obstacle := tree.Obstacle DescriptorSet.documentSuffix machine.directories path place
      ((DescriptorSet.loadDirectory machine tree path).result = .error (.interrupted cause) ↔
        searched = .error cause ∨
        ∃ front file back earlier content, searched = .ok (front ++ file :: back) ∧
          (DescriptorSet.loadEach machine tree {} front).result = .ok earlier ∧
          tree.status file = .ok (.file content) ∧ Interrupts machine content cause) ∧
      (searched = .error cause → obstacle cause) ∧
      ((∃ refusal, searched = .error refusal) ↔ ∃ met, obstacle met) ∧
      ∀ files, searched = .ok files → files = tree.filesBelow path DescriptorSet.documentSuffix) ∧
    ∀ content, Interrupts machine content cause →
      cause = .undecodable ∨
      (∃ digits, cause = .oversizedInteger digits ∧ Decimal.maxDigits < digits) ∨
      ∃ text kind, String.fromUTF8? content = some text ∧ cause = .overdeep kind ∧
        machine.nesting < (Json.Token.scan text.toList).countP Json.Token.opens := by
  refine ⟨fun content h => ⟨?_, Settings.load_interrupted_iff h, fun _ => Settings.load_of_invalid h⟩,
    fun hs place hl => ⟨?_, FileTree.obstacle_of_search hl, FileTree.search_refused_iff hl,
      fun _ => FileTree.search_eq_ok⟩, fun content hi => ?_⟩
  · rw [DescriptorSet.loadFile_result,
      DescriptorSet.readFile_interrupted_iff (FileTree.isNameable_of_status h), h]
    constructor
    · rintro ⟨_, he, hi⟩
      cases he
      exact hi
    · exact fun hi => ⟨content, rfl, hi⟩
  · exact DescriptorSet.loadDirectory_interrupted_iff hs (FileTree.status_eq_ok_iff.mpr ⟨place, hl⟩)
  · cases hi with
    | undecodable => exact Or.inl rfl
    | oversized _ h => exact Or.inr (Or.inl ⟨_, rfl, Json.digits_of_readWithin h⟩)
    | overdeep ht h => exact Or.inr (Or.inr ⟨_, _, ht, rfl, Json.opens_of_readWithin h⟩)

/-- A directory with a document and a file of one byte that is no text. -/
def drawer : FileTree where
  base := ["home"]
  entries := [(["home"], .directory), (["home", "in"], .directory),
    (["home", "in", "a.json"], .file (Json.obj []).compactText.toUTF8),
    (["home", "in", "b.json"], .file ⟨#[0xff]⟩)]

def drawerPath : FilePath := ⟨"", ["in"]⟩

theorem drawer_interrupts (machine : Machine) : Interrupts machine ⟨#[0xff]⟩ .undecodable :=
  .undecodable (by with_unfolding_all rfl)

theorem drawer_locate : drawer.locate drawerPath = .ok (.existing ["home", "in"] .directory) := rfl

theorem drawer_files : drawer.search .usual drawerPath DescriptorSet.documentSuffix =
    .ok [drawerPath.below ["a.json"], drawerPath.below ["b.json"]] := by
  have hclear : drawer.obstacle? DescriptorSet.documentSuffix Machine.usual.directories drawerPath
      ["home", "in"] = none := by with_unfolding_all rfl
  have hnames : drawer.namesBelow ["home", "in"] DescriptorSet.documentSuffix =
      [["a.json"], ["b.json"]] := by with_unfolding_all rfl
  rw [FileTree.search_of_clear drawer_locate hclear, FileTree.filesBelow_eq drawer_locate, hnames,
    List.mergeSort_of_pairwise (by decide)]
  rfl

theorem drawer_first :
    (DescriptorSet.loadEach .usual drawer {} [drawerPath.below ["a.json"]]).result = .ok {} := by
  with_unfolding_all rfl

theorem drawer_status : drawer.status (drawerPath.below ["b.json"]) = .ok (.file ⟨#[0xff]⟩) := rfl

/-- The first document loads, so it is the byte in the second that interrupts the directory. -/
theorem drawer_directory_interrupted :
    drawer.Sound ∧ drawer.locate drawerPath = .ok (.existing ["home", "in"] .directory) ∧
      (DescriptorSet.loadDirectory .usual drawer drawerPath).result =
        .error (.interrupted .undecodable) := by
  have hsound : drawer.Sound := by decide +kernel
  refine ⟨hsound, drawer_locate, ?_⟩
  obtain ⟨hdirectory, -⟩ :=
    (loading_interrupted_iff .usual drawer drawerPath .undecodable).2.1 hsound _ drawer_locate
  exact hdirectory.mpr
    (Or.inr ⟨_, _, [], _, _, drawer_files, drawer_first, drawer_status, drawer_interrupts _⟩)

/-- Neither descriptors nor settings are answered for when their file is that byte. -/
theorem drawer_unanswered :
    drawer.status (drawerPath.below ["b.json"]) = .ok (.file ⟨#[0xff]⟩) ∧
      (DescriptorSet.loadFile .usual drawer (drawerPath.below ["b.json"])).result =
        .error (.interrupted .undecodable) ∧
      (Settings.load .usual drawer (drawerPath.below ["b.json"])).result = .error .undecodable := by
  refine ⟨drawer_status, ?_,
    (Settings.load_interrupted_iff drawer_status).mpr (.reading (drawer_interrupts _))⟩
  rw [DescriptorSet.loadFile_result, DescriptorSet.readFile_interrupted_iff (by with_unfolding_all rfl)]
  exact ⟨_, drawer_status, drawer_interrupts _⟩

end ToolSchema
