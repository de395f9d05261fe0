import ToolSchema.Command.Run
import ToolSchema.Proofs.FailedExpansion
import ToolSchema.Proofs.FileReading
import ToolSchema.Proofs.Selections

/-! Documents of requests. The targets of a request are the records that are found, once each and in the
order in which they are first named; settings that have been loaded always name a dialect. So the
document of a request is in a dialect that is known, it is made of components that are there, and no
name comes twice: it has an entry for each target, or the generation fails at a field or in a cycle. -/

namespace ToolSchema

/-! ### The dialect of settings -/

namespace Dialect

theorem lower_name (dialect : Dialect) : Text.lower dialect.name = dialect.name := by
  cases dialect <;> decide +kernel

end Dialect

namespace Settings

variable {settings : Settings} {key : String}

/-- What a key finds after values are put in place is one of them or was there. -/
theorem find?_foldl_put (entries : List (String × Json)) {value : Json}
    (h : settings.find? key = some value) :
    ∃ found, (entries.foldl (fun t entry => t.put entry.1 entry.2) settings).find? key = some found ∧
      (found = value ∨ (key, found) ∈ entries) := by
  induction entries generalizing settings value with
  | nil => exact ⟨value, h, Or.inl rfl⟩
  | cons entry rest ih =>
      obtain ⟨name, next⟩ := entry
      rw [List.foldl_cons]
      by_cases hn : name = key
      · have hput : (settings.put name next).find? key = some next := by
          rw [Table.find?_put, if_pos hn]
        obtain ⟨found, hf, hm⟩ := ih hput
        subst hn
        refine ⟨found, hf, Or.inr ?_⟩
        rcases hm with rfl | hm
        · exact List.mem_cons_self
        · exact List.mem_cons_of_mem _ hm
      · have hput : (settings.put name next).find? key = some value := by
          rw [Table.find?_put, if_neg hn, h]
        obtain ⟨found, hf, hm⟩ := ih hput
        exact ⟨found, hf, hm.imp id (List.mem_cons_of_mem _)⟩

/-- A value is put in place only if it is acceptable. -/
theorem find?_override (values : List (String × Json)) {value : Json}
    (h : settings.find? key = some value) :
    ∃ found, (settings.override values).find? key = some found ∧
      (found = value ∨ accepts key found = true) := by
  obtain ⟨found, hf, hm⟩ := find?_foldl_put (values.filter fun entry => accepts entry.1 entry.2) h
  refine ⟨found, hf, hm.imp id fun hm => ?_⟩
  exact (List.mem_filter.mp hm).2

theorem isFormat_of_accepts {value : Json} (h : accepts "format" value = true) :
    ∃ text, value = .str text ∧ isFormat text = true := by
  cases value with
  | str text =>
      have hr : rejection? "format" (.str text) =
          if isFormat text then none else some (.unknownFormat text) := rfl
      rw [accepts, hr] at h
      split at h
      · exact ⟨text, rfl, ‹_›⟩
      · cases h
  | _ => cases h

/-- Settings are the defaults, some of them replaced by the members of an object. -/
theorem ofFile_cases {machine : Machine} {path : FilePath} {value : Json}
    (h : (ofFile machine path value).result = .ok settings) :
    settings = defaults ∨ ∃ members, settings = defaults.override members := by
  by_cases hv : value.kind = .obj
  · cases value with
    | obj members =>
        rw [ofFile_result] at h
        split at h
        · cases h
        · cases h
          exact Or.inr ⟨members, rfl⟩
    | _ => cases hv
  · rw [ofFile_of_other machine path hv] at h
    cases h
    exact Or.inl rfl

theorem load_cases {machine : Machine} {tree : FileTree} {path : FilePath}
    (h : (load machine tree path).result = .ok settings) :
    settings = defaults ∨ ∃ members, settings = defaults.override members := by
  unfold load at h
  split at h
  · cases h
  · cases h
    exact Or.inl rfl
  · split at h
    · exact ofFile_cases h
    · cases h
      exact Or.inl rfl
    · cases h
      exact Or.inl rfl
    all_goals cases h

/-- Settings that have been loaded name the format of a dialect. -/
theorem format_of_load {machine : Machine} {tree : FileTree} {path : FilePath}
    (h : (load machine tree path).result = .ok settings) :
    ∃ text, settings.value "format" = .str text ∧ isFormat text = true := by
  have hdefault : defaults.find? "format" = some (.str Dialect.openai.name) := rfl
  have hopenai : isFormat Dialect.openai.name = true := by
    rw [isFormat, Dialect.lower_name, Dialect.ofName?_name]
    rfl
  rcases load_cases h with rfl | ⟨members, rfl⟩
  · exact ⟨_, rfl, hopenai⟩
  · obtain ⟨found, hf, hm⟩ := find?_override members hdefault
    rw [value, hf, Option.getD_some]
    rcases hm with rfl | hm
    · exact ⟨_, rfl, hopenai⟩
    · exact isFormat_of_accepts hm

/-- What is chosen is the format of a dialect, the one that is asked for if there is one. -/
theorem choose_of_load {machine : Machine} {tree : FileTree} {path : FilePath}
    (h : (load machine tree path).result = .ok settings) (asked : Option Dialect) (pretty : Bool) :
    ∃ dialect choice, settings.choose (Command.asked asked) pretty = .ok choice ∧
      choice.format = dialect.name ∧ ∀ wanted ∈ asked, dialect = wanted := by
  cases asked with
  | some wanted =>
      have htruthy : (Json.str wanted.name).truthy = true := by cases wanted <;> rfl
      rw [choose, Command.asked, Option.elim_some, if_pos htruthy]
      exact ⟨wanted, _, rfl, wanted.lower_name, fun other ho => Option.some.inj ho⟩
  | none =>
      obtain ⟨text, hv, hf⟩ := format_of_load h
      obtain ⟨dialect, hd⟩ := Option.isSome_iff_exists.mp hf
      have hnull : ¬Json.null.truthy = true := Bool.false_ne_true
      rw [choose, Command.asked, Option.elim_none, if_neg hnull, hv]
      by_cases ht : (Json.str text).truthy = true
      · rw [if_pos ht]
        exact ⟨dialect, _, rfl, Dialect.ofName?_eq_some hd, fun _ hw => by cases hw⟩
      · rw [if_neg ht]
        exact ⟨.openai, _, rfl, Dialect.openai.lower_name, fun _ hw => by cases hw⟩

end Settings

/-! ### Documents -/

theorem buildDocument_of_error {targets : List Record} {enums : Table Enumeration}
    {error : GenerationError} (h : generateSchemas targets enums = .error error) (format : String) :
    (buildDocument targets enums format).result = .error (.generation error) := by
  rw [buildDocument, Logged.bind_result, Logged.mapError, generateLogged_result, h]
  rfl

/-- A request under settings that have been loaded has the dialect it asks for, or else one that the
settings name, and then a document with one entry for each name that is found, in the order in which
they are first requested, unless a type, a reference or a cycle stands against it. -/
theorem requested_documents {machine : Machine} {tree : FileTree} {path : FilePath}
    {settings : Settings} (hs : (Settings.load machine tree path).result = .ok settings)
    (set : DescriptorSet)
    (names : List String) (asked : Option Dialect) (pretty : Bool) :
    ∃ dialect choice, settings.choose (Command.asked asked) pretty = .ok choice ∧
      choice.format = dialect.name ∧ (∀ wanted ∈ asked, dialect = wanted) ∧
      let built := (buildDocument (set.select names).targets set.enums choice.format).result
      (∃ document, built = .ok document ∧
        document.map dialect.declaredName? =
          (names.eraseDups.filter fun name => name ∈ set.recordNames).map some) ∨
      ∃ error, built = .error (.generation error) ∧ ∀ name, error ≠ .duplicateRecord name := by
  obtain ⟨dialect, choice, hchoice, hformat, hasked⟩ := Settings.choose_of_load hs asked pretty
  have hd := set.nodup_targets names
  refine ⟨dialect, choice, hchoice, hformat, hasked, ?_⟩
  rw [hformat]
  cases hg : generateSchemas (set.select names).targets set.enums with
  | error error =>
      obtain ⟨r, -, hfails⟩ := fails_of_generateSchemas hd hg
      exact Or.inr ⟨error, buildDocument_of_error hg _, hfails.ne_duplicateRecord⟩
  | ok results =>
      have hx := ((generateSchemas_eq_ok_iff hd).mp hg).1
      refine Or.inl ⟨_, (buildDocument_eq_ok_iff hd dialect).mpr ⟨hx, rfl⟩, ?_⟩
      rw [List.map_map, ← set.names_of_targets names, List.map_map]
      exact List.map_congr_left fun r _ => dialect.declaredName?_declare r _

/-- Settings that name a dialect in capitals. -/
def shouted : Json := .obj [("format", .str "GEMINI")]

/-- The dialect is the one that the settings name; who is unknown or comes again has no entry. -/
theorem timetable_requested :
    ∃ tree settings choice document,
      (Settings.load .usual tree ⟨"", ["settings.json"]⟩).result = .ok settings ∧
      settings.choose (Command.asked none) false = .ok choice ∧
      (buildDocument (timetableSet.select ["Leg", "Nobody", "Place", "Leg"]).targets
        timetableSet.enums choice.format).result = .ok document ∧
      document.map Dialect.gemini.declaredName? = [some "Leg", some "Place"] := by
  have hstatus : FileTree.status ⟨[], [(["settings.json"], .file shouted.compactText.toUTF8)]⟩
      ⟨"", ["settings.json"]⟩ = .ok (.file shouted.compactText.toUTF8) := rfl
  have hload : (Settings.load .usual _ _).result = _ :=
    Settings.load_of_object hstatus (Json.ofBytes_compactText rfl (by decide)) (by decide)
  obtain ⟨dialect, choice, hchoice, hformat, -, hbuilt⟩ :=
    requested_documents hload timetableSet ["Leg", "Nobody", "Place", "Leg"] none false
  have hchosen : (Settings.defaults.override [("format", .str "GEMINI")]).choose
      (Command.asked none) false = .ok ⟨"gemini", false⟩ := by with_unfolding_all rfl
  cases hchosen.symm.trans hchoice
  have hgemini : dialect = .gemini := by
    cases dialect with
    | gemini => rfl
    | _ => exact absurd hformat (by decide)
  subst hgemini
  have hok : ((buildDocument (timetableSet.select ["Leg", "Nobody", "Place", "Leg"]).targets
      timetableSet.enums "gemini").result).isOk = true := by decide +kernel
  rcases hbuilt with ⟨document, hdocument, hnames⟩ | ⟨error, herror, -⟩
  · exact ⟨_, _, _, document, hload, hchoice, hdocument, hnames.trans (by decide)⟩
  · rw [herror] at hok
    cases hok

end ToolSchema
