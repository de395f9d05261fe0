import ToolSchema.Proofs.MergedDocuments
import ToolSchema.Proofs.RepeatedReading
import ToolSchema.Proofs.RequestedDocuments
import ToolSchema.Proofs.WriteOutcomes

/-! Settings are checked one by one. The members of an object that is read stand once each
(`Json.nodup_keys_of_ofBytes`), so the value of a setting after its file is that of the file if it suits the
setting and the default if not, whatever the other members are; members that are no settings are kept
behind the defaults (`Settings.Follow`). What is no object, or not there, leaves the defaults, and only
what cannot be looked at, interrupts the reading or cannot be shown leaves no settings. -/

namespace ToolSchema

/-! ### Tables written entry by entry -/

namespace Table

variable {α : Type} {t : Table α}

theorem find?_foldl_put {entries : List (String × α)} (hn : (keys entries).Nodup) (key : String) :
    find? (entries.foldl (fun t entry => t.put entry.1 entry.2) t) key =
      (find? entries key).or (find? t key) := by
  induction entries generalizing t with
  | nil => rfl
  | cons entry rest ih =>
      obtain ⟨name, value⟩ := entry
      obtain ⟨hname, hrest⟩ := List.nodup_cons.mp hn
      rw [List.foldl_cons, ih hrest, find?_put, find?_cons]
      by_cases hk : name = key
      · subst hk
        rw [find?_eq_none_iff.mpr hname, if_pos rfl, if_pos rfl]
        rfl
      · rw [if_neg hk, if_neg hk]

theorem keys_foldl_put {entries : List (String × α)} (hn : (keys entries).Nodup) :
    keys (entries.foldl (fun t entry => t.put entry.1 entry.2) t) =
      keys t ++ (keys entries).filter (· ∉ keys t) := by
  induction entries generalizing t with
  | nil => simp
  | cons entry rest ih =>
      obtain ⟨name, value⟩ := entry
      obtain ⟨hname, hrest⟩ := List.nodup_cons.mp hn
      rw [List.foldl_cons, ih hrest, keys_put, keys_cons]
      by_cases hk : name ∈ keys t
      · simp [hk]
      · have hsame : (keys rest).filter (fun other => decide (other ∉ keys t ++ [name])) =
            (keys rest).filter (fun other => decide (other ∉ keys t)) := by
          refine List.filter_congr fun other ho => ?_
          have hne : other ≠ name := fun he => hname (he ▸ ho)
          simp [hne]
        rw [if_neg hk, hsame, List.append_assoc]
        simp [hk]

theorem keys_filter (p : String → Bool) (entries : List (String × α)) :
    (keys entries).filter p = keys (entries.filter fun entry => p entry.1) :=
  List.filter_map

theorem find?_filter {entries : List (String × α)} (hn : (keys entries).Nodup)
    (p : String × α → Bool) (key : String) :
    find? (entries.filter p) key = (find? entries key).filter fun value => p (key, value) := by
  induction entries with
  | nil => rfl
  | cons entry rest ih =>
      obtain ⟨name, value⟩ := entry
      obtain ⟨hname, hrest⟩ := List.nodup_cons.mp hn
      by_cases hk : name = key
      · subst hk
        cases hp : p (name, value) with
        | true => simp [hp, Option.filter_some]
        | false =>
            have hrest' : find? rest name = none := find?_eq_none_iff.mpr hname
            simp [hp, ih hrest, hrest', Option.filter_some]
      · cases hp : p (name, value) <;> simp [hp, hk, ih hrest]

end Table

/-! ### Members of an object that is read -/

namespace Json

/-- The members of an object that is read stand once each. -/
theorem nodup_keys_of_ofBytes {machine : Machine} {content : ByteArray}
    {members : List (String × Json)} (h : ofBytes machine content = .ok (.obj members)) :
    (Table.keys members).Nodup := by
  cases readable_of_ofBytes h with
  | obj hd _ => exact hd

end Json

/-! ### What cannot be looked at -/

namespace FileTree

variable {tree : FileTree} {path : FilePath} {kind : OsErrorKind}

theorem locate_error_kinds (h : tree.locate path = .error kind) :
    isAbsence kind = true ∨ kind = .nameTooLong := by
  unfold locate at h
  split at h
  · cases h
    exact Or.inl rfl
  · split at h
    · cases h
      exact Or.inr rfl
    · cases stops_of_walk h with
      | vacant => exact Or.inl rfl
      | file => exact Or.inl rfl
      | tooLong => exact Or.inr rfl

/-- A path leads to something, or nothing stands there, or it is too long. -/
theorem status_error_kinds (h : tree.status path = .error kind) :
    isAbsence kind = true ∨ kind = .nameTooLong := by
  unfold status at h
  split at h
  · cases h
  · cases h
    exact Or.inl rfl
  · cases h
    exact locate_error_kinds ‹_›

end FileTree

/-! ### One setting at a time -/

namespace Settings

variable {settings : Settings} {key : String} {standard value : Json} {members : List (String × Json)}

theorem isFormat_iff {text : String} :
    isFormat text = true ↔ ∃ dialect, Text.lower text = Dialect.name dialect := by
  rw [isFormat, Option.isSome_iff_exists]
  refine exists_congr fun dialect => ⟨Dialect.ofName?_eq_some, fun h => ?_⟩
  rw [h, dialect.ofName?_name]

/-- Which values may stand for a setting: those of the kind of its default, the names of dialects in
letters of any case, and widths that are not negative. -/
structure Suits (key : String) (standard value : Json) : Prop where
  kind : value.kind = standard.kind
  format : key = "format" →
    ∃ text dialect, value = .str text ∧ Text.lower text = Dialect.name dialect
  indent : key = "indent" → ∃ width, value = .int width ∧ 0 ≤ width

/-- Of most settings nothing but the kind counts. -/
theorem accepts_of_kind (hd : defaults.find? key = some standard) (h : value.kind = standard.kind)
    (hformat : key ≠ "format") (hindent : key ≠ "indent") : accepts key value = true := by
  unfold accepts rejection?
  rw [hd]
  dsimp only
  rw [if_neg (not_not_intro h)]
  split
  · exact absurd rfl hformat
  · exact absurd rfl hindent
  · rfl

theorem accepts_format_iff {text : String} :
    accepts "format" (.str text) = true ↔ isFormat text = true := by
  have hr : rejection? "format" (.str text) =
      if isFormat text then none else some (.unknownFormat text) := rfl
  rw [accepts, hr]
  cases isFormat text <;> simp

theorem accepts_indent_iff {width : Int} : accepts "indent" (.int width) = true ↔ 0 ≤ width := by
  have hr : rejection? "indent" (.int width) =
      if width < 0 then some (.negativeIndent width) else none := rfl
  rw [accepts, hr]
  by_cases hw : width < 0
  · rw [if_pos hw]
    exact iff_of_false (by simp) (Int.not_le.mpr hw)
  · rw [if_neg hw]
    exact iff_of_true rfl (Int.not_lt.mp hw)

/-- A setting with a default takes the values that suit it. -/
theorem accepts_iff (hd : defaults.find? key = some standard) :
    accepts key value = true ↔ Suits key standard value := by
  by_cases hkind : value.kind = standard.kind
  · by_cases hformat : key = "format"
    · subst hformat
      cases hd
      cases value with
      | str text =>
          rw [accepts_format_iff, isFormat_iff]
          constructor
          · rintro ⟨dialect, h⟩
            exact ⟨hkind, fun _ => ⟨text, dialect, rfl, h⟩, fun hi => absurd hi (by decide)⟩
          · rintro ⟨-, h, -⟩
            obtain ⟨_, dialect, ht, hl⟩ := h rfl
            cases ht
            exact ⟨dialect, hl⟩
      | _ => cases hkind
    · by_cases hindent : key = "indent"
      · subst hindent
        cases hd
        cases value with
        | int width =>
            rw [accepts_indent_iff]
            constructor
            · exact fun h => ⟨hkind, fun hf => absurd hf hformat, fun _ => ⟨width, rfl, h⟩⟩
            · rintro ⟨-, -, h⟩
              obtain ⟨_, hw, hwidth⟩ := h rfl
              cases hw
              exact hwidth
        | _ => cases hkind
      · exact iff_of_true (accepts_of_kind hd hkind hformat hindent)
          ⟨hkind, fun hf => absurd hf hformat, fun hi => absurd hi hindent⟩
  · rw [accepts_of_kind_ne hd hkind]
    exact iff_of_false Bool.false_ne_true fun h => hkind h.kind

/-- Settings that follow the members of an object. -/
structure Follow (settings : Settings) (members : List (String × Json)) : Prop where
  taken : ∀ key standard value, defaults.find? key = some standard →
    Table.find? members key = some value → Suits key standard value →
    settings.find? key = some value
  kept : ∀ key standard, defaults.find? key = some standard →
    (∀ value, Table.find? members key = some value → ¬Suits key standard value) →
    settings.find? key = some standard
  unknown : ∀ key, defaults.find? key = none → settings.find? key = Table.find? members key
  keys : settings.keys = defaults.keys ++ (Table.keys members).filter (· ∉ defaults.keys)

theorem find?_override_of_nodup (hn : (Table.keys members).Nodup) :
    (settings.override members).find? key =
      ((Table.find? members key).filter (accepts key)).or (settings.find? key) := by
  have hsub : (members.filter fun entry => accepts entry.1 entry.2).Sublist members :=
    List.filter_sublist
  rw [override, Table.find?_foldl_put ((hsub.map Prod.fst).nodup hn), Table.find?_filter hn]

theorem keys_override (hn : (Table.keys members).Nodup) :
    (defaults.override members).keys =
      defaults.keys ++ (Table.keys members).filter (· ∉ defaults.keys) := by
  have hsub : (members.filter fun entry => accepts entry.1 entry.2).Sublist members :=
    List.filter_sublist
  have hsame : (members.filter fun entry => accepts entry.1 entry.2).filter
      (fun entry => decide (entry.1 ∉ defaults.keys)) =
        members.filter fun entry => decide (entry.1 ∉ defaults.keys) := by
    rw [List.filter_filter]
    refine List.filter_congr fun entry _ => ?_
    by_cases hk : entry.1 ∈ defaults.keys
    · simp [hk]
    · simp [hk, accepts_of_unknown (Table.find?_eq_none_iff.mpr hk)]
  rw [override, Table.keys_foldl_put ((hsub.map Prod.fst).nodup hn), Table.keys_filter,
    Table.keys_filter, hsame]

theorem follow_override (hn : (Table.keys members).Nodup) :
    Follow (defaults.override members) members where
  taken key standard value hd hm hs := by
    rw [find?_override_of_nodup hn, hm, Option.filter_some, if_pos ((accepts_iff hd).mpr hs)]
    rfl
  kept key standard hd hs := by
    have hnone : (Table.find? members key).filter (accepts key) = none := by
      refine Option.filter_eq_none_iff.mpr fun value hv ha => ?_
      exact hs value hv ((accepts_iff hd).mp ha)
    rw [find?_override_of_nodup hn, hnone, hd]
    rfl
  unknown key hd := by
    rw [find?_override_of_nodup hn, hd, Option.or_none]
    cases Table.find? members key with
    | none => rfl
    | some value => rw [Option.filter_some, if_pos (accepts_of_unknown hd value)]
  keys := keys_override hn

/-! ### The settings file -/

section Loading

variable {machine : Machine} {tree : FileTree} {path : FilePath}

/-- Where there are no settings to take: nothing is there, or a directory, or a file that is no JSON or
another value than an object. -/
inductive Unset (machine : Machine) (tree : FileTree) (path : FilePath) : Prop
  | missing {kind} (h : tree.status path = .error kind) (ha : FileTree.isAbsence kind = true)
  | directory (h : tree.status path = .ok .directory)
  | invalid {content complaint} (h : tree.status path = .ok (.file content))
      (hj : Json.ofBytes machine content = .error (.invalid complaint))
  | other {content value} (h : tree.status path = .ok (.file content))
      (hj : Json.ofBytes machine content = .ok value) (hv : value.kind ≠ .obj)

theorem load_of_unset (h : Unset machine tree path) : (load machine tree path).result = .ok defaults := by
  cases h with
  | missing h ha =>
      have hexists : tree.exists? path = .ok false := by
        rw [FileTree.exists?, FileTree.holds, h]
        exact if_pos ha
      exact load_of_absent hexists
  | directory h => exact load_of_directory h
  | invalid h hj => exact load_of_invalid h hj
  | other h hj hv =>
      rw [load_of_value h hj]
      exact ofFile_of_other machine path hv

theorem load_of_nameTooLong (h : tree.status path = .error .nameTooLong) :
    (load machine tree path).result = .error (.system ⟨.nameTooLong, path.toString⟩) := by
  have hexists : tree.exists? path = .error ⟨.nameTooLong, path.toString⟩ := by
    rw [FileTree.exists?, FileTree.holds, h]
    exact if_neg (by decide)
  rw [load, hexists]
  rfl

/-- There are settings unless the path is too long to be looked at or what it leads to interrupts. -/
theorem load_eq_error_iff {cause : Interruption} :
    (load machine tree path).result = .error cause ↔
      (tree.status path = .error .nameTooLong ∧ cause = .system ⟨.nameTooLong, path.toString⟩) ∨
        ∃ content, tree.status path = .ok (.file content) ∧ Prevents machine content cause := by
  cases hs : tree.status path with
  | ok node =>
      cases node with
      | directory => simp [load_of_unset (.directory hs)]
      | file content => simp [load_interrupted_iff hs]
  | error kind =>
      rcases FileTree.status_error_kinds hs with ha | rfl
      · have hk : kind ≠ .nameTooLong := by
          rintro rfl
          cases ha
        simp [load_of_unset (.missing hs ha), hk]
      · simp [load_of_nameTooLong hs, eq_comm]

/-- The settings after a file that holds an object are checked one by one: each setting with a default
has the value of the file if that suits it and else its default, and what is no setting is kept behind
the defaults. Nothing there, a directory, what is no JSON and any other value leave the defaults; only a
path that is too long, bytes that interrupt and a value in place of a setting that is too deep to be shown
leave no settings. Whatever is loaded, the dialect that is asked for, or without one that of the settings,
is one of those that are known. -/
theorem settings_checked_one_by_one (machine : Machine) (tree : FileTree) (path : FilePath) :
    (∀ content members, tree.status path = .ok (.file content) →
      Json.ofBytes machine content = .ok (.obj members) → ¬Unshown machine members →
        ∃ settings, (load machine tree path).result = .ok settings ∧ Follow settings members) ∧
    (Unset machine tree path → (load machine tree path).result = .ok defaults) ∧
    (∀ cause, (load machine tree path).result = .error cause ↔
      (tree.status path = .error .nameTooLong ∧ cause = .system ⟨.nameTooLong, path.toString⟩) ∨
        ∃ content, tree.status path = .ok (.file content) ∧ Prevents machine content cause) ∧
    ∀ settings, (load machine tree path).result = .ok settings → ∀ asked pretty,
      ∃ dialect choice, settings.choose (Command.asked asked) pretty = .ok choice ∧
        choice.format = Dialect.name dialect ∧ ∀ wanted ∈ asked, dialect = wanted := by
  refine ⟨fun content members h hj hs => ?_, load_of_unset, fun cause => load_eq_error_iff,
    fun settings h asked pretty => choose_of_load h asked pretty⟩
  exact ⟨_, load_of_object h hj hs, follow_override (Json.nodup_keys_of_ofBytes hj)⟩

end Loading

/-- A file with settings that suit and settings that do not. -/
def mixed : List (String × Json) :=
  [("sort_keys", .str "no"), ("unit", .null), ("format", .str "Gro\u212A"), ("indent", .bool true),
    ("pretty_print", .bool true)]

def desktop : FileTree where
  entries := [([fileName], .file (Json.obj mixed).compactText.toUTF8)]

/-- A Kelvin sign is a capital of the letter that it looks like; a truth value is no width. -/
theorem desktop_checked :
    ∃ settings, (load .usual desktop (path none)).result = .ok settings ∧
      settings.find? "format" = some (.str "Gro\u212A") ∧
      settings.find? "indent" = some (.int 2) ∧
      settings.find? "unit" = some .null ∧
      settings.keys = ["format", "pretty_print", "indent", "sort_keys", "token_model", "unit"] ∧
      ∃ choice, settings.choose (Command.asked none) false = .ok choice ∧
        ∃ dialect, choice.format = Dialect.name dialect := by
  have hstatus : desktop.status (path none) =
      .ok (.file (Json.obj mixed).compactText.toUTF8) := by with_unfolding_all rfl
  have hread : Json.ofBytes .usual (Json.obj mixed).compactText.toUTF8 = .ok (.obj mixed) :=
    Json.ofBytes_compactText (by decide +kernel) (by decide)
  have hlower : Text.lower "Gro\u212A" = Dialect.name .grok := by decide +kernel
  have hsuits : Suits "format" (.str Dialect.openai.name) (.str "Gro\u212A") :=
    ⟨rfl, fun _ => ⟨_, .grok, rfl, hlower⟩, fun h => absurd h (by decide)⟩
  have hwidth (value : Json) (hv : Table.find? mixed "indent" = some value) :
      ¬Suits "indent" (.int 2) value := by
    cases hv
    intro h
    cases h.kind
  obtain ⟨hobject, -, -, hchoose⟩ := settings_checked_one_by_one .usual desktop (path none)
  obtain ⟨settings, hload, hfollow⟩ := hobject _ _ hstatus hread (by decide +kernel)
  obtain ⟨dialect, choice, hchoice, hformat, -⟩ := hchoose settings hload none false
  refine ⟨settings, hload, hfollow.taken _ _ _ rfl rfl hsuits, hfollow.kept _ _ rfl hwidth,
    hfollow.unknown _ rfl, ?_, choice, hchoice, dialect, hformat⟩
  exact hfollow.keys.trans (by decide +kernel)

def slab : FileTree where
  entries := [([fileName], .file (ones 4300).toUTF8)]

def longName : String := String.ofList (List.replicate 300 'a')

theorem longName_status : FileTree.status {} ⟨"", [longName]⟩ = .error .nameTooLong := by
  have hsize : longName.utf8ByteSize = 300 := by decide +kernel
  have hname : FilePath.isNameable ⟨"", [longName]⟩ = true := by
    have hchars : longName.toList = List.replicate 300 'a' := String.toList_ofList
    rw [FilePath.isNameable, List.all_cons, hchars]
    decide +kernel
  have hpath : FilePath.toString ⟨"", [longName]⟩ = longName := by
    simp [FilePath.toString]
  have hdots : longName ≠ ".." := by
    intro h
    rw [h] at hsize
    exact absurd hsize (by decide)
  have hwalk : FileTree.walk {} [] [longName] = .error .nameTooLong := by
    unfold FileTree.walk
    rw [if_neg hdots, if_pos (by rw [hsize]; decide)]
  rw [FileTree.status, FileTree.locate, hname, hpath, hsize]
  rw [if_neg (by decide), if_neg (by decide)]
  have hstart : FileTree.start {} ⟨"", [longName]⟩ = [] := rfl
  rw [hstart, hwalk]

/-- A number of too many digits is no object, and under too long a name there is nothing, but neither
leaves the defaults. -/
theorem slab_unanswered :
    slab.status (path none) = .ok (.file (ones 4300).toUTF8) ∧
      String.fromUTF8? (ones 4300).toUTF8 = some (ones 4300) ∧
      (load .usual slab (path none)).result = .error (.oversizedInteger 4301) ∧
      (load .usual {} ⟨"", [longName]⟩).result =
        .error (.system ⟨.nameTooLong, FilePath.toString ⟨"", [longName]⟩⟩) := by
  have hstatus : slab.status (path none) = .ok (.file (ones 4300).toUTF8) := by
    with_unfolding_all rfl
  have hread := Json.ofBytes_ones (Nat.le_refl 4300)
  refine ⟨hstatus, fromUTF8?_toUTF8 _, ?_, load_of_nameTooLong longName_status⟩
  exact (load_interrupted_iff hstatus).mpr (.reading (interrupts_iff.mpr ⟨_, hread, rfl⟩))

end Settings

end ToolSchema
