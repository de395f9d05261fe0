import ToolSchema.Proofs.CacheOrder
import ToolSchema.Proofs.EncodedDocuments

/-! Documents that stay. A document is made of the entries that a cache has for the names of some
records, and a cache never changes what it has for a name. So whatever a session does after a document
has been made, it makes the same one again. Once a whole batch has been generated, the names of all its
records are in the cache, and a document can be made of any of them in any dialect. -/

namespace ToolSchema

/-! ### Documents from larger caches -/

theorem Components.table_within {cache later : Table Components} (h : cache.Within later) :
    (Components.table cache).Within (Components.table later) := by
  intro name parameters hf
  rw [Components.table, Table.find?_map] at hf ⊢
  obtain ⟨found, hfound, rfl⟩ := Option.map_eq_some_iff.mp hf
  rw [h name found hfound, Option.map_some]

theorem Dialect.pair_of_within {dialect : Dialect} {table larger : Table Parameters}
    (h : table.Within larger) {record : Record} {pair : Record × Parameters}
    (hp : dialect.pair table record = .ok pair) : dialect.pair larger record = .ok pair := by
  rw [Dialect.pair] at hp ⊢
  split at hp
  · rename_i found hf
    rw [h _ found hf]
    exact hp
  · cases hp

theorem formatSchemas_of_within {table larger : Table Parameters} (h : table.Within larger)
    {records : List Record} {format : String} {entries : List Json}
    (hf : formatSchemas records table format = .ok entries) :
    formatSchemas records larger format = .ok entries := by
  rw [formatSchemas] at hf ⊢
  split at hf
  · cases hf
  · obtain ⟨pairs, hpairs, hentries⟩ := Expansion.bind_eq_ok_iff.mp hf
    refine Expansion.bind_eq_ok_iff.mpr ⟨pairs, ?_, hentries⟩
    exact mapM_eq_ok_iff.mpr ((mapM_eq_ok_iff.mp hpairs).imp fun _ _ => Dialect.pair_of_within h)

/-- Records whose names are all in a cache of schemas have a document in every dialect. -/
theorem exists_formatSchemas (dialect : Dialect) {cache : Table Components} {records : List Record}
    (hs : ∀ name found, cache.find? name = some found → found.Schematic)
    (hr : ∀ r ∈ records, ∃ found, cache.find? r.name = some found) :
    ∃ entries, formatSchemas records (Components.table cache) dialect.name = .ok entries := by
  have hf : ∀ r ∈ records, cache.find? r.name = some ((cache.find? r.name).getD {}) := by
    intro r hm
    obtain ⟨found, hfound⟩ := hr r hm
    rw [hfound, Option.getD_some]
  exact ⟨_, formatSchemas_of_found dialect hf fun r hm => hs _ _ (hf r hm)⟩

/-! ### Sessions -/

namespace Generator

open Generation

theorem cache_within_after (g : Generator) (steps : List Step) :
    g.cache.Within (g.after steps).cache := by
  induction steps generalizing g with
  | nil => exact g.cache.within_self
  | cons s rest ih =>
      obtain ⟨result, ht⟩ := g.step_trace s
      have hprefix := ht.cache_prefix (List.disjoint_nil_left _)
      exact (Table.within_of_prefix hprefix).trans (ih _)

theorem records_subset_after (g : Generator) (steps : List Step) :
    g.records ⊆ (g.after steps).records := by
  induction steps generalizing g with
  | nil => exact List.Subset.refl _
  | cons s rest ih =>
      refine List.Subset.trans ?_ (ih (g.step s).generator)
      cases s with
      | appendRecord record => exact List.subset_append_left _ _
      | _ => exact List.Subset.refl _

theorem records_after {g : Generator} {steps : List Step}
    (hs : ∀ s ∈ steps, ∀ r, s ≠ .appendRecord r) : (g.after steps).records = g.records := by
  induction steps generalizing g with
  | nil => rfl
  | cons s rest ih =>
      obtain ⟨hfirst, hrest⟩ := List.forall_mem_cons.mp hs
      refine (ih hrest).trans ?_
      cases s with
      | appendRecord record => exact absurd rfl (hfirst record)
      | _ => rfl

theorem format_eq_document_iff {g : Generator} {format : String} {choice : Option (List Record)}
    {entries : List Json} :
    (g.step (.format format choice)).answer = .ok (.document entries) ↔
      formatSchemas (choice.getD g.records) (Components.table g.cache) format = .ok entries := by
  unfold step
  dsimp only
  split
  · rename_i found hf
    rw [hf]
    simp
  · rename_i error hf
    rw [hf]
    exact ⟨nofun, nofun⟩

/-- A document that could be made of some records is made again after any steps. -/
theorem format_after {g : Generator} {format : String} {chosen : List Record} {entries : List Json}
    (h : (g.step (.format format (some chosen))).answer = .ok (.document entries))
    (between : List Step) :
    ((g.after between).step (.format format (some chosen))).answer = .ok (.document entries) := by
  rw [format_eq_document_iff] at h ⊢
  exact formatSchemas_of_within (Components.table_within (g.cache_within_after between)) h

/-- A batch that has been generated has left the components of each record in the cache. -/
theorem find?_of_generate {g : Generator} {results : Table Components}
    (h : (g.step .generate).answer = .ok (.batch results)) {r : Record} (hr : r ∈ g.records) :
    ∃ found, (g.step .generate).generator.cache.find? r.name = some found := by
  have hresult := (reply_eq_ok_iff fun _ _ => Answer.batch.inj).mp h
  have hreturns := run_returns g.scope (.batch g.records) g.cache
  obtain ⟨hwithin, hnames⟩ := hreturns.reads (List.disjoint_nil_left _) hresult
  have hm : r.name ∈ results.keys := hnames (List.mem_map_of_mem hr)
  cases hf : results.find? r.name with
  | none => exact absurd hm (Table.find?_eq_none_iff.mp hf)
  | some found => exact ⟨found, hwithin _ _ hf⟩

/-- What a session has in its cache has schemas as properties. -/
theorem schematic_after {records : List Record} {enums : Table Enumeration} {g : Generator}
    (hg : ofBatch records enums = .ok g) (steps : List Step) {name : String} {found : Components}
    (hf : (g.after steps).cache.find? name = some found) : found.Schematic := by
  -- A document changes nothing, so the rule of one more step is that of the steps before it.
  have hkept := (step_keepsTo_shaped hg steps (.format "" none)).1
  exact (hkept.cache name found hf).schematic

end Generator

open Generator

/-- In whatever state a session is, a document that is made of some records is made again in the same
dialect after any further steps. Once the batch has been generated, a document is made in every dialect
of any records of the batch, and of the public list as long as no record is appended to it. -/
theorem formatted_documents_stay {records : List Record} {enums : Table Enumeration} {g : Generator}
    (hg : ofBatch records enums = .ok g) (earlier : List Step) :
    let before := g.after earlier
    (∀ format chosen entries between,
      (before.step (.format format (some chosen))).answer = .ok (.document entries) →
      ((before.after between).step (.format format (some chosen))).answer =
        .ok (.document entries)) ∧
    ∀ results later, (before.step .generate).answer = .ok (.batch results) →
      let now := (before.step .generate).generator.after later
      ∀ dialect : Dialect,
        (∀ chosen ⊆ records, ∃ entries,
          (now.step (.format dialect.name (some chosen))).answer = .ok (.document entries)) ∧
        ((∀ s ∈ later, ∀ r, s ≠ .appendRecord r) → ∃ entries,
          (now.step (.format dialect.name none)).answer = .ok (.document entries)) := by
  intro before
  refine ⟨fun format chosen entries between h => format_after h between, ?_⟩
  intro results later h now dialect
  obtain ⟨hr, -, -, -⟩ := eq_of_ofBatch hg
  have hnow : g.after (earlier ++ .generate :: later) = now := g.after_append _ _
  have hschematic : ∀ name found, now.cache.find? name = some found → found.Schematic :=
    fun name found hf => schematic_after hg (earlier ++ .generate :: later) (hnow ▸ hf)
  have hfound : ∀ r ∈ before.records, ∃ found, now.cache.find? r.name = some found := by
    intro r hm
    obtain ⟨found, hf⟩ := find?_of_generate h hm
    exact ⟨found, cache_within_after _ later _ _ hf⟩
  have hdocument : ∀ choice : Option (List Record), choice.getD now.records ⊆ before.records →
      ∃ entries, (now.step (.format dialect.name choice)).answer = .ok (.document entries) := by
    intro choice hc
    obtain ⟨entries, he⟩ := exists_formatSchemas dialect hschematic fun r hm => hfound r (hc hm)
    exact ⟨entries, format_eq_document_iff.mpr he⟩
  refine ⟨fun chosen hc => hdocument (some chosen) ?_, fun hl => hdocument none ?_⟩
  · exact fun r hm => g.records_subset_after earlier (hr ▸ hc hm)
  · rw [Option.getD_none, show now.records = _ from records_after hl]
    exact List.Subset.refl _

/-- An enumeration that takes the name of a record. -/
def places : Enumeration := { name := "Place", cases := [⟨"north", none⟩] }

/-- Neither an enumeration nor a record of the name of a target changes the document of the targets. -/
theorem traveller_documents_stay :
    ofBatch (journey "[Place]") modes = .ok traveller ∧
      (∃ results, (traveller.step .generate).answer = .ok (.batch results)) ∧
      ∃ entries,
        ((traveller.after [.generate, .addEnum places]).step
          (.format "gemini" (some (journey "[Place]")))).answer = .ok (.document entries) ∧
        ((traveller.after [.generate, .addEnum places, .generateRecord namesake,
          .appendRecord visitor]).step (.format "gemini" (some (journey "[Place]")))).answer =
            .ok (.document entries) := by
  have hg : ofBatch (journey "[Place]") modes = .ok traveller := ofBatch_of_nodup modes (by decide)
  have hok : (Generation.generate traveller.scope traveller.records []).result.isOk = true := by
    decide +kernel
  obtain ⟨results, hresult⟩ := Expansion.exists_of_isOk hok
  have hgenerate : (traveller.step .generate).answer = .ok (.batch results) :=
    (reply_eq_ok_iff fun _ _ => Answer.batch.inj).mpr hresult
  obtain ⟨-, hmade⟩ := formatted_documents_stay hg []
  obtain ⟨entries, hentries⟩ := (hmade results [.addEnum places] hgenerate .gemini).1
    (journey "[Place]") (List.Subset.refl _)
  obtain ⟨hstays, -⟩ := formatted_documents_stay hg [.generate, .addEnum places]
  exact ⟨hg, ⟨results, hgenerate⟩, entries, hentries,
    hstays _ _ entries [.generateRecord namesake, .appendRecord visitor] hentries⟩

end ToolSchema
