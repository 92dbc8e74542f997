import TagQuery.Proofs.Classification.CategoryRenames
import TagQuery.Proofs.Session.Answers

/-!
# Renaming a category everywhere

A category is renamed in a store and in a query, to a name that neither of them uses.
The session answers about the records of the store as before, and a classification shows
over the new name what it showed over the old one.
-/

namespace TagQuery.Session

variable {s : Session} {place source : ℕ} {held : HeldQuery} {store : RecordStore}
  {old new : String}

/-! ## Answers in a session -/

theorem freshVerdict_eq (hheld : s.queries[place]? = some held)
    (hstore : s.stores[source]? = some store) (record stamp : ℕ) :
    s.freshVerdict place source record stamp =
      store.records[record]?.map (held.query.compile store stamp).evaluate := by
  cases he : store.entries[record]? with
  | none => simp [freshVerdict, hheld, hstore, he, RecordStore.records]
  | some e => simp [freshVerdict, hheld, hstore, he, RecordStore.records]

theorem Coherent.matchRecord_eq_freshVerdict (hdated : s.Dated) (hs : s.Coherent)
    (hstamp : s.stamp < 2 ^ 63) (hheld : s.queries[place]? = some held)
    (hstore : s.stores[source]? = some store) (record stamp : ℕ) :
    (s.matchRecord place source record source).map (·.1) =
      s.freshVerdict place source record stamp := by
  rw [freshVerdict_eq hheld hstore]
  cases he : store.entries[record]? with
  | none => simp [matchRecord, hheld, hstore, he, RecordStore.records]
  | some e =>
      rw [hs.matchRecord_eq hdated hstamp hheld hstore he stamp, RecordStore.records,
        List.getElem?_map, he]
      rfl

theorem classify_fst (hs : s.Homed) (hheld : s.queries[place]? = some held)
    (hstore : s.stores[source]? = some store) (job : Classifier) (places : Option Places) :
    ∃ generation, (s.classify place source job source places).map (·.1) =
      some (job.run held.query store generation s.stamp store.entries
        (places.getD (List.range store.entries.length))).1 := by
  obtain ⟨home, hhome, -⟩ := hs held (List.mem_of_getElem? hheld)
  exact ⟨home.generations + 1, by simp [classify, hheld, hstore, hhome]⟩

/-! ## The rename -/

/-- A category moves to another, in a store and in a query. -/
def categoryRename (source place : ℕ) (old new : String) : List Action :=
  [.editStore source (.renameCategory old new), .editQuery place (.renameCategory old new)]

/-- After the rename, store and query are at their places as they have become. -/
theorem moved_categoryRename (actions : List Action)
    (hheld : (start.run actions).queries[place]? = some held)
    (hstore : (start.run actions).stores[source]? = some store)
    (hnew : new ∈ held.query.texts → old = new) :
    let after := start.run (actions ++ categoryRename source place old new)
    after.stamp = (start.run actions).stamp + 2 ∧
      ∃ held' store', after.queries[place]? = some held' ∧
        after.stores[source]? = some store' ∧
        held.query.Moved held'.query old new ∧ store.Moved store' old new := by
  intro after
  -- The store is edited first, which leaves the queries alone.
  let edited := store.edit (.renameCategory old new) (start.run actions).stamp
  let between := start.run (actions ++ [.editStore source (.renameCategory old new)])
  have hbetween : between =
      { (start.run actions).setStore source edited with stamp := edited.nextStamp } := by
    have hrun : between =
        (start.run actions).perform (.editStore source (.renameCategory old new)) :=
      run_append start actions _
    rw [hrun, perform, editStore, hstore]
    rfl
  have hstamp : between.stamp = (start.run actions).stamp + 2 := by
    have htouched : edited.touched = (start.run actions).stamp := rfl
    have hrevision : edited.hierarchy.revision = (start.run actions).stamp + 1 := rfl
    rw [hbetween]
    simp only [RecordStore.nextStamp, RecordStore.revision, htouched, hrevision]
    omega
  have hplace : between.queries[place]? = some held := by
    rw [hbetween]
    exact hheld
  have hsource : between.stores[source]? = some edited := by
    rw [hbetween]
    exact List.getElem?_set_self (List.getElem?_eq_some_iff.mp hstore).1
  -- Then the query is changed, which leaves the contents of the store alone.
  have hchange : held.query.change (.renameCategory old new) =
      .ok { held.query with texts := moveKey held.query.texts old new } := rfl
  obtain ⟨hsame, hkeeps, generation, hheld'⟩ :=
    perform_editQuery (coherent_run _).homed hplace hchange
  have hafter : after = between.perform (.editQuery place (.renameCategory old new)) := by
    simp only [after, between, categoryRename, run, List.foldl_append, List.foldl_cons,
      List.foldl_nil]
  rw [← hafter] at hsame hkeeps hheld'
  obtain ⟨store', hstore', hrecords, hhierarchy⟩ := hkeeps source edited hsource
  have hedited := store.moved_edit old new (start.run actions).stamp
  refine ⟨hsame.trans hstamp, _, store', hheld', hstore', ⟨rfl, rfl, hnew⟩, ?_, ?_⟩
  · rw [hrecords]
    exact hedited.records
  · rw [hhierarchy]
    exact hedited.closure

section Renamed

variable (actions : List Action) (hheld : (start.run actions).queries[place]? = some held)
  (hstore : (start.run actions).stores[source]? = some store)
  (hnew : new ∈ held.query.texts → old = new) (hunused : store.Unused new)

include hheld hstore hnew hunused

/-- The records of the store are accepted afresh as before. -/
theorem freshVerdict_categoryRename (record stamp stamp' : ℕ) :
    (start.run (actions ++ categoryRename source place old new)).freshVerdict place source
        record stamp' = (start.run actions).freshVerdict place source record stamp := by
  obtain ⟨-, held', store', hheld', hstore', hquery, hmoved⟩ :=
    moved_categoryRename actions hheld hstore hnew
  have hsound := grouped_run actions store (List.mem_of_getElem? hstore)
  rw [freshVerdict_eq hheld hstore, freshVerdict_eq hheld' hstore', hmoved.records,
    List.getElem?_map, Option.map_map]
  refine Option.map_congr fun r hr => ?_
  exact hquery.evaluate_eq hmoved hunused hsound (List.mem_of_getElem? hr) stamp stamp'

theorem matchRecord_categoryRename (hstamp : (start.run actions).stamp + 2 < 2 ^ 63)
    (record : ℕ) :
    ((start.run (actions ++ categoryRename source place old new)).matchRecord place source
        record source).map (·.1) =
      ((start.run actions).matchRecord place source record source).map (·.1) := by
  obtain ⟨hsame, held', store', hheld', hstore', -⟩ :=
    moved_categoryRename actions hheld hstore hnew
  rw [(coherent_run _).matchRecord_eq_freshVerdict (dated_run _) (by omega) hheld' hstore'
      record 0,
    (coherent_run _).matchRecord_eq_freshVerdict (dated_run _) (by omega) hheld hstore record 0]
  exact freshVerdict_categoryRename actions hheld hstore hnew hunused record 0 0

/-- A classification shows over what its category has become what it showed before. -/
theorem classify_categoryRename (hstamp : (start.run actions).stamp + 2 < 2 ^ 63)
    {job : Classifier} (hname : job.category = new → old = new) (hexact : job.stopEarly = false)
    (places : Option Places) :
    ((start.run (actions ++ categoryRename source place old new)).classify place source
        (job.renamed old new) source places).map (·.1) =
      ((start.run actions).classify place source job source places).map (·.1) := by
  obtain ⟨hsame, held', store', hheld', hstore', hquery, hmoved⟩ :=
    moved_categoryRename actions hheld hstore hnew
  have hsound := grouped_run actions store (List.mem_of_getElem? hstore)
  obtain ⟨generation, hbefore⟩ :=
    classify_fst (coherent_run actions).homed hheld hstore job places
  obtain ⟨generation', hafter⟩ :=
    classify_fst (coherent_run _).homed hheld' hstore' (job.renamed old new) places
  have hlength : store'.entries.length = store.entries.length := by
    have hrecords := congrArg List.length hmoved.records
    simpa [RecordStore.records] using hrecords
  have hgroups : store'.hierarchy.groupMap (job.renamed old new).category =
      store.hierarchy.groupMap job.category := hmoved.groupMap_eq hunused hsound hname
  rw [hbefore, hafter, hlength,
    Classifier.run_fst actions (by omega)
      (fun e he => ⟨store, List.mem_of_getElem? hstore, he⟩) held.query job hexact store,
    Classifier.run_fst _ (by omega)
      (fun e he => ⟨store', List.mem_of_getElem? hstore', he⟩) held'.query
      (job.renamed old new) hexact store', hgroups]
  exact congrArg (some ·.result) (Classifier.foldl_countRecord_renamed hquery hmoved hunused
    hsound generation generation' _ _ hname _ _)

end Renamed

/-- Where a category is renamed to an unused name, in a store and in a query, the query
accepts the records of the store as before, and a classification over the new name gives
the buckets that one over the old name gave. -/
theorem categoryRename_changes_nothing_else (actions : List Action)
    (hheld : (start.run actions).queries[place]? = some held)
    (hstore : (start.run actions).stores[source]? = some store)
    (htexts : new ∉ held.query.texts) (hunused : store.Unused new) :
    let before := start.run actions
    let after := start.run (actions ++ categoryRename source place old new)
    (∀ record stamp stamp', after.freshVerdict place source record stamp' =
        before.freshVerdict place source record stamp) ∧
      (before.stamp + 2 < 2 ^ 63 →
        (∀ record, (after.matchRecord place source record source).map (·.1) =
          (before.matchRecord place source record source).map (·.1)) ∧
        ∀ (job : Classifier) (places : Option Places), job.category = old →
          job.stopEarly = false →
          (after.classify place source { job with category := new } source places).map (·.1) =
            (before.classify place source job source places).map (·.1)) := by
  intro before after
  have hnew : new ∈ held.query.texts → old = new := fun hmem => absurd hmem htexts
  refine ⟨freshVerdict_categoryRename actions hheld hstore hnew hunused, fun hstamp =>
    ⟨matchRecord_categoryRename actions hheld hstore hnew hunused hstamp, ?_⟩⟩
  intro job places hcategory hexact
  have hname : job.category = new → old = new := fun hname => hcategory.symm.trans hname
  have hclassify :=
    classify_categoryRename actions hheld hstore hnew hunused hstamp hname hexact places
  rw [Classifier.renamed, hcategory, renamed_old] at hclassify
  exact hclassify

/-- A category with a group is renamed, and a query that asks for the group. -/
theorem categoryRename_changes_nothing_else_of_group :
    let fixture : Fixture :=
      { records := [Record.addTag { fileName := "a.jpg" } "People" "Anne"]
        groups := (∅ : GroupTables).insert "People" ((∅ : TagTable).insert "Family" {"Anne"}) }
    let before := start.run [.openStore fixture, .newQuery 0,
      .editQuery 0 (.text "People" "Family"), .matchRecord 0 0 0 0]
    let after := start.run ([.openStore fixture, .newQuery 0,
      .editQuery 0 (.text "People" "Family"), .matchRecord 0 0 0 0] ++
        categoryRename 0 0 "People" "Persons")
    before.stamp + 2 < 2 ^ 63 ∧ (after.matchRecord 0 0 0 0).map (·.1) = some true ∧
      (after.classify 0 0 { category := "Persons" }).map (·.1) =
        (before.classify 0 0 { category := "People" }).map (·.1) := by
  intro fixture before after
  have hstamp : before.stamp + 2 < 2 ^ 63 := by decide +kernel
  obtain ⟨held, hheld⟩ : ∃ held, before.queries[0]? = some held := ⟨_, rfl⟩
  obtain ⟨store, hstore⟩ : ∃ store, before.stores[0]? = some store := ⟨_, rfl⟩
  have htexts : "Persons" ∉ held.query.texts := by
    cases hheld
    decide +kernel
  have hunused : store.Unused "Persons" := by
    cases hstore
    have htags : ∀ r ∈ [Record.addTag { fileName := "a.jpg" } "People" "Anne"],
        (r.tagsOf "Persons").isEmpty = true := by decide +kernel
    exact ⟨fun r hr => TagSet.isEmpty_iff.mp (htags r hr), by decide +kernel⟩
  obtain ⟨-, hanswers⟩ := @categoryRename_changes_nothing_else 0 0 held store "People"
    "Persons" _ hheld hstore htexts hunused
  obtain ⟨hmatch, hclassify⟩ := hanswers hstamp
  have hmatched : (before.matchRecord 0 0 0 0).map (·.1) = some true := by decide +kernel
  exact ⟨hstamp, (hmatch 0).trans hmatched, hclassify { category := "People" } none rfl rfl⟩

end TagQuery.Session
