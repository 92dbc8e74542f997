import TagQuery.Proofs.Classification.Counts
import TagQuery.Proofs.Hierarchy.Closure
import TagQuery.Proofs.Query.Narrowing

/-!
# Counts and searches agree

A browser shows for each value how many records it stands for, and asks for the value
when it is chosen.  The number comes from the classifier, which counts groups by the
tables of their holders, and what is found comes from a matcher, which knows the values
that the group holds.  Both go by the same records: those that the query accepts
and that hold the value.
-/

namespace TagQuery

namespace Classifier

/-! ## Counts of values -/

theorem recordsAt_range (records : List Record) :
    Setup.recordsAt records (List.range records.length) = records := by
  induction records with
  | nil => rfl
  | cons r records ih =>
      rw [List.length_cons, List.range_succ_eq_map, Setup.recordsAt, List.filterMap_cons,
        List.getElem?_cons_zero, List.filterMap_map]
      exact congrArg _ ih

/-- Without further conditions, all records count that are not locked. -/
theorem admits_category (category : String) (r : Record) :
    ({ category } : Classifier).admits r = !r.locked := by
  have hmedia : MediaMask.any.accepts r.media = true := by cases r.media <;> rfl
  simp [admits, hmedia, inWindow]

/-- For a value that is not asked for already, the buckets show the records that hold
it, whether it is a group or not. -/
theorem valueCount_eq_countP (job : Classifier) {q : SearchQuery} {store : RecordStore}
    (hsound : store.hierarchy.Sound) {value : String}
    (hknown : value ∉ q.alreadyMatched job.category) (records : List Record) :
    job.valueCount q store records value =
      records.countP fun r => decide (r.Holds store.hierarchy job.category value) := by
  rw [valueCount, if_neg hknown]
  by_cases hgroup : store.hierarchy.isGroup job.category value = true
  · rw [if_pos hgroup]
    refine List.countP_congr fun r _ => ?_
    rw [Bool.or_eq_true, Record.hasTag_iff, Record.hasAnyTag_iff, decide_eq_true_eq,
      Record.Holds]
  · rw [if_neg hgroup]
    refine List.countP_congr fun r _ => ?_
    rw [Record.hasTag_iff, decide_eq_true_eq, Record.Holds,
      hsound.membersOf_eq_empty (Bool.eq_false_iff.mpr hgroup)]
    simp

theorem not_mem_alreadyMatched {q : SearchQuery} {category : String}
    (h : ∀ text, q.texts[category]? = some text → Text.isBlankText text = true)
    (value : String) : value ∉ q.alreadyMatched category := by
  unfold SearchQuery.alreadyMatched
  cases htext : q.texts[category]? with
  | none => exact Std.ExtTreeSet.not_mem_empty
  | some text =>
      dsimp only
      rw [MatchText.parse_of_isBlankText (h text htext)]
      exact Std.ExtTreeSet.not_mem_empty

/-- A classification of a whole store counts for a value the records that are not
locked, that the query accepts and that hold the value. -/
theorem countOf_run (actions : List Session.Action) {store : RecordStore}
    (hstamp : (Session.start.run actions).stamp + 1 < 2 ^ 64)
    (hstore : store ∈ (Session.start.run actions).stores) {q : SearchQuery}
    {category value : String} (hmarker : value ≠ noneMarker)
    (hknown : value ∉ q.alreadyMatched category) (generation stamp : ℕ) :
    (({ category } : Classifier).run q store generation (Session.start.run actions).stamp
        store.entries (List.range store.entries.length)).1.countOf value =
      store.records.countP fun r => !r.locked && (q.compile store stamp).evaluate r &&
        decide (r.Holds store.hierarchy category value) := by
  have hsound := Session.grouped_run actions store hstore
  obtain ⟨t, hresult, hcounts⟩ := counts_run actions hstamp hstore q { category } rfl
    generation stamp (List.range store.entries.length)
  have hlength : store.entries.length = store.records.length := by
    rw [RecordStore.records, List.length_map]
  have hexpected : ({ category } : Classifier).valueCount q store (({ category } :
      Classifier).matched q store stamp (List.range store.entries.length)) value =
        store.records.countP fun r => !r.locked && (q.compile store stamp).evaluate r &&
          decide (r.Holds store.hierarchy category value) := by
    rw [valueCount_eq_countP _ hsound hknown, matched, hlength, recordsAt_range,
      List.countP_filter]
    refine List.countP_congr fun r _ => ?_
    rw [admits_category, Bool.and_comm]
  have hbucket := hcounts.result_eq_expected hmarker
  rw [expected_setup _ q hsound, hexpected] at hbucket
  rw [hresult, Buckets.countOf, hbucket]
  split
  next hzero => exact hzero.symm
  next => rfl

end Classifier

/-! ## Choosing a value -/

namespace Session

variable {place source : ℕ} {held : HeldQuery} {store : RecordStore}
  {category value : String}

/-- After a value was added, a search finds what the query accepted before and holds the
value. -/
theorem search_addAnd (actions : List Action)
    (hstamp : (start.run actions).stamp < 2 ^ 63)
    (hheld : (start.run actions).queries[place]? = some held)
    (hstore : (start.run actions).stores[source]? = some store)
    (hasked : held.query.Conjunctive category) (hmarker : value ≠ noneMarker)
    (hvalue : MatchText.parse (MatchText.escape value) = [[⟨value, false⟩]]) (stamp : ℕ) :
    ((start.run (actions ++ [.editQuery place (.addAnd category value)])).search place
        source).map (·.1) =
      some (store.records.filter fun r => !r.locked &&
        (held.query.compile store stamp).evaluate r &&
        decide (r.Holds store.hierarchy category value)) := by
  have hchange : held.query.change (.addAnd category value) =
      .ok (held.query.addAnd category value) := rfl
  obtain ⟨generation, hfound⟩ := search_editQuery actions hstamp hheld hstore hchange stamp
  rw [hfound]
  refine congrArg some (List.filter_congr fun r _ => ?_)
  have hevaluate : (({ held.query.addAnd category value with generation } :
      SearchQuery).compile store stamp).evaluate r = true ↔
        (held.query.compile store stamp).evaluate r = true ∧
          r.Holds store.hierarchy category value :=
    hasked.evaluate_addAnd hmarker hvalue rfl rfl store stamp r
  rw [Bool.and_assoc, Bool.eq_iff_iff, Bool.and_eq_true, Bool.and_eq_true, Bool.and_eq_true,
    decide_eq_true_eq, hevaluate]

/-- The number that a classification of a store shows for a value is that of the records
which a search finds after the value was added to the query, whether the query was
classified before or not.  Nothing must be asked of the category so far. -/
theorem classification_count_eq_search_count (actions : List Action)
    (hstamp : (start.run actions).stamp + 2 < 2 ^ 63)
    (hheld : (start.run actions).queries[place]? = some held)
    (hstore : (start.run actions).stores[source]? = some store)
    (hblank : ∀ text, held.query.texts[category]? = some text →
      Text.isBlankText text = true)
    (hmarker : value ≠ noneMarker)
    (hvalue : MatchText.parse (MatchText.escape value) = [[⟨value, false⟩]]) :
    ∃ count, ((start.run actions).classify place source { category }).map
        (·.1.countOf value) = some count ∧
      ∀ between ∈ [[], [Action.classify place source source none { category }]],
        ((start.run (actions ++ between ++ [.editQuery place (.addAnd category
          value)])).search place source).map (·.1.length) = some count := by
  have hs := coherent_run actions
  have hasked := SearchQuery.conjunctive_of_blank hblank
  obtain ⟨generation, s', hclassify, hstamp', hqueries, hkeeps⟩ :=
    classify_eq hs.homed hheld hstore { category }
  refine ⟨store.records.countP fun r => !r.locked &&
    (held.query.compile store 0).evaluate r &&
    decide (r.Holds store.hierarchy category value), ?_, ?_⟩
  · rw [hclassify, Option.map_some, Classifier.countOf_run actions (by omega)
      (List.mem_of_getElem? hstore) hmarker
      (Classifier.not_mem_alreadyMatched hblank value) generation 0]
  · intro between hbetween
    -- In between, the query stays at its place and the store keeps its contents.
    obtain ⟨hbound, hheld', store', hstore', hrecords, hhierarchy⟩ :
        (start.run (actions ++ between)).stamp < 2 ^ 63 ∧
          (start.run (actions ++ between)).queries[place]? = some held ∧
          ∃ store', (start.run (actions ++ between)).stores[source]? = some store' ∧
            store'.records = store.records ∧ store'.hierarchy = store.hierarchy := by
      rw [run_append]
      rcases List.mem_cons.mp hbetween with rfl | hbetween
      · exact ⟨by change (start.run actions).stamp < 2 ^ 63; omega, hheld,
          KeepsContents.refl _ source store hstore⟩
      · rw [List.mem_singleton.mp hbetween]
        have hperform : (start.run actions).run
            [.classify place source source none { category }] = s' := by
          change afterAnswer _ _ = s'
          rw [hclassify]
          rfl
        rw [hperform, hqueries, hstamp']
        exact ⟨hstamp, hheld, hkeeps source store hstore⟩
    have hfound := search_addAnd (actions ++ between) hbound hheld' hstore' hasked
      hmarker hvalue 0
    have hlength := congrArg (Option.map List.length) hfound
    simp only [hrecords, hhierarchy, SearchQuery.evaluate_congr _ hrecords hhierarchy 0 0,
      Option.map_some, ← List.countP_eq_length_filter] at hlength
    rw [Option.map_map] at hlength
    exact hlength

/-- A group that holds itself through another one, whose members two of three records
carry. -/
theorem classification_count_eq_search_count_of_cycle :
    let fixture : Fixture :=
      { records := [Record.addTag { fileName := "a.jpg" } "People" "Mom",
          .addTag (.addTag { fileName := "b.jpg" } "People" "Kid") "People" "Mom",
          .addTag { fileName := "c.jpg" } "People" "Jim"]
        groups := (∅ : GroupTables).insert "People"
          (((∅ : TagTable).insert "Family" {"Parents", "Kid"}).insert "Parents"
            {"Family", "Mom"}) }
    let actions := [Action.openStore fixture, .newQuery 0]
    (start.run actions).stamp + 2 < 2 ^ 63 ∧
      ((start.run (actions ++ [.classify 0 0 0 none { category := "People" }] ++
        [.editQuery 0 (.addAnd "People" "Family")])).search 0 0).map (·.1.length) = some 2 := by
  intro fixture actions
  have hstamp : (start.run actions).stamp + 2 < 2 ^ 63 := by decide
  obtain ⟨held, hheld, htext⟩ : ∃ held, (start.run actions).queries[0]? = some held ∧
      held.query.texts["People"]? = none := ⟨_, rfl, by decide +kernel⟩
  obtain ⟨store, hstore⟩ : ∃ store, (start.run actions).stores[0]? = some store :=
    ⟨_, rfl⟩
  have hblank : ∀ text, held.query.texts["People"]? = some text →
      Text.isBlankText text = true := by
    intro text h
    rw [htext] at h
    contradiction
  have hmarker : "Family" ≠ noneMarker := by decide
  obtain ⟨count, hcount, hsearch⟩ := classification_count_eq_search_count actions hstamp
    hheld hstore hblank hmarker (by decide +kernel)
  have hshown : ((start.run actions).classify 0 0 { category := "People" }).map
      (·.1.countOf "Family") = some 2 := by
    decide +kernel
  rw [hshown] at hcount
  rw [hcount]
  exact ⟨hstamp, hsearch _ (List.mem_cons_of_mem _ List.mem_cons_self)⟩

end Session

end TagQuery
