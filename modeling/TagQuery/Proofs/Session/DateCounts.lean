import TagQuery.Proofs.DateIndex
import TagQuery.Proofs.DateRange
import TagQuery.Proofs.Session.Answers

/-!
# The date bar and the date filter

A date bar takes its numbers from an index over the ranges of all matches, and a click
on it puts a window into the filters of the query.  The index tells ranges inside of
the window from those that reach into it, which the filter takes together.  Both leave
out what ends before the window or begins after it, so they agree as long as they go by
the same window: the filter does not look at an open one, while the index takes it to
end with the latest timestamp.  Only a leap second comes after that.
-/

namespace TagQuery

/-! ## The date filter -/

/-- The filter accepts the ranges that reach into its window, and every range if the
window is open.  No range begins after that but in a leap second. -/
theorem Filters.acceptsDate_eq_overlaps {f : Filters} {r : Record} (hr : r.date.IsForward)
    (hopen : f.date.isNull = true → r.date.lower ≤ .latest) :
    f.acceptsDate r = r.date.overlaps f.date := by
  rw [Bool.eq_iff_iff, hr.overlaps_iff, acceptsDate]
  by_cases hnull : f.date.isNull = true
  · have hwindow : f.date = .unbounded := by
      rw [← DateRange.isNull_iff]
      exact hnull
    rw [hwindow]
    exact iff_of_true rfl ⟨Timestamp.earliest_first _, hopen hnull⟩
  · simp [hnull]

namespace SearchQuery

variable {q q' : SearchQuery} {store : RecordStore}

/-- A window narrows down a query without one. -/
theorem evaluate_date (hnull : q.filters.date.isNull = true) (window : DateRange)
    (generation stamp : ℕ) (r : Record) :
    (({ q with filters.date := window, generation } : SearchQuery).compile store
        stamp).evaluate r =
      ((q.compile store stamp).evaluate r &&
        ({ q.filters with date := window } : Filters).acceptsDate r) := by
  have hdate : q.filters.acceptsDate r = true := by
    rw [Filters.acceptsDate, hnull, Bool.true_or]
  -- The window is looked at between two filters that are cheap as well.
  rw [Bool.eq_iff_iff]
  simp only [CompiledQuery.evaluate, compile, Filters.acceptsBefore, hdate, Bool.and_true,
    Bool.and_eq_true]
  tauto

/-- A query that was asked means the same with another window. -/
theorem Asked.evaluate_date {asked : RecordStore} {stamp : ℕ} (h : q.Asked asked stamp q')
    (hnull : q.filters.date.isNull = true) (window : DateRange) (store : RecordStore)
    (generation stamp' : ℕ) (r : Record) :
    (({ q' with filters.date := window, generation } : SearchQuery).compile store
        stamp').evaluate r =
      ((q.compile store stamp').evaluate r &&
        ({ q.filters with date := window } : Filters).acceptsDate r) := by
  rw [← SearchQuery.evaluate_date hnull window generation]
  rcases h with rfl | ⟨evaluations, rfl⟩
  · rfl
  · rfl

end SearchQuery

/-! ## Searches of a session -/

namespace Session

variable {s : Session} {place source : ℕ} {held : HeldQuery} {store : RecordStore}

/-- Whether an index was made or not, the query was asked at most, and the store keeps
its contents. -/
theorem exists_after_dateIndex (actions : List Action)
    (hstamp : (start.run actions).stamp + 1 < 2 ^ 63)
    (hheld : (start.run actions).queries[place]? = some held)
    (hstore : (start.run actions).stores[source]? = some store) {capacity : ℕ}
    {between : List Action}
    (hbetween : between ∈ [[], [Action.dateIndex place source capacity]]) :
    (start.run (actions ++ between)).stamp < 2 ^ 63 ∧ ∃ home q' store',
      (start.run (actions ++ between)).queries[place]? = some ⟨home, q'⟩ ∧
        held.query.Asked store (start.run actions).stamp q' ∧
        (start.run (actions ++ between)).stores[source]? = some store' ∧
        store'.records = store.records ∧ store'.hierarchy = store.hierarchy := by
  rw [run_append]
  rcases List.mem_cons.mp hbetween with rfl | hbetween
  · obtain ⟨store', hstore', hcontents⟩ := KeepsContents.refl _ source store hstore
    exact ⟨Nat.lt_of_succ_lt hstamp, held.home, held.query, store', hheld,
      SearchQuery.Asked.refl _ _ _, hstore', hcontents⟩
  · obtain ⟨found, s', q', hsearch, hbound, hheld', hasked, hkeeps⟩ :=
      search_kept (dated_run actions) hheld hstore
    have hperform : (start.run actions).run [.dateIndex place source capacity] = s' := by
      change afterAnswer _ _ = s'
      rw [dateIndex_eq_search, hsearch]
      rfl
    obtain ⟨store', hstore', hcontents⟩ := hkeeps source store hstore
    rw [List.mem_singleton.mp hbetween, hperform]
    exact ⟨Nat.lt_of_le_of_lt hbound hstamp, held.home, q', store', hheld', hasked, hstore',
      hcontents⟩

/-- After a query without a window was given one, a search finds as many records as an
index of what it found before counts inside of the window and reaching into it, whatever
the index was asked before and whether it was made before the change or not.  For an open
window, no date may begin in a leap second behind the latest timestamp. -/
theorem index_count_eq_search_count (actions : List Action) (window : DateRange)
    (capacity : ℕ) (earlier : List DateRange)
    (hstamp : (start.run actions).stamp + 1 < 2 ^ 63)
    (hheld : (start.run actions).queries[place]? = some held)
    (hstore : (start.run actions).stores[source]? = some store)
    (hnull : held.query.filters.date.isNull = true)
    (hforward : ∀ r ∈ store.records, r.date.lower ≤ r.date.upper)
    (hopen : window.isNull = true → ∀ r ∈ store.records, r.date.lower ≤ .latest) :
    ∃ index s', (start.run actions).dateIndex place source capacity = some (index, s') ∧
      let answer := ((index.countAll earlier).2.count window).1
      ∀ between ∈ [[], [Action.dateIndex place source capacity]],
        ((start.run (actions ++ between ++ [.editQuery place (.date window)])).search place
          source).map (·.1.length) = some (answer.exact + answer.overlapping) := by
  obtain ⟨found, s', -, hsearch, -⟩ := search_kept (dated_run actions) hheld hstore
  have hfound := (coherent_run actions).search_eq (dated_run actions)
    (Nat.lt_of_succ_lt hstamp) hheld hstore 0
  rw [hsearch, Option.map_some, Option.some.injEq] at hfound
  dsimp only at hfound
  have hranges : ∀ date ∈ found.map (·.date), date.IsForward := by
    intro date hdate
    obtain ⟨r, hr, rfl⟩ := List.mem_map.mp hdate
    rw [hfound] at hr
    exact hforward r (List.mem_filter.mp hr).1
  refine ⟨DateIndex.build (found.map (·.date)) capacity, s', ?_, fun between hbetween => ?_⟩
  · rw [dateIndex_eq_search, hsearch, Option.map_some]
  · -- Both numbers are those of the matches whose dates reach into the window.
    rw [DateIndex.count_total hranges, hfound, List.countP_map, List.countP_filter]
    obtain ⟨hbound, home, q', store', hheld', hasked, hstore', hrecords, hhierarchy⟩ :=
      exists_after_dateIndex actions hstamp hheld hstore hbetween
    have hchange : SearchQuery.change q' (.date window) =
        .ok { q' with filters.date := window } := rfl
    obtain ⟨generation, hafter⟩ :=
      search_editQuery (actions ++ between) hbound hheld' hstore' hchange 0
    have hlength := congrArg (Option.map List.length) hafter
    rw [Option.map_map, Option.map_some, ← List.countP_eq_length_filter, hrecords] at hlength
    refine hlength.trans (congrArg some (List.countP_congr fun r hr => ?_))
    rw [SearchQuery.evaluate_congr _ hrecords hhierarchy 0 0,
      hasked.evaluate_date hnull window,
      Filters.acceptsDate_eq_overlaps (hforward r hr) fun hwindow => hopen hwindow r hr]
    simp only [Function.comp_apply, Bool.and_eq_true]
    tauto

/-- One of three records lies before a window that is open on one side, and another
reaches into it. -/
theorem index_count_eq_search_count_of_half_open :
    let day := Timestamp.midnight 2000 1
    let fixture : Fixture :=
      { records := [{ fileName := "a.jpg", date := .between (day 1) (day 9) },
          { fileName := "b.jpg", date := .instant (day 2) },
          { fileName := "c.jpg", date := .instant (day 5) }]
        groups := ∅ }
    let actions := [Action.openStore fixture, .newQuery 0]
    let window : DateRange := ⟨some (day 3), none⟩
    (start.run actions).stamp + 1 < 2 ^ 63 ∧
      (∀ r ∈ fixture.records, r.date.lower ≤ r.date.upper) ∧
      ∃ index s', (start.run actions).dateIndex 0 0 1 = some (index, s') ∧
        let answer := ((index.countAll [.unbounded, window]).2.count window).1
        answer.exact + answer.overlapping = 2 := by
  intro day fixture actions window
  have hstamp : (start.run actions).stamp + 1 < 2 ^ 63 := by decide
  obtain ⟨held, hheld, hnull⟩ : ∃ held, (start.run actions).queries[0]? = some held ∧
      held.query.filters.date.isNull = true := ⟨_, rfl, rfl⟩
  obtain ⟨store, hstore, hrecords⟩ : ∃ store, (start.run actions).stores[0]? = some store ∧
      store.records = fixture.records := ⟨_, rfl, rfl⟩
  have hforward : ∀ r ∈ fixture.records, r.date.lower ≤ r.date.upper := by
    decide +kernel
  obtain ⟨index, s', hindex, hcount⟩ := index_count_eq_search_count actions window 1
    [.unbounded, window] hstamp hheld hstore hnull (by rwa [hrecords])
    fun hopen => absurd hopen (by decide)
  have hsearch : ((start.run (actions ++ [] ++ [.editQuery 0 (.date window)])).search 0 0).map
      (·.1.length) = some 2 := by
    decide +kernel
  refine ⟨hstamp, hforward, index, s', hindex, ?_⟩
  exact Option.some.inj ((hcount [] List.mem_cons_self).symm.trans hsearch)

/-- A date in the leap second behind the latest timestamp is found, but not counted. -/
theorem index_count_ne_search_count_of_leap_second :
    let leap : Timestamp := ⟨8210266876799, 1000000000, by decide, by decide, by decide⟩
    let fixture : Fixture :=
      { records := [{ fileName := "a.jpg", date := .instant leap }]
        groups := ∅ }
    let actions := [Action.openStore fixture, .newQuery 0]
    (∀ r ∈ fixture.records, r.date.lower ≤ r.date.upper) ∧
      ((start.run actions).dateIndex 0 0 1).map (fun after =>
          (after.1.count .unbounded).1.exact + (after.1.count .unbounded).1.overlapping) =
        some 0 ∧
      ((start.run (actions ++ [.editQuery 0 (.date .unbounded)])).search 0 0).map
        (·.1.length) = some 1 := by
  decide +kernel

end Session

end TagQuery
