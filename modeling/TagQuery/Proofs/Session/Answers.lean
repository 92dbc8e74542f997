import TagQuery.Proofs.Session.Coherence

/-!
# Answers before and after a change

In a coherent session every answer is the one that is worked out afresh, and it
depends on nothing of a store but its records and groups.  Two sessions whose stores
have these in common can therefore be compared by what their queries ask.
-/

namespace TagQuery

/-- An answer that is worked out depends on the records and groups of a store. -/
theorem SearchQuery.evaluate_congr (q : SearchQuery) {old new : RecordStore}
    (hrecords : new.records = old.records) (hhierarchy : new.hierarchy = old.hierarchy)
    (stamp stamp' : ℕ) (r : Record) :
    (q.compile new stamp).evaluate r = (q.compile old stamp').evaluate r := by
  have hwildcard : (Wildcard.ofPattern · new) = (Wildcard.ofPattern · old) :=
    funext fun pattern => Wildcard.ofPattern_congr pattern hrecords hhierarchy
  simp only [CompiledQuery.evaluate, compile, hhierarchy, hwildcard]

namespace Session

variable {s s' s'' : Session} {place source vocabulary : ℕ} {held : HeldQuery}
  {store : RecordStore}

/-! ## Answers -/

theorem Coherent.matchBare_eq (hs : s.Coherent) (hheld : s.queries[place]? = some held)
    (hstore : s.stores[vocabulary]? = some store) (stamp : ℕ) (r : Record) :
    (s.matchBare place vocabulary r).map (·.1) =
      some ((held.query.compile store stamp).evaluate r) := by
  have hverdict := hs.verdict_eq (List.mem_of_getElem? hheld) (List.mem_of_getElem? hstore)
    stamp r
  have hbare : (held.query.matchBare r store s.stamp).1 =
      (held.query.isNull || (held.query.refresh store s.stamp).1.evaluate r) := by
    unfold SearchQuery.matchBare
    split
    next hnull => rw [hnull, Bool.true_or]
    next hnull => rw [Bool.eq_false_iff.mpr hnull, Bool.false_or]
  simp [matchBare, hheld, hstore, hbare, hverdict]

theorem Coherent.matchRecord_eq (hdated : s.Dated) (hs : s.Coherent)
    (hstamp : s.stamp < 2 ^ 63) (hheld : s.queries[place]? = some held)
    (hstore : s.stores[vocabulary]? = some store) {record : ℕ} {e : Entry}
    (he : store.entries[record]? = some e) (stamp : ℕ) :
    (s.matchRecord place vocabulary record vocabulary).map (·.1) =
      some ((held.query.compile store stamp).evaluate e.record) := by
  have hmem := List.mem_of_getElem? hheld
  have hknown := List.mem_of_getElem? hstore
  have hagrees := hs.agrees_refresh hdated hstamp hmem hknown e (List.mem_of_getElem? he)
  have hmatch := SearchQuery.matchEntry_fst hagrees
  rw [hs.verdict_eq hmem hknown stamp] at hmatch
  simp [matchRecord, hheld, hstore, he, hmatch]

theorem Coherent.search_eq (hdated : s.Dated) (hs : s.Coherent)
    (hstamp : s.stamp < 2 ^ 63) (hheld : s.queries[place]? = some held)
    (hstore : s.stores[vocabulary]? = some store) (stamp : ℕ) :
    (s.search place vocabulary).map (·.1) = some (store.records.filter fun r =>
      !r.locked && (held.query.compile store stamp).evaluate r) := by
  have hmem := List.mem_of_getElem? hheld
  have hknown := List.mem_of_getElem? hstore
  have hfound :=
    SearchQuery.searchEntries_fst (hs.agrees_refresh hdated hstamp hmem hknown)
  simp only [hs.verdict_eq hmem hknown stamp] at hfound
  simp [search, SearchQuery.search, hheld, hstore, hfound, RecordStore.records]

/-! ## Stores that keep their contents -/

/-- Every store is still at its place and has the same records and groups. -/
def KeepsContents (s s' : Session) : Prop :=
  ∀ (i : ℕ) (old : RecordStore), s.stores[i]? = some old →
    ∃ new, s'.stores[i]? = some new ∧ new.records = old.records ∧
      new.hierarchy = old.hierarchy

theorem KeepsContents.refl (s : Session) : s.KeepsContents s :=
  fun _ old hold => ⟨old, hold, rfl, rfl⟩

theorem KeepsContents.trans (h : s.KeepsContents s') (h' : s'.KeepsContents s'') :
    s.KeepsContents s'' := by
  intro i old hold
  obtain ⟨new, hnew, hrecords, hhierarchy⟩ := h i old hold
  obtain ⟨newer, hnewer, hrecords', hhierarchy'⟩ := h' i new hnew
  exact ⟨newer, hnewer, hrecords'.trans hrecords, hhierarchy'.trans hhierarchy⟩

/-- One store is changed in something else than its contents. -/
theorem keepsContents_modify {change : RecordStore → RecordStore}
    (hstores : s'.stores = s.stores.modify place change)
    (hchange : ∀ old, s.stores[place]? = some old →
      (change old).records = old.records ∧ (change old).hierarchy = old.hierarchy) :
    s.KeepsContents s' := by
  intro i old hold
  rw [hstores, List.getElem?_modify, hold]
  by_cases hplace : place = i
  · rw [← hplace] at hold
    exact ⟨change old, by simp [hplace], hchange old hold⟩
  · exact ⟨old, by simp [hplace], rfl, rfl⟩

theorem keepsContents_setGenerations (s : Session) (place drawn : ℕ) :
    s.KeepsContents (s.setGenerations place drawn) :=
  keepsContents_modify rfl fun _ _ => ⟨rfl, rfl⟩

/-- A change of a query that does not fail puts the changed query at its place. -/
theorem perform_editQuery (hs : s.Homed) (hheld : s.queries[place]? = some held)
    {change : QueryEdit} {q : SearchQuery} (hchange : held.query.change change = .ok q) :
    (s.perform (.editQuery place change)).stamp = s.stamp ∧
      s.KeepsContents (s.perform (.editQuery place change)) ∧
      ∃ generation, (s.perform (.editQuery place change)).queries[place]? =
        some ⟨held.home, { q with generation }⟩ := by
  obtain ⟨home, hhome, -⟩ := hs held (List.mem_of_getElem? hheld)
  have hedit : s.editQuery place change = some (.ok
      ((s.setQuery place { q with generation := home.generations + 1 }).setGenerations
        held.home (home.generations + 1))) := by
    simp [editQuery, hheld, hhome, SearchQuery.edit, hchange, Except.map]
  rw [perform, hedit, afterEdit]
  refine ⟨rfl, ?_, home.generations + 1, ?_⟩
  · exact keepsContents_setGenerations (s.setQuery place _) held.home _
  · change (s.queries.modify place _)[place]? = _
    rw [List.getElem?_modify_eq, hheld]
    rfl

/-- A classification of a whole store takes two stamps and leaves everything but caches
and generations as it is. -/
theorem classify_eq (hs : s.Homed) (hheld : s.queries[place]? = some held)
    (hstore : s.stores[vocabulary]? = some store) (job : Classifier) :
    ∃ generation s', s.classify place vocabulary job =
        some ((job.run held.query store generation s.stamp store.entries
          (List.range store.entries.length)).1, s') ∧
      s'.stamp = s.stamp + 2 ∧ s'.queries = s.queries ∧ s.KeepsContents s' := by
  obtain ⟨home, hhome, -⟩ := hs held (List.mem_of_getElem? hheld)
  have hrecords := Entry.records_eq_of_rewritten (job.rewritten_run held.query store
    (home.generations + 1) s.stamp store.entries (List.range store.entries.length))
  generalize hrun : job.run held.query store (home.generations + 1) s.stamp store.entries
    (List.range store.entries.length) = outcome at hrecords
  refine ⟨home.generations + 1, ((s.setEntries vocabulary outcome.2).setGenerations
    held.home (home.generations + 1)).draw 2, ?_, rfl, rfl, ?_⟩
  · simp only [classify, hheld, hstore, hhome, Option.bind_eq_bind, Option.bind_some,
      Option.pure_def, Option.getD_none, hrun]
  · have hentries : s.KeepsContents (s.setEntries vocabulary outcome.2) := by
      refine keepsContents_modify rfl fun old hold => ⟨?_, rfl⟩
      rw [hstore] at hold
      cases hold
      exact hrecords
    exact hentries.trans (keepsContents_setGenerations _ held.home _)

/-- A search takes one stamp at most, and leaves a query at its place that was asked. -/
theorem search_kept (hdated : s.Dated) (hheld : s.queries[place]? = some held)
    (hstore : s.stores[source]? = some store) :
    ∃ found s' q', s.search place source = some (found, s') ∧ s'.stamp ≤ s.stamp + 1 ∧
      s'.queries[place]? = some ⟨held.home, q'⟩ ∧ held.query.Asked store s.stamp q' ∧
      s.KeepsContents s' := by
  have hvisits := SearchQuery.visits_searchEntries held.query store s.stamp store.entries
  generalize hfound : held.query.searchEntries store s.stamp store.entries = outcome at hvisits
  obtain ⟨found, q', entries⟩ := outcome
  have hentries : List.Forall₂ (Entry.Rewritten fun _ => True) store.entries entries :=
    hvisits.leaves.imp fun _ _ hleaves => hleaves.rewritten trivial
  refine ⟨found, (s.setAsked place q').setStore source { store with entries }, q', ?_, ?_, ?_,
    hvisits.asked, ?_⟩
  · simp [search, SearchQuery.search, hheld, hstore, hfound]
  · change q'.nextStamp s.stamp ≤ s.stamp + 1
    unfold SearchQuery.nextStamp
    cases hcompiled : q'.compiled with
    | none => exact Nat.le_succ _
    | some c =>
        -- What the query was compiled to before is older than the session.
        rcases hvisits.asked.compiled_cases hcompiled with hold | rfl
        · have hlt := (hdated.compiled_lt c
            (Or.inr ⟨held, List.mem_of_getElem? hheld, hold⟩)).2
          exact Nat.max_le.mpr ⟨Nat.le_succ _, by omega⟩
        · exact Nat.max_le.mpr ⟨Nat.le_succ _, Nat.le_refl _⟩
  · change (s.queries.modify place _)[place]? = _
    rw [List.getElem?_modify_eq, hheld]
    rfl
  · have hset : ((s.setAsked place q').setStore source { store with entries }).stores =
        s.stores.modify source ({ · with entries }) :=
      (modify_eq_set (fun old : RecordStore => { old with entries }) hstore).symm
    refine keepsContents_modify hset fun old hold => ?_
    rw [hstore] at hold
    cases hold
    exact ⟨Entry.records_eq_of_rewritten hentries, rfl⟩

/-- An index is made of what a search finds. -/
theorem dateIndex_eq_search (s : Session) (place source capacity : ℕ) :
    s.dateIndex place source capacity = (s.search place source).map fun after =>
      (DateIndex.build (after.1.map (·.date)) capacity, after.2) := by
  unfold dateIndex search
  cases s.queries[place]? with
  | none => rfl
  | some held =>
      cases s.stores[source]? with
      | none => rfl
      | some store => rfl

theorem run_append (s : Session) (actions more : List Action) :
    s.run (actions ++ more) = (s.run actions).run more :=
  List.foldl_append

/-- After a change that does not fail, a search finds what the changed query accepts. -/
theorem search_editQuery (actions : List Action)
    (hstamp : (start.run actions).stamp < 2 ^ 63)
    (hheld : (start.run actions).queries[place]? = some held)
    (hstore : (start.run actions).stores[source]? = some store) {change : QueryEdit}
    {q : SearchQuery} (hchange : held.query.change change = .ok q) (stamp : ℕ) :
    ∃ generation, ((start.run (actions ++ [.editQuery place change])).search place
        source).map (·.1) =
      some (store.records.filter fun r => !r.locked &&
        (({ q with generation } : SearchQuery).compile store stamp).evaluate r) := by
  obtain ⟨hsame, hkeeps, generation, hheld'⟩ :=
    perform_editQuery (coherent_run actions).homed hheld hchange
  obtain ⟨store', hstore', hrecords, hhierarchy⟩ := hkeeps source store hstore
  have hafter : start.run (actions ++ [.editQuery place change]) =
      (start.run actions).perform (.editQuery place change) :=
    run_append start actions _
  rw [← hafter] at hsame hheld' hstore'
  have hbound : (start.run (actions ++ [.editQuery place change])).stamp < 2 ^ 63 := by
    rw [hsame]
    exact hstamp
  refine ⟨generation, ?_⟩
  rw [(coherent_run _).search_eq (dated_run _) hbound hheld' hstore' stamp, hrecords]
  simp only [SearchQuery.evaluate_congr _ hrecords hhierarchy stamp stamp]

end Session

end TagQuery
