import TagQuery.Proofs.Classification.DateOrder
import TagQuery.Proofs.Session.Answers
import TagQuery.Proofs.Session.Entries

/-!
# The ranges of a session are in order

A session holds ranges in its records, in the filters of its queries and in those of the
compiled queries that are kept.  Nothing that is done in it reverses a range: an action
puts ranges there as they are handed in, or passes on those that are there.  What is
handed in is taken as it is, and a range that is read from a text bound by bound may be
reversed.
-/

namespace TagQuery

/-! ## Changes -/

/-- The change leaves a range in order. -/
def RecordEdit.InOrder : RecordEdit → Prop
  | .overwrite change => ∀ r : Record, r.date.InOrder → (change r).date.InOrder
  | .replace record => record.date.InOrder
  | _ => True

/-- The ranges of records that are put in are in order, and others are left so. -/
def StoreEdit.InOrder : StoreEdit → Prop
  | .insert record => record.date.InOrder
  | .access edits => ∀ edit ∈ edits, edit.Only RecordEdit.InOrder
  | _ => True

/-- The range that is set is in order. -/
def QueryEdit.InOrder : QueryEdit → Prop
  | .date range => range.InOrder
  | _ => True

theorem Record.date_renameTag (r : Record) (category old new : String) :
    (r.renameTag category old new).date = r.date := by
  unfold renameTag
  split
  · rfl
  · rfl

theorem Record.date_renameCategory (r : Record) (old new : String) :
    (r.renameCategory old new).date = r.date := by
  unfold renameCategory
  split
  · rfl
  · rfl

/-- Changes of tags leave the range of a record alone. -/
theorem Entry.stableUnder_inOrder :
    StableUnder RecordEdit.InOrder fun e => e.record.date.InOrder := by
  intro e change hchange he
  cases change with
  | addTag category value => exact he
  | removeTag category value => exact he
  | renameTag category old new =>
      have hdate := e.record.date_renameTag category old new
      exact hdate ▸ he
  | renameCategory old new =>
      have hdate := e.record.date_renameCategory old new
      exact hdate ▸ he
  | overwrite change => exact hchange e.record he
  | replace record => exact hchange

/-! ## Stores -/

namespace RecordStore

/-- The ranges of all records are in order. -/
def InOrder (store : RecordStore) : Prop :=
  ∀ e ∈ store.entries, e.record.date.InOrder

variable {store : RecordStore}

theorem inOrder_ofRecords {records : List Record} (h : ∀ r ∈ records, r.date.InOrder)
    (groups : GroupTables) (stamp : ℕ) : (ofRecords records groups stamp).InOrder := by
  intro e he
  obtain ⟨r, hr, rfl⟩ := List.mem_map.mp he
  exact h r hr

theorem InOrder.edit (h : store.InOrder) {change : StoreEdit} (hchange : change.InOrder)
    (stamp : ℕ) : (store.edit change stamp).InOrder := by
  have htouched : InOrder { store with touched := stamp } := h
  cases change with
  | insert record =>
      intro e he
      rcases List.mem_append.mp he with he | he
      · exact h e he
      · rw [List.mem_singleton.mp he]
        exact hchange
  | access edits => exact EntryEdit.forall_mem_foldl Entry.stableUnder_inOrder hchange h
  | regroup changes => exact h
  | renameCategory old new =>
      exact forall_mem_editEach Entry.stableUnder_inOrder trivial htouched
  | renameItem category old new =>
      exact forall_mem_editEach Entry.stableUnder_inOrder trivial htouched

end RecordStore

/-! ## Queries -/

namespace SearchQuery

/-- The ranges in the filters are in order, those that are set and those that were
compiled. -/
structure InOrder (q : SearchQuery) : Prop where
  filters : q.filters.date.InOrder
  compiled : ∀ c, q.compiled = some c → c.filters.date.InOrder

variable {q q' : SearchQuery} {store : RecordStore} {stamp : ℕ}

theorem inOrder_of_compiled_eq_none (hdate : q.filters.date.InOrder) (hnone : q.compiled = none) :
    q.InOrder where
  filters := hdate
  compiled := by
    intro c hc
    rw [hnone] at hc
    contradiction

theorem inOrder_withRange (generation : ℕ) {date : DateRange} (hdate : date.InOrder)
    (label description : String) : (withRange generation date label description).InOrder :=
  inOrder_of_compiled_eq_none hdate rfl

theorem inOrder_new (generation : ℕ) : (new generation).InOrder :=
  inOrder_of_compiled_eq_none DateRange.inOrder_unbounded rfl

/-- Only one kind of change sets a range. -/
theorem inOrder_change {change : QueryEdit} (hchange : change.InOrder)
    (hq : q.filters.date.InOrder) (h : q.change change = .ok q') :
    q'.filters.date.InOrder := by
  cases change with
  | date range =>
      cases h
      exact hchange
  | fileNamePattern source =>
      simp only [SearchQuery.change] at h
      split at h
      · cases h
        exact hq
      · obtain ⟨pattern, rfl⟩ := exists_eq_of_map_eq_ok h
        exact hq
  | freeform source =>
      simp only [SearchQuery.change] at h
      split at h
      · cases h
        exact hq
      · obtain ⟨pattern, rfl⟩ := exists_eq_of_map_eq_ok h
        exact hq
  | _ =>
      cases h
      exact hq

theorem InOrder.edit (hq : q.InOrder) {change : QueryEdit} (hchange : change.InOrder)
    {generation : ℕ} (h : q.edit change generation = .ok q') : q'.InOrder := by
  have hcompiled := (edit_eq_ok h).2
  constructor
  · unfold SearchQuery.edit at h
    cases hdone : q.change change with
    | error invalid =>
        rw [hdone] at h
        contradiction
    | ok changed =>
        have hdate := inOrder_change hchange hq.filters hdone
        rw [hdone] at h
        cases h
        exact hdate
  · intro c hc
    exact hq.compiled c (hcompiled.symm.trans hc)

theorem InOrder.editAll {edits : List QueryEdit} (hq : q.InOrder)
    (hedits : ∀ change ∈ edits, change.InOrder) {drawn : ℕ}
    (h : (q.editAll drawn edits).1 = .ok q') : q'.InOrder := by
  induction edits generalizing q drawn with
  | nil =>
      cases h
      exact hq
  | cons change edits ih =>
      rw [List.forall_mem_cons] at hedits
      unfold SearchQuery.editAll at h
      cases hedit : q.edit change (drawn + 1) with
      | error invalid =>
          rw [hedit] at h
          contradiction
      | ok edited =>
          rw [hedit] at h
          exact ih (hq.edit hedits.1 hedit) hedits.2 h

/-- What a query is compiled to has the filters of the query. -/
theorem InOrder.refresh_fst (hq : q.InOrder) (store : RecordStore) (stamp : ℕ) :
    (q.refresh store stamp).1.filters.date.InOrder := by
  rcases q.refresh_fst_cases store stamp with hkept | hcompile
  · exact hq.compiled _ hkept
  · rw [hcompile]
    exact hq.filters

theorem InOrder.asked (hq : q.InOrder) (h : q.Asked store stamp q') : q'.InOrder := by
  rcases h with rfl | ⟨evaluations, rfl⟩
  · exact hq
  · constructor
    · exact hq.filters
    · intro c hc
      have hsame : (q.refresh store stamp).1 = c := Option.some.inj hc
      rw [← hsame]
      exact hq.refresh_fst store stamp

theorem inOrder_ofLock {saved : TextTable} {drawn : ℕ} (h : (ofLock saved drawn).1 = .ok q) :
    q.InOrder := by
  unfold ofLock at h
  dsimp only at h
  split at h
  · contradiction
  · cases h
    exact inOrder_of_compiled_eq_none DateRange.inOrder_unbounded rfl

end SearchQuery

namespace SearchRequest

theorem forall_mem_editIf {P : QueryEdit → Prop} {wanted : Bool} {change : QueryEdit}
    (h : P change) : ∀ e ∈ editIf wanted change, P e := by
  unfold editIf
  split
  · exact List.forall_mem_singleton.mpr h
  · exact List.forall_mem_nil P

/-- One of the changes of a request sets its range. -/
theorem inOrder_edits {r : SearchRequest} (hr : r.date.InOrder) :
    ∀ change ∈ r.edits, change.InOrder := by
  have hmap : ∀ {α : Type} (xs : List α) (make : α → QueryEdit), (∀ x, (make x).InOrder) →
      ∀ change ∈ xs.map make, change.InOrder := by
    intro α xs make hmake
    rw [List.forall_mem_map]
    intro x _
    exact hmake x
  have hoption : ∀ {α : Type} (x : Option α) (make : α → QueryEdit), (∀ x, (make x).InOrder) →
      ∀ change ∈ (x.map make).toList, change.InOrder := by
    intro α x make hmake change hchange
    rw [Option.toList_map] at hchange
    exact hmap x.toList make hmake change hchange
  simp only [edits, List.forall_mem_append, and_assoc]
  -- Match texts, label and description stand before the range, the patterns at the end.
  refine ⟨hmap _ _ fun _ => trivial, forall_mem_editIf trivial, forall_mem_editIf trivial,
    forall_mem_editIf hr, ?_, ?_, ?_, ?_, ?_, ?_, hoption _ _ fun _ => trivial,
    hoption _ _ fun _ => trivial⟩
  all_goals exact forall_mem_editIf trivial

theorem inOrder_build {r : SearchRequest} (hr : r.date.InOrder) {drawn : ℕ} {q : SearchQuery}
    (h : (r.build drawn).1 = .ok q) : q.InOrder :=
  (SearchQuery.inOrder_new _).editAll (inOrder_edits hr) h

end SearchRequest

/-! ## Sessions -/

namespace Session

/-- Every range that a session holds is in order. -/
structure InOrder (s : Session) : Prop where
  stores : ∀ store ∈ s.stores, store.InOrder
  queries : ∀ held ∈ s.queries, held.query.InOrder
  snapshots : ∀ c ∈ s.snapshots, c.filters.date.InOrder

/-- The ranges that an action hands in are in order. -/
def Action.InOrder : Action → Prop
  | .openStore fixture => ∀ r ∈ fixture.records, r.date.InOrder
  | .editStore _ change => change.InOrder
  | .newRangeQuery _ date _ _ => date.InOrder
  | .request _ wanted => wanted.date.InOrder
  | .editQuery _ change => change.InOrder
  | _ => True

variable {s s' : Session} {place source record : ℕ} {held : HeldQuery} {old : RecordStore}
  {q : SearchQuery} {c : CompiledQuery} {entries : List Entry}

theorem inOrder_start : start.InOrder where
  stores := by simp [start]
  queries := by simp [start]
  snapshots := by simp [start]

namespace InOrder

theorem query (hs : s.InOrder) (hheld : s.queries[place]? = some held) :
    held.query.InOrder :=
  hs.queries held (List.mem_of_getElem? hheld)

theorem store (hs : s.InOrder) (hold : s.stores[place]? = some old) : old.InOrder :=
  hs.stores old (List.mem_of_getElem? hold)

/-! ### Parts of a session -/

theorem setStamp (hs : s.InOrder) (stamp : ℕ) : InOrder { s with stamp } where
  stores := hs.stores
  queries := hs.queries
  snapshots := hs.snapshots

theorem setStore (hs : s.InOrder) {new : RecordStore} (hnew : new.InOrder) (place : ℕ) :
    (s.setStore place new).InOrder where
  stores := forall_mem_set hs.stores hnew
  queries := hs.queries
  snapshots := hs.snapshots

theorem setGenerations (hs : s.InOrder) (place drawn : ℕ) :
    (s.setGenerations place drawn).InOrder where
  stores := ForallEntries.setGenerations hs.stores place drawn
  queries := hs.queries
  snapshots := hs.snapshots

/-- The records of a store are looked at. -/
theorem setEntries (hs : s.InOrder) (hold : s.stores[place]? = some old)
    {P : CompiledQuery → Prop}
    (hentries : List.Forall₂ (Entry.Rewritten P) old.entries entries) :
    (s.setEntries place entries).InOrder := by
  rw [setEntries_eq hold]
  exact hs.setStore (Entry.forall_inOrder_of_rewritten hentries (hs.store hold)) place

theorem setQuery (hs : s.InOrder) (hheld : s.queries[place]? = some held) (hq : q.InOrder) :
    (s.setQuery place q).InOrder where
  stores := hs.stores
  queries := by
    intro held' hheld'
    rcases mem_setQuery hheld hheld' with hheld' | rfl
    · exact hs.queries held' hheld'
    · exact hq
  snapshots := hs.snapshots

theorem setAsked (hs : s.InOrder) (hheld : s.queries[place]? = some held)
    {vocabulary : RecordStore} (hasked : held.query.Asked vocabulary s.stamp q) :
    (s.setAsked place q).InOrder :=
  (hs.setQuery hheld ((hs.query hheld).asked hasked)).setStamp _

theorem addQuery (hs : s.InOrder) (hq : q.InOrder) (home : ℕ) :
    (s.addQuery home q).InOrder where
  stores := hs.stores
  queries := by
    rw [Session.addQuery, List.forall_mem_append]
    exact ⟨hs.queries, List.forall_mem_singleton.mpr hq⟩
  snapshots := hs.snapshots

theorem addSnapshot (hs : s.InOrder) (hc : c.filters.date.InOrder) :
    (s.addSnapshot c).InOrder where
  stores := hs.stores
  queries := hs.queries
  snapshots := by
    rw [Session.addSnapshot, List.forall_mem_append]
    exact ⟨hs.snapshots, List.forall_mem_singleton.mpr hc⟩

/-- A query goes through the entries of a store. -/
theorem looks (hs : s.InOrder) {vocabulary : ℕ} (h : s.Looks place source vocabulary s') :
    s'.InOrder := by
  obtain ⟨hheld, hold, -, hvisits⟩ := h
  have hentries := hvisits.leaves.imp fun _ _ hleaves =>
    hleaves.rewritten (P := fun _ => True) trivial
  exact (hs.setAsked hheld hvisits.asked).setEntries (by exact hold) hentries

/-- A compiled query goes through the entries of a store. -/
theorem looksKept (hs : s.InOrder) (h : s.LooksKept place source s') : s'.InOrder := by
  obtain ⟨-, hold, hleaves⟩ := h
  exact hs.setEntries hold (hleaves.imp fun _ _ hleaves =>
    hleaves.rewritten (P := fun _ => True) trivial)

/-! ### Changes -/

theorem openStore (hs : s.InOrder) {fixture : Fixture}
    (h : ∀ r ∈ fixture.records, r.date.InOrder) : (s.openStore fixture).InOrder where
  stores := by
    rw [Session.openStore, List.forall_mem_append]
    exact ⟨hs.stores, List.forall_mem_singleton.mpr (RecordStore.inOrder_ofRecords h _ _)⟩
  queries := hs.queries
  snapshots := hs.snapshots

theorem editStore (hs : s.InOrder) {change : StoreEdit} (hchange : change.InOrder)
    (h : s.editStore place change = some s') : s'.InOrder := by
  obtain ⟨old, hold, rfl⟩ := editStore_eq_some h
  exact (hs.setStore ((hs.store hold).edit hchange s.stamp) place).setStamp _

theorem exchange (hs : s.InOrder) {other otherRecord : ℕ}
    (h : s.exchange place record other otherRecord = some s') : s'.InOrder := by
  have hstores : s'.ForallEntries fun e => e.record.date.InOrder :=
    ForallEntries.exchange hs.stores h
  obtain ⟨old, old', e, e', -, -, -, -, -, rfl⟩ := exchange_eq_some h
  exact ⟨hstores, hs.queries, hs.snapshots⟩

theorem clearCache (hs : s.InOrder) (h : s.clearCache place record = some s') :
    s'.InOrder := by
  simp only [Session.clearCache, Option.bind_eq_bind, Option.bind_eq_some_iff, Option.pure_def,
    Option.some.injEq] at h
  obtain ⟨old, hold, rfl⟩ := h
  exact hs.setEntries hold (Entry.rewritten_clear (fun _ => True) old.entries record)

theorem newQuery (hs : s.InOrder) (h : s.newQuery place = some s') : s'.InOrder := by
  simp only [Session.newQuery, Option.bind_eq_bind, Option.bind_eq_some_iff, Option.pure_def,
    Option.some.injEq] at h
  obtain ⟨old, hold, rfl⟩ := h
  exact (hs.addQuery (SearchQuery.inOrder_new _) place).setGenerations place _

theorem newRangeQuery (hs : s.InOrder) {date : DateRange} (hdate : date.InOrder)
    {label description : String}
    (h : s.newRangeQuery place date label description = some s') : s'.InOrder := by
  simp only [Session.newRangeQuery, Option.bind_eq_bind, Option.bind_eq_some_iff,
    Option.pure_def, Option.some.injEq] at h
  obtain ⟨old, hold, rfl⟩ := h
  exact (hs.addQuery (SearchQuery.inOrder_withRange _ hdate label description)
    place).setGenerations place _

theorem copyQuery (hs : s.InOrder) (h : s.copyQuery place = some s') : s'.InOrder := by
  simp only [Session.copyQuery, Option.bind_eq_bind, Option.bind_eq_some_iff, Option.pure_def,
    Option.some.injEq] at h
  obtain ⟨held, hheld, rfl⟩ := h
  exact hs.addQuery (hs.query hheld) held.home

theorem buildQuery (hs : s.InOrder) {ε : Type} {build : ℕ → Except ε SearchQuery × ℕ}
    (hbuild : ∀ drawn q, (build drawn).1 = .ok q → q.InOrder) {outcome : Except ε Unit}
    (h : s.buildQuery place build = some (outcome, s')) : s'.InOrder := by
  simp only [Session.buildQuery, Option.bind_eq_bind, Option.bind_eq_some_iff] at h
  obtain ⟨old, hold, h⟩ := h
  split at h
  next q drawn hok =>
    cases h
    have hq := hbuild old.generations q (by rw [hok])
    exact (hs.addQuery hq place).setGenerations place drawn
  next problem drawn herror =>
    cases h
    exact hs.setGenerations place drawn

theorem editQuery (hs : s.InOrder) {change : QueryEdit} (hchange : change.InOrder)
    (h : s.editQuery place change = some (.ok s')) : s'.InOrder := by
  obtain ⟨held, home, q, hheld, hhome, hedit, rfl⟩ := editQuery_eq_ok h
  have hq := (hs.query hheld).edit hchange hedit
  exact (hs.setQuery hheld hq).setGenerations held.home _

/-! ### Questions -/

theorem matchBare (hs : s.InOrder) {vocabulary : ℕ} {r : Record} {matched : Bool}
    (h : s.matchBare place vocabulary r = some (matched, s')) : s'.InOrder := by
  simp only [Session.matchBare, Option.bind_eq_bind, Option.bind_eq_some_iff, Option.pure_def,
    Option.some.injEq, Prod.mk.injEq] at h
  obtain ⟨held, hheld, known, hknown, -, rfl⟩ := h
  exact hs.setAsked hheld (SearchQuery.asked_matchBare held.query r known s.stamp)

theorem countByTag (hs : s.InOrder) {category value : String} {count : ℕ}
    (h : s.countByTag place category value = some (count, s')) : s'.InOrder := by
  simp only [Session.countByTag, Option.bind_eq_bind, Option.bind_eq_some_iff, Option.pure_def,
    Option.some.injEq, Prod.mk.injEq] at h
  obtain ⟨old, hold, -, rfl⟩ := h
  have hvisits := SearchQuery.visits_searchEntries
    (SearchQuery.forTag (old.generations + 1) category value)
    { old with generations := old.generations + 2 } s.stamp old.entries
  have hentries : List.Forall₂ (Entry.Rewritten fun _ => True) old.entries _ :=
    hvisits.leaves.imp fun _ _ hleaves => hleaves.rewritten trivial
  have hnew := Entry.forall_inOrder_of_rewritten hentries (hs.store hold)
  exact (hs.setStore (by exact hnew) place).setStamp _

/-! ### Compiled queries -/

theorem compile (hs : s.InOrder) (h : s.compile place source = some s') : s'.InOrder := by
  simp only [Session.compile, Option.bind_eq_bind, Option.bind_eq_some_iff, Option.pure_def,
    Option.some.injEq] at h
  obtain ⟨held, hheld, old, hold, rfl⟩ := h
  exact (hs.addSnapshot (c := held.query.compile old s.stamp)
    (hs.query hheld).filters).setStamp _

theorem keepCompiled (hs : s.InOrder) (h : s.keepCompiled place source = some s') :
    s'.InOrder := by
  simp only [Session.keepCompiled, Option.bind_eq_bind, Option.bind_eq_some_iff,
    Option.pure_def, Option.some.injEq] at h
  obtain ⟨held, hheld, old, hold, rfl⟩ := h
  have hasked : held.query.Asked old s.stamp (held.query.refresh old s.stamp).2 :=
    Or.inr ⟨held.query.evaluations, rfl⟩
  exact (hs.setAsked hheld hasked).addSnapshot ((hs.query hheld).refresh_fst old s.stamp)

/-! ### Classification -/

theorem classify (hs : s.InOrder) {vocabulary : ℕ} {places : Option Places}
    {job : Classifier} {buckets : Buckets}
    (h : s.classify place source job vocabulary places = some (buckets, s')) :
    buckets.InOrder ∧ s'.InOrder := by
  simp only [Session.classify, Option.bind_eq_bind, Option.bind_eq_some_iff, Option.pure_def,
    Option.some.injEq, Prod.mk.injEq] at h
  obtain ⟨held, hheld, old, hold, known, hknown, home, hhome, rfl, rfl⟩ := h
  constructor
  · exact job.inOrder_run _ _ _ _ (hs.store hold) _
  · exact ((hs.setEntries hold (job.rewritten_run _ _ _ _ _ _)).setGenerations _ _).setStamp _

theorem overview (hs : s.InOrder) {category : String} {overview : Overview}
    (h : s.overview place source category = some (overview, s')) :
    (overview.images.InOrder ∧ overview.videos.InOrder) ∧ s'.InOrder := by
  simp only [Session.overview, Option.bind_eq_bind, Option.bind_eq_some_iff, Option.pure_def,
    Option.some.injEq, Prod.mk.injEq] at h
  obtain ⟨held, hheld, old, hold, home, hhome, rfl, rfl⟩ := h
  have hentries := Overview.rewritten_ofStore (P := fun _ => True) held.query category old
    (home.generations + 1) s.stamp (fun _ _ => trivial) (fun _ _ => trivial)
  constructor
  · exact Overview.inOrder_ofStore _ _ _ _ (hs.store hold)
  · exact ((hs.setEntries hold hentries).setGenerations _ _).setStamp _

/-! ### Runs -/

/-- An action that hands in ranges in order leaves ranges in order. -/
theorem perform (hs : s.InOrder) {a : Action} (ha : a.InOrder) : (s.perform a).InOrder := by
  cases a with
  | openStore fixture => exact hs.openStore ha
  | editStore store change => exact getD_cases hs fun _ => hs.editStore ha
  | exchange store record other otherRecord => exact getD_cases hs fun _ => hs.exchange
  | clearCache store record => exact getD_cases hs fun _ => hs.clearCache
  | newQuery home => exact getD_cases hs fun _ => hs.newQuery
  | newRangeQuery home date label description => exact getD_cases hs fun _ => hs.newRangeQuery ha
  | copyQuery query => exact getD_cases hs fun _ => hs.copyQuery
  | request home request =>
      exact afterAnswer_cases hs fun _ _ => hs.buildQuery fun _ _ => SearchRequest.inOrder_build ha
  | restoreLock home saved =>
      exact afterAnswer_cases hs fun _ _ => hs.buildQuery fun _ _ => SearchQuery.inOrder_ofLock
  | editQuery query change => exact afterEdit_cases hs fun _ => hs.editQuery ha
  | matchRecord query store record vocabulary =>
      exact afterAnswer_cases hs fun _ _ h => hs.looks (looks_matchRecord h)
  | matchStore query store vocabulary =>
      exact afterAnswer_cases hs fun _ _ h => hs.looks (looks_matchStore h)
  | matchBare query vocabulary record => exact afterAnswer_cases hs fun _ _ => hs.matchBare
  | search query store => exact afterAnswer_cases hs fun _ _ h => hs.looks (looks_search h)
  | countByTag store category value => exact afterAnswer_cases hs fun _ _ => hs.countByTag
  | dateIndex query store capacity =>
      exact afterAnswer_cases hs fun _ _ h => hs.looks (looks_dateIndex h)
  | compile query store => exact getD_cases hs fun _ => hs.compile
  | keepCompiled query store => exact getD_cases hs fun _ => hs.keepCompiled
  | matchSnapshot snapshot store =>
      exact afterAnswer_cases hs fun _ _ h => hs.looksKept (looks_matchSnapshot h)
  | matchSnapshotRecord snapshot store record =>
      exact afterAnswer_cases hs fun _ _ h => hs.looksKept (looks_matchSnapshotRecord h)
  | classify query store vocabulary places job =>
      exact afterAnswer_cases hs fun _ _ h => (hs.classify h).2
  | overview query store category => exact afterAnswer_cases hs fun _ _ h => (hs.overview h).2

theorem run (hs : s.InOrder) {actions : List Action} (h : ∀ a ∈ actions, a.InOrder) :
    (s.run actions).InOrder := by
  induction actions generalizing s with
  | nil => exact hs
  | cons a actions ih =>
      rw [List.forall_mem_cons] at h
      exact ih (hs.perform h.1) h.2

end InOrder

/-- As long as the ranges that are handed in are in order, all that a session holds are, and
so are those of the buckets that it answers.  The functions that make ranges hand in none
that is reversed. -/
theorem ranges_in_order (actions : List Action) (hactions : ∀ a ∈ actions, a.InOrder) :
    let s := start.run actions
    (∀ store ∈ s.stores, ∀ r ∈ store.records, r.date.InOrder) ∧
      (∀ held ∈ s.queries, held.query.filters.date.InOrder) ∧
      (∀ c, s.Keeps c → c.filters.date.InOrder) ∧
      (∀ (place source vocabulary : ℕ) (job : Classifier) (places : Option Places)
        (buckets : Buckets) (s' : Session),
        s.classify place source job vocabulary places = some (buckets, s') →
          buckets.InOrder) ∧
      (∀ (place source : ℕ) (category : String) (overview : Overview) (s' : Session),
        s.overview place source category = some (overview, s') →
          overview.images.InOrder ∧ overview.videos.InOrder) ∧
      ∀ first last : Option Timestamp, (DateRange.ordered first last).InOrder := by
  intro s
  have hs : s.InOrder := inOrder_start.run hactions
  refine ⟨?_, ?_, ?_, ?_, ?_, DateRange.inOrder_ordered⟩
  · intro store hstore r hr
    obtain ⟨e, he, rfl⟩ := List.mem_map.mp hr
    exact hs.stores store hstore e he
  · intro held hheld
    exact (hs.queries held hheld).filters
  · rintro c (hsnapshot | ⟨held, hheld, hcompiled⟩)
    · exact hs.snapshots c hsnapshot
    · exact (hs.queries held hheld).compiled c hcompiled
  · intro place source vocabulary job places buckets s' h
    exact (hs.classify h).1
  · intro place source category overview s' h
    exact (hs.overview h).1

/-- The bounds of three ranges are given in the wrong order, and the bucket of two records
spans from the first bound of one to the last of the other. -/
theorem ranges_in_order_of_reversed :
    let day := Timestamp.midnight 2020 1
    let fixture : Fixture :=
      { records := [{ fileName := "a.jpg", date := .between (day 5) (day 2) },
          { fileName := "b.jpg", date := .instant (day 9) }]
        groups := ∅ }
    let actions := [Action.openStore fixture, .newRangeQuery 0 (.between (day 9) (day 1)) "" "",
      .editStore 0 (.editRecord 1 (.overwrite ({ · with date := .between (day 8) (day 7) })))]
    (∀ a ∈ actions, a.InOrder) ∧
      ∃ buckets s', (start.run actions).classify 0 0 { category := "People" } =
          some (buckets, s') ∧ buckets.InOrder ∧
        buckets[noneMarker]? = some ⟨2, ⟨some (day 2), some (day 8)⟩⟩ := by
  intro day fixture actions
  have hactions : ∀ a ∈ actions, a.InOrder := by
    simp only [actions, List.forall_mem_cons, List.not_mem_nil, false_imp_iff, imp_true_iff,
      and_true]
    refine ⟨?_, DateRange.inOrder_between _ _, ?_⟩
    · simp only [Action.InOrder, fixture, List.forall_mem_cons, List.not_mem_nil,
        false_imp_iff, imp_true_iff, and_true]
      exact ⟨DateRange.inOrder_between _ _, DateRange.inOrder_instant _⟩
    · intro edit hedit
      rw [List.mem_singleton.mp hedit]
      intro r _
      exact DateRange.inOrder_between _ _
  have hshown : ((start.run actions).classify 0 0 { category := "People" }).map
      (·.1[noneMarker]?) = some (some ⟨2, ⟨some (day 2), some (day 8)⟩⟩) := by
    decide +kernel
  obtain ⟨⟨buckets, s'⟩, hclassify, hbucket⟩ := Option.map_eq_some_iff.mp hshown
  have hinorder := (ranges_in_order actions hactions).2.2.2.1 0 0 0 _ none buckets s' hclassify
  exact ⟨hactions, buckets, s', hclassify, hinorder, hbucket⟩

theorem exists_eq_ok_of_any {ε α : Type} {result : Except ε α} {P : α → Prop} [DecidablePred P]
    (h : result.toOption.any (decide <| P ·) = true) : ∃ x, result = .ok x ∧ P x := by
  cases result with
  | error problem => contradiction
  | ok x => exact ⟨x, rfl, of_decide_eq_true h⟩

/-- A range that is read from a text is taken bound by bound: that of a record, and that of
a query. -/
theorem not_in_order_of_json :
    let date := "\"date\":\x7b\"start\":\"2021-01-01T00:00:00Z\"," ++
      "\"end\":\"2020-01-01T00:00:00Z\"\x7d"
    (∃ fixture, Fixture.ofJson
          ("\x7b\"records\":[\x7b\"file_name\":\"a.jpg\"," ++ date ++ "\x7d]\x7d") =
        .ok fixture ∧
      ∃ store ∈ (start.run [.openStore fixture]).stores,
        ∃ r ∈ store.records, ¬r.date.InOrder) ∧
    ∃ request, SearchRequest.ofJson ("\x7b" ++ date ++ "\x7d") = .ok request ∧
      ∃ held ∈ (start.run [.openStore ⟨[], ∅⟩, .request 0 request]).queries,
        ¬held.query.filters.date.InOrder := by
  constructor
  · exact exists_eq_ok_of_any (by decide +kernel)
  · exact exists_eq_ok_of_any (by decide +kernel)

end Session

end TagQuery
