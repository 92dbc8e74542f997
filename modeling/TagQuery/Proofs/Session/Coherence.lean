import Mathlib.Data.List.Nodup
import TagQuery.Proofs.Session.Actions

/-!
# Remembered answers are right

Three numbers decide whether a remembered answer is given: the generation of the
query, the revision of the store and the stamp of the compiled query.  The
invariants below say why none of them is ever taken for another one:

- no two stores are at one revision, and no two compiled queries bear one stamp;
- a query and what it was compiled to have generations that its home has drawn, so
  that a change gives it one that fits nothing it was compiled to before;
- a compiled query that fits its query and a store is what the query would be
  compiled to now, and its stamp is newer than the store;
- a cache agrees with every compiled query at hand that is newer than the store.

The last one needs stamps that fit into the caches.  A store is edited without a
look at its caches, which may then contradict compiled queries, but only such as
are older than the store and fit it no more.
-/

namespace TagQuery

/-! ## Stores that were only looked at -/

theorem Wildcard.ofPattern_congr (pattern : Pattern) {old new : RecordStore}
    (hrecords : new.records = old.records) (hhierarchy : new.hierarchy = old.hierarchy) :
    ofPattern pattern new = ofPattern pattern old := by
  have hcategories : new.categories = old.categories := by
    rw [RecordStore.categories, RecordStore.categories, hrecords, hhierarchy]
  have hhits : hits? pattern new = hits? pattern old := by
    funext category
    have hitems : new.itemsOf category = old.itemsOf category := by
      rw [RecordStore.itemsOf, RecordStore.itemsOf, hrecords, hhierarchy]
    unfold hits?
    rw [hitems]
  rw [ofPattern, ofPattern, hcategories, hhits]

/-- What a query is compiled to depends on the groups and records of a store, and
on its revision. -/
theorem SearchQuery.compile_congr (q : SearchQuery) {old new : RecordStore}
    (hrecords : new.records = old.records) (hhierarchy : new.hierarchy = old.hierarchy)
    (htouched : new.touched = old.touched) (stamp : ℕ) :
    q.compile new stamp = q.compile old stamp := by
  have hwildcard : (Wildcard.ofPattern · new) = (Wildcard.ofPattern · old) :=
    funext fun pattern => Wildcard.ofPattern_congr pattern hrecords hhierarchy
  simp only [compile, RecordStore.revision, hhierarchy, htouched, hwildcard]

/-- The stamp does not matter for the answers that are worked out. -/
theorem SearchQuery.evaluate_compile (q : SearchQuery) (store : RecordStore)
    (stamp stamp' : ℕ) (r : Record) :
    (q.compile store stamp).evaluate r = (q.compile store stamp').evaluate r :=
  rfl

namespace Session

variable {s s' : Session}

theorem Visited.compile_eq {bound : ℕ} {old new : RecordStore}
    (h : s.Visited bound old new) (q : SearchQuery) (stamp : ℕ) :
    q.compile new stamp = q.compile old stamp :=
  q.compile_congr (Entry.records_eq_of_rewritten h.entries) h.hierarchy_eq h.touched_eq stamp

/-! ## The invariants -/

/-- Revisions and stamps tell stores and compiled queries apart. -/
structure Distinct (s : Session) : Prop where
  revisions : (s.stores.map (·.revision)).Nodup
  stamps : ∀ c c', s.Keeps c → s.Keeps c' → c.stamp = c'.stamp → c = c'

/-- The generations of a query were drawn from a store that is there. -/
def Homed (s : Session) : Prop :=
  ∀ held ∈ s.queries, ∃ home, s.stores[held.home]? = some home ∧
    held.query.generation ≤ home.generations ∧
    ∀ c, held.query.compiled = some c → c.generation ≤ home.generations

/-- A query that fits what it was compiled to would be compiled to the same now. -/
def Current (s : Session) : Prop :=
  ∀ held ∈ s.queries, ∀ c, held.query.compiled = some c →
    c.generation = held.query.generation →
    ∀ store ∈ s.stores, c.revision = store.revision →
      c = held.query.compile store c.stamp ∧ store.revision < c.stamp

/-- No cache contradicts a compiled query that is newer than the store. -/
def Truthful (s : Session) : Prop :=
  ∀ c, s.Keeps c → ∀ store ∈ s.stores, store.revision < c.stamp →
    ∀ e ∈ store.entries, c.Agrees e

/-- Every answer that is remembered and may be given is right. -/
structure Coherent (s : Session) : Prop where
  distinct : s.Distinct
  homed : s.Homed
  current : s.Current
  truthful : s.stamp < 2 ^ 63 → s.Truthful

/-! ## Distinct numbers -/

theorem not_mem_revisions (hs : s.Dated) {revision : ℕ} (h : s.stamp ≤ revision) :
    revision ∉ s.stores.map (·.revision) := by
  intro hmem
  obtain ⟨store, hstore, rfl⟩ := List.mem_map.mp hmem
  have hlt := hs.revision_lt store hstore
  omega

theorem nodup_revisions_set {place : ℕ} {old new : RecordStore}
    (hrevisions : (s.stores.map (·.revision)).Nodup)
    (hold : s.stores[place]? = some old) (h : new.revision = old.revision) :
    ((s.stores.set place new).map (·.revision)).Nodup := by
  rw [revisions_set hold h]
  exact hrevisions

theorem Distinct.move (hdated : s.Dated) (hs : s.Distinct) (h : Move s s') :
    s'.Distinct where
  revisions := by
    have hrevisions := hs.revisions
    cases h with
    | openStore fixture =>
        have hrenewed := renewed_openStore s fixture
        rw [openStore, List.map_append, List.nodup_append]
        refine ⟨hrevisions, List.nodup_singleton _, fun r hr r' hr' heq => ?_⟩
        rw [List.map_singleton, List.mem_singleton] at hr'
        rw [heq, hr'] at hr
        exact not_mem_revisions hdated hrenewed.le_revision hr
    | renewStore hold hrevision =>
        rw [setStore, List.map_set]
        exact hrevisions.set (not_mem_revisions hdated hrevision)
    | visitStore hold =>
        exact nodup_revisions_set hrevisions hold rfl
    | editQuery hheld hhome =>
        rw [setGenerations_eq (by exact hhome)]
        exact nodup_revisions_set hrevisions hhome rfl
    | _ => exact hrevisions
  stamps := by
    intro c c' hc hc' heq
    rcases h.keeps with hkeeps | ⟨-, -, held, -, store, -, hkeeps⟩
    · exact hs.stamps c c' (hkeeps c hc) (hkeeps c' hc') heq
    · rcases hkeeps c hc with hc | rfl
      · rcases hkeeps c' hc' with hc' | rfl
        · exact hs.stamps c c' hc hc' heq
        · have hlt := (hdated.compiled_lt c hc).2
          rw [heq] at hlt
          exact absurd hlt (Nat.lt_irrefl _)
      · rcases hkeeps c' hc' with hc' | rfl
        · have hlt := (hdated.compiled_lt c' hc').2
          rw [← heq] at hlt
          exact absurd hlt (Nat.lt_irrefl _)
        · rfl

/-- Stores are told apart by their revisions. -/
theorem Distinct.store_eq (hs : s.Distinct) {store store' : RecordStore}
    (hstore : store ∈ s.stores) (hstore' : store' ∈ s.stores)
    (h : store.revision = store'.revision) : store = store' :=
  List.inj_on_of_nodup_map hs.revisions hstore hstore' h

/-! ## Generations -/

theorem Homed.move (hs : s.Homed) (h : Move s s') : s'.Homed := by
  intro held' hheld'
  cases h.origin hheld' with
  | same hheld =>
      obtain ⟨home, hhome, hgeneration, hcompiled⟩ := hs held' hheld
      obtain ⟨home', hhome', hle⟩ := h.generations_le hhome
      exact ⟨home', hhome', Nat.le_trans hgeneration hle,
        fun c hc => Nat.le_trans (hcompiled c hc) hle⟩
  | new hhome hgeneration hnone =>
      obtain ⟨home', hhome', hle⟩ := h.generations_le hhome
      refine ⟨home', hhome', Nat.le_trans hgeneration hle, fun c hc => ?_⟩
      rw [hnone] at hc
      contradiction
  | @edited held home home' hheld hhome hhome' hplace hdrawn hgeneration hcompiled =>
      refine ⟨home', hhome', Nat.le_of_eq hgeneration, fun c hc => ?_⟩
      obtain ⟨known, hknown, -, hle⟩ := hs held hheld
      rw [hhome] at hknown
      cases hknown
      exact Nat.le_trans (hle c (hcompiled.symm.trans hc)) (Nat.le_of_lt hdrawn)
  | @asked held store hstores hheld hstore hplace hasked =>
      obtain ⟨home, hhome, hgeneration, hcompiled⟩ := hs held hheld
      rw [hstores, hplace, hasked.generation_eq]
      refine ⟨home, hhome, hgeneration, fun c hc => ?_⟩
      rcases hasked.compiled_cases hc with hc | rfl
      · exact hcompiled c hc
      · exact hgeneration

/-- What a query is compiled to when it is asked fits the store it was compiled
for, and no other. -/
theorem Current.of_asked (hdated : s.Dated) (hdistinct : s.Distinct) (hs : s.Current)
    {held : HeldQuery} {store : RecordStore} {q : SearchQuery}
    (hheld : held ∈ s.queries) (hstore : store ∈ s.stores)
    (hasked : held.query.Asked store s.stamp q) {c : CompiledQuery}
    (hc : q.compiled = some c) (hgeneration : c.generation = q.generation)
    {store' : RecordStore} (hstore' : store' ∈ s.stores)
    (hrevision : c.revision = store'.revision) :
    c = q.compile store' c.stamp ∧ store'.revision < c.stamp := by
  rw [hasked.generation_eq] at hgeneration
  rw [hasked.compile_eq]
  rcases hasked.compiled_cases hc with hc | rfl
  · exact hs held hheld c hc hgeneration store' hstore' hrevision
  · cases hdistinct.store_eq hstore hstore' hrevision
    exact ⟨rfl, hdated.revision_lt store hstore⟩

theorem Current.move (hdated : s.Dated) (hdistinct : s.Distinct) (hhomed : s.Homed)
    (hs : s.Current) (h : Move s s') : s'.Current := by
  intro held' hheld' c hc hgeneration new hnew hrevision
  -- A query that was never compiled or that was changed fits nothing.
  have hfit : c.revision < s.stamp ∧ ∀ store ∈ s.stores, c.revision = store.revision →
      c = held'.query.compile store c.stamp ∧ store.revision < c.stamp := by
    cases h.origin hheld' with
    | same hheld =>
        exact ⟨(hdated.compiled_lt c (Or.inr ⟨held', hheld, hc⟩)).1,
          hs held' hheld c hc hgeneration⟩
    | new hhome hdrawn hnone =>
        rw [hnone] at hc
        contradiction
    | @edited held home home' hheld hhome hhome' hplace hdrawn hnew hcompiled =>
        obtain ⟨known, hknown, -, hle⟩ := hhomed held hheld
        rw [hhome] at hknown
        cases hknown
        have hold := hle c (hcompiled.symm.trans hc)
        omega
    | @asked held store hstores hheld hstore hplace hasked =>
        refine ⟨?_, fun store' hstore' => Current.of_asked hdated hdistinct hs hheld
          hstore hasked hc hgeneration hstore'⟩
        rcases hasked.compiled_cases hc with hc | rfl
        · exact (hdated.compiled_lt c (Or.inr ⟨held, hheld, hc⟩)).1
        · exact hdated.revision_lt store hstore
  rcases h.stores hnew with ⟨old, hold, hvisited⟩ | hrenewed
  · rw [hvisited.revision_eq] at hrevision ⊢
    rw [hvisited.compile_eq]
    exact hfit.2 old hold hrevision
  · have hle := hrenewed.le_revision
    omega

/-! ## Caches -/

/-- A look at the records of a store leaves no cache that contradicts a compiled query
which was kept before, if none did. -/
theorem Visited.agrees {bound : ℕ} {old new : RecordStore} {c : CompiledQuery}
    (h : s.Visited bound old new) (hdated : s.Dated) (hdistinct : s.Distinct)
    (hbound : bound < 2 ^ 63) (hle : s.stamp ≤ bound) (hc : s.Keeps c)
    (hagrees : ∀ e ∈ old.entries, c.Agrees e) : ∀ e ∈ new.entries, c.Agrees e := by
  have hlt := (hdated.compiled_lt c hc).2
  intro e' he' known hknown
  obtain ⟨e, he, hrecord, hcache⟩ := exists_mem_of_forall₂ h.entries he'
  rw [hrecord]
  rcases hcache with hcache | hcache | ⟨c', ⟨hbound', horigin⟩, hcache⟩
  · rw [hcache] at hknown
    exact hagrees e he known hknown
  · rw [hcache, MatchCache.get?_empty] at hknown
    contradiction
  · -- The number in the cache stands for one stamp only, and that for one query.
    rw [hcache] at hknown
    obtain ⟨hsame, rfl⟩ :=
      MatchCache.get?_set_toUInt64 (by omega) (by omega) hknown
    rcases horigin with hkept | hnew
    · rw [hdistinct.stamps c c' hc hkept hsame]
    · omega

theorem Truthful.move (hdated : s.Dated) (hdistinct : s.Distinct)
    (hstamp : s'.stamp < 2 ^ 63) (hs : s.Truthful) (h : Move s s') : s'.Truthful := by
  have hle := h.stamp_le
  intro c hc new hnew hrevision
  rcases h.keeps with hkeeps | ⟨hstores, hnext, held, hheld, store, hstore, hkeeps⟩
  · have hlt := (hdated.compiled_lt c (hkeeps c hc)).2
    rcases h.stores hnew with ⟨old, hold, hvisited⟩ | hrenewed
    · rw [hvisited.revision_eq] at hrevision
      exact hvisited.agrees hdated hdistinct hstamp hle (hkeeps c hc)
        (hs c (hkeeps c hc) old hold hrevision)
    · have hrenewed := hrenewed.le_revision
      omega
  · rw [hstores] at hnew
    rcases hkeeps c hc with hc | rfl
    · exact hs c hc new hnew hrevision
    · -- No cache has seen the stamp of what was compiled just now.
      intro e' he' known hknown
      have hnone := (hdated.cache_before new hnew e' he').get?_eq_none
        (Nat.le_refl s.stamp) (by omega)
      rw [SearchQuery.compile] at hknown
      rw [hnone] at hknown
      contradiction

/-! ## Runs -/

theorem coherent_start : start.Coherent where
  distinct := ⟨List.nodup_nil, by simp [start, Keeps]⟩
  homed := by simp [Homed, start]
  current := by simp [Current, start]
  truthful := by simp [Truthful, start]

theorem Coherent.move (hdated : s.Dated) (hs : s.Coherent) (h : Move s s') :
    s'.Coherent where
  distinct := hs.distinct.move hdated h
  homed := hs.homed.move h
  current := hs.current.move hdated hs.distinct hs.homed h
  truthful := fun hstamp => (hs.truthful (Nat.lt_of_le_of_lt h.stamp_le hstamp)).move
    hdated hs.distinct hstamp h

theorem Coherent.moves (hdated : s.Dated) (hs : s.Coherent) (h : Moves s s') :
    s'.Coherent := by
  induction h with
  | refl => exact hs
  | tail hmoves hmove ih => exact ih.move (hdated.moves hmoves) hmove

theorem coherent_run (actions : List Action) : (start.run actions).Coherent :=
  run_induction coherent_start (fun _ _ hdated hs h => hs.move hdated h) actions

/-! ## Answers -/

/-- The answer of a query that is compiled afresh, under any stamp. -/
def freshVerdict (s : Session) (place store record stamp : ℕ) : Option Bool := do
  let held ← s.queries[place]?
  let store ← s.stores[store]?
  let entry ← store.entries[record]?
  return (held.query.compile store stamp).evaluate entry.record

/-- The same for every record of a store, one after the other. -/
def freshVerdicts (s : Session) (place store stamp : ℕ) : Option (List Bool) := do
  let held ← s.queries[place]?
  let store ← s.stores[store]?
  return store.records.map (held.query.compile store stamp).evaluate

/-- The records that are not locked and that a query accepts when it is compiled
afresh, in the order of the store. -/
def freshFinds (s : Session) (place store stamp : ℕ) : Option (List Record) := do
  let held ← s.queries[place]?
  let store ← s.stores[store]?
  return store.records.filter fun r =>
    !r.locked && (held.query.compile store stamp).evaluate r

variable {held : HeldQuery} {store : RecordStore}

/-- What a query means now is what it would be compiled to. -/
theorem Coherent.refresh_eq_compile (hs : s.Coherent) (hheld : held ∈ s.queries)
    (hstore : store ∈ s.stores) :
    ∃ stamp, (held.query.refresh store s.stamp).1 = held.query.compile store stamp := by
  obtain ⟨hgeneration, hrevision⟩ := held.query.refresh_fst_fits store s.stamp
  rcases held.query.refresh_fst_cases store s.stamp with hkept | hcompile
  · exact ⟨_, (hs.current held hheld _ hkept hgeneration store hstore hrevision).1⟩
  · exact ⟨s.stamp, hcompile⟩

/-- The caches of a store agree with what a query means now. -/
theorem Coherent.agrees_refresh (hdated : s.Dated) (hs : s.Coherent)
    (hstamp : s.stamp < 2 ^ 63) (hheld : held ∈ s.queries) (hstore : store ∈ s.stores) :
    ∀ e ∈ store.entries, (held.query.refresh store s.stamp).1.Agrees e := by
  intro e he
  obtain ⟨hgeneration, hrevision⟩ := held.query.refresh_fst_fits store s.stamp
  rcases held.query.refresh_fst_cases store s.stamp with hkept | hcompile
  · have hnewer := (hs.current held hheld _ hkept hgeneration store hstore hrevision).2
    exact hs.truthful hstamp _ (Or.inr ⟨held, hheld, hkept⟩) store hstore hnewer e he
  · intro known hknown
    have hnone := (hdated.cache_before store hstore e he).get?_eq_none
      (Nat.le_refl s.stamp) (by omega)
    rw [hcompile, SearchQuery.compile] at hknown
    rw [hnone] at hknown
    contradiction

/-- A query that asks nothing need not be compiled for its answer. -/
theorem Coherent.verdict_eq (hs : s.Coherent) (hheld : held ∈ s.queries)
    (hstore : store ∈ s.stores) (stamp : ℕ) (r : Record) :
    (held.query.isNull || (held.query.refresh store s.stamp).1.evaluate r) =
      (held.query.compile store stamp).evaluate r := by
  cases hnull : held.query.isNull with
  | true =>
      rw [Bool.true_or, CompiledQuery.evaluate_of_isNull]
      exact SearchQuery.compile_isNull hnull store stamp
  | false =>
      obtain ⟨stamp', hcompile⟩ := hs.refresh_eq_compile hheld hstore
      rw [Bool.false_or, hcompile]
      exact held.query.evaluate_compile store stamp' stamp r

/-- After any run, a query answers about a record of a store, about all of them in
turn, and finds in it, what it would if it were compiled and evaluated afresh. -/
theorem answers_eq_fresh (actions : List Action)
    (hstamp : (start.run actions).stamp < 2 ^ 63) (place store record stamp : ℕ) :
    ((start.run actions).matchRecord place store record store).map (·.1) =
        (start.run actions).freshVerdict place store record stamp ∧
      ((start.run actions).matchStore place store store).map (·.1) =
        (start.run actions).freshVerdicts place store stamp ∧
      ((start.run actions).search place store).map (·.1) =
        (start.run actions).freshFinds place store stamp := by
  have hdated := dated_run actions
  have hs := coherent_run actions
  generalize start.run actions = s at hdated hs hstamp ⊢
  unfold matchRecord matchStore search freshVerdict freshVerdicts freshFinds
  cases hheld : s.queries[place]? with
  | none => exact ⟨rfl, rfl, rfl⟩
  | some held =>
      cases hstore : s.stores[store]? with
      | none => exact ⟨rfl, rfl, rfl⟩
      | some known =>
          have hheld := List.mem_of_getElem? hheld
          have hstore := List.mem_of_getElem? hstore
          have hagrees := hs.agrees_refresh hdated hstamp hheld hstore
          have hverdict := hs.verdict_eq hheld hstore stamp
          refine ⟨?_, ?_, ?_⟩
          · cases he : known.entries[record]? with
            | none => simp [he]
            | some e =>
                have hmatch := SearchQuery.matchEntry_fst
                  (hagrees e (List.mem_of_getElem? he))
                rw [hverdict] at hmatch
                simp [he, hmatch]
          · have hmatched := SearchQuery.matchEach_fst hagrees
            simp only [hverdict] at hmatched
            simp [RecordStore.records, hmatched]
          · have hfound := SearchQuery.searchEntries_fst hagrees
            simp only [hverdict] at hfound
            simp [SearchQuery.search, RecordStore.records, hfound]

/-- A record is changed after a query has answered about it. -/
theorem answers_eq_fresh_of_overwrite :
    let actions := [Action.openStore ⟨[{ fileName := "a.jpg" }], ∅⟩, .newQuery 0,
      .editQuery 0 (.rating (some 3)), .matchRecord 0 0 0 0,
      .editStore 0 (.editRecord 0 (.overwrite ({ · with rating := 3 })))]
    (start.run actions).stamp < 2 ^ 63 ∧
      ((start.run actions).matchRecord 0 0 0 0).map (·.1) = some true := by
  intro actions
  have hstamp : (start.run actions).stamp < 2 ^ 63 := by decide
  have hanswer := (answers_eq_fresh actions hstamp 0 0 0 7).1
  have hfresh : (start.run actions).freshVerdict 0 0 0 7 = some true := by decide
  exact ⟨hstamp, hanswer.trans hfresh⟩

end Session

end TagQuery
