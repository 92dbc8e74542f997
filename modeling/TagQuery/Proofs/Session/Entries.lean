import TagQuery.Proofs.Session.Actions

/-!
# What actions leave of queries and caches

An action compiles at most the query that it asks, and the answers that it writes to caches
are those of two kinds of compiled queries: of the one at hand that it asks about records,
and of those that are compiled for it and bear new stamps.  A condition on records and their
caches therefore outlives the action if new records meet it, and if neither changes of
records nor such answers break it.
-/

namespace TagQuery

/-- A condition on entries that is kept where the answers of some compiled queries are
written to caches. -/
def Entry.StableUnderAnswers (P : CompiledQuery → Prop) (Q : Entry → Prop) : Prop :=
  ∀ e e', e.Rewritten P e' → Q e → Q e'

namespace Session

/-- What the query at a place was compiled to, if it still fits the query and a store. -/
def current? (s : Session) (place store : ℕ) : Option CompiledQuery := do
  let held ← s.queries[place]?
  held.query.current? (← s.stores[store]?)

/-- The query that an action asks about records. -/
def Action.asked? : Action → Option ℕ
  | .matchRecord query _ _ _ => some query
  | .matchStore query _ _ => some query
  | .matchBare query _ _ => some query
  | .search query _ => some query
  | .dateIndex query _ _ => some query
  | _ => none

/-- The compiled query at hand that an action asks about records with caches. -/
def source? (s : Session) : Action → Option CompiledQuery
  | .matchRecord query _ _ vocabulary => s.current? query vocabulary
  | .matchStore query _ vocabulary => s.current? query vocabulary
  | .search query store => s.current? query store
  | .dateIndex query store _ => s.current? query store
  | .matchSnapshot snapshot _ => s.snapshots[snapshot]?
  | .matchSnapshotRecord snapshot _ _ => s.snapshots[snapshot]?
  | _ => none

/-- Every record of every store, with its cache, meets a condition. -/
def ForallEntries (s : Session) (Q : Entry → Prop) : Prop :=
  ∀ store ∈ s.stores, ∀ e ∈ store.entries, Q e

/-- From one session to another, only the query at one place is compiled, and only answers
of one compiled query and of such with new stamps are written to caches. -/
structure AltersOnly (s : Session) (asked? : Option ℕ) (source? : Option CompiledQuery)
    (s' : Session) : Prop where
  compiled : ∀ (place : ℕ) (held : HeldQuery), s.queries[place]? = some held →
    asked? ≠ some place →
    ∃ held', s'.queries[place]? = some held' ∧ held'.query.compiled = held.query.compiled
  entries : ∀ Q : Entry → Prop, (∀ r, Q (.fresh r)) → Entry.Stable Q →
    Entry.StableUnderAnswers
      (fun c => source? = some c ∨ s.stamp ≤ c.stamp ∧ c.stamp ≤ s'.stamp) Q →
    s.ForallEntries Q → s'.ForallEntries Q

variable {s s' : Session} {place source record : ℕ} {held : HeldQuery}
  {old vocabulary : RecordStore} {q : SearchQuery} {c : CompiledQuery} {a : Action}
  {entries : List Entry} {P : CompiledQuery → Prop} {Q : Entry → Prop}
  {allowed : RecordEdit → Prop} {asked : Option ℕ} {compiled : Option CompiledQuery}

theorem current?_eq_some_iff : s.current? place source = some c ↔
    ∃ held store, s.queries[place]? = some held ∧ s.stores[source]? = some store ∧
      held.query.compiled = some c ∧ c.generation = held.query.generation ∧
      c.revision = store.revision := by
  simp only [current?, SearchQuery.current?, Option.bind_eq_bind, Option.bind_eq_some_iff,
    Option.filter_eq_some_iff, Bool.and_eq_true, beq_iff_eq, exists_and_left]

theorem current?_of_current? (hheld : s.queries[place]? = some held)
    (hvocabulary : s.stores[source]? = some vocabulary)
    (h : held.query.current? vocabulary = some c) : s.current? place source = some c := by
  rw [current?, hheld, hvocabulary]
  exact h

theorem keeps_of_current? (h : s.current? place source = some c) : s.Keeps c := by
  obtain ⟨held, store, hheld, -, hcompiled, -⟩ := current?_eq_some_iff.mp h
  exact Or.inr ⟨held, List.mem_of_getElem? hheld, hcompiled⟩

theorem keeps_of_source? (h : s.source? a = some c) : s.Keeps c := by
  cases a with
  | matchRecord | matchStore | search | dateIndex => exact keeps_of_current? h
  | matchSnapshot | matchSnapshotRecord => exact Or.inl (List.mem_of_getElem? h)
  | _ => contradiction

/-! ## Stores -/

namespace ForallEntries

theorem store (hs : s.ForallEntries Q) (hold : s.stores[place]? = some old) :
    ∀ e ∈ old.entries, Q e :=
  hs old (List.mem_of_getElem? hold)

theorem setStore (hs : s.ForallEntries Q) {new : RecordStore}
    (hnew : ∀ e ∈ new.entries, Q e) (place : ℕ) : (s.setStore place new).ForallEntries Q :=
  forall_mem_set hs hnew

theorem setGenerations (hs : s.ForallEntries Q) (place drawn : ℕ) :
    (s.setGenerations place drawn).ForallEntries Q := by
  cases hold : s.stores[place]? with
  | none =>
      rw [Session.setGenerations, List.modify_eq_self (List.getElem?_eq_none_iff.mp hold)]
      exact hs
  | some old =>
      have hentries := hs.store hold
      rw [setGenerations_eq hold]
      exact hs.setStore (by exact hentries) place

/-- Answers are written to the caches of a store. -/
theorem setEntries (hs : s.ForallEntries Q) (hold : s.stores[place]? = some old)
    (hQ : Entry.StableUnderAnswers P Q)
    (hentries : List.Forall₂ (Entry.Rewritten P) old.entries entries) :
    (s.setEntries place entries).ForallEntries Q := by
  rw [setEntries_eq hold]
  refine hs.setStore (fun e' he' => ?_) place
  obtain ⟨e, he, hwritten⟩ := exists_mem_of_forall₂ hentries he'
  exact hQ e e' hwritten (hs.store hold e he)

theorem openStore (hs : s.ForallEntries Q) (hfresh : ∀ r, Q (.fresh r)) (fixture : Fixture) :
    (s.openStore fixture).ForallEntries Q := by
  intro store hstore
  rcases List.mem_append.mp hstore with hstore | hstore
  · exact hs store hstore
  · intro e he
    rw [List.mem_singleton.mp hstore] at he
    obtain ⟨r, -, rfl⟩ := List.mem_map.mp he
    exact hfresh r

theorem editStore (hs : s.ForallEntries Q) (hfresh : ∀ r, Q (.fresh r))
    (hQ : Entry.StableUnder allowed Q) {change : StoreEdit} (hchange : change.Only allowed)
    (h : s.editStore place change = some s') : s'.ForallEntries Q := by
  obtain ⟨old, hold, rfl⟩ := editStore_eq_some h
  exact hs.setStore (RecordStore.forall_mem_edit hQ hfresh hchange (hs.store hold)) place

/-- Records that change places take their caches with them. -/
theorem exchange (hs : s.ForallEntries Q) {other otherRecord : ℕ}
    (h : s.exchange place record other otherRecord = some s') : s'.ForallEntries Q := by
  obtain ⟨old, old', e, e', hold, hold', he, he', -, rfl⟩ := exchange_eq_some h
  have hentries := hs.store hold
  have hentries' := hs.store hold'
  refine (hs.setStore ?_ place).setStore ?_ other
  · exact forall_mem_set hentries (hentries' e' (List.mem_of_getElem? he'))
  · exact forall_mem_set hentries' (hentries e (List.mem_of_getElem? he))

end ForallEntries

/-! ## Actions -/

/-- Changes of stores leave queries and compiled queries alone. -/
theorem perform_of_changesStores (ha : a.ChangesStores) :
    (s.perform a).queries = s.queries ∧ (s.perform a).snapshots = s.snapshots := by
  cases a with
  | openStore fixture => exact ⟨rfl, rfl⟩
  | editStore store change =>
      refine getD_cases (P := fun s' => s'.queries = _ ∧ s'.snapshots = _) ⟨rfl, rfl⟩
        fun s' h => ?_
      obtain ⟨old, -, rfl⟩ := editStore_eq_some h
      exact ⟨rfl, rfl⟩
  | exchange store record other otherRecord =>
      refine getD_cases (P := fun s' => s'.queries = _ ∧ s'.snapshots = _) ⟨rfl, rfl⟩
        fun s' h => ?_
      obtain ⟨old, old', e, e', -, -, -, -, -, rfl⟩ := exchange_eq_some h
      exact ⟨rfl, rfl⟩
  | _ => exact absurd ha id

theorem altersOnly_refl (s : Session) (asked : Option ℕ) (compiled : Option CompiledQuery) :
    s.AltersOnly asked compiled s where
  compiled := fun _ held hheld _ => ⟨held, hheld, rfl⟩
  entries := fun _ _ _ _ hs => hs

theorem compiled_of_queries_eq (h : s'.queries = s.queries) :
    ∀ (place : ℕ) (held : HeldQuery), s.queries[place]? = some held → asked ≠ some place →
      ∃ held', s'.queries[place]? = some held' ∧
        held'.query.compiled = held.query.compiled := by
  intro place held hheld _
  rw [h]
  exact ⟨held, hheld, rfl⟩

/-- What is asked of one query compiles no other. -/
theorem compiled_setQuery (s : Session) (place : ℕ) (q : SearchQuery) :
    ∀ (other : ℕ) (held : HeldQuery), s.queries[other]? = some held →
      some place ≠ some other →
      ∃ held', (s.setQuery place q).queries[other]? = some held' ∧
        held'.query.compiled = held.query.compiled := by
  intro other held hheld hother
  have hne : place ≠ other := fun h => hother (congrArg some h)
  exact ⟨held, (List.getElem?_modify_ne _ _ hne).trans hheld, rfl⟩

theorem altersOnly_changesStores (ha : a.ChangesStores) :
    s.AltersOnly asked compiled (s.perform a) where
  compiled := compiled_of_queries_eq (perform_of_changesStores ha).1
  entries := by
    intro Q hfresh hstable hanswers hs
    cases a with
    | openStore fixture => exact hs.openStore hfresh fixture
    | editStore store change =>
        exact getD_cases hs fun _ => hs.editStore hfresh (hstable.under _) change.only_true
    | exchange store record other otherRecord => exact getD_cases hs fun _ => hs.exchange
    | _ => exact absurd ha id

/-- Answers are written to the caches of one store, and another draws generations. -/
theorem altersOnly_draw {home drawn count : ℕ} (hold : s.stores[source]? = some old)
    (hentries : List.Forall₂ (Entry.Rewritten fun c => compiled = some c ∨
      s.stamp ≤ c.stamp ∧ c.stamp ≤ s.stamp + count) old.entries entries) :
    s.AltersOnly asked compiled
      (((s.setEntries source entries).setGenerations home drawn).draw count) where
  compiled := compiled_of_queries_eq rfl
  entries := fun _ _ _ hanswers hs =>
    (hs.setEntries hold hanswers hentries).setGenerations home drawn

theorem AltersOnly.setGenerations (h : s.AltersOnly asked compiled s') (home drawn : ℕ) :
    s.AltersOnly asked compiled (s'.setGenerations home drawn) where
  compiled := h.compiled
  entries := fun Q hfresh hstable hanswers hs =>
    (h.entries Q hfresh hstable hanswers hs).setGenerations home drawn

theorem altersOnly_addQuery (home : ℕ) (q : SearchQuery) :
    s.AltersOnly asked compiled (s.addQuery home q) where
  compiled := by
    intro place held hheld _
    have hlt := (List.getElem?_eq_some_iff.mp hheld).1
    exact ⟨held, (List.getElem?_append_left hlt).trans hheld, rfl⟩
  entries := fun _ _ _ _ hs => hs

theorem altersOnly_buildQuery {ε : Type} {home : ℕ} {build : ℕ → Except ε SearchQuery × ℕ}
    {outcome : Except ε Unit} (h : s.buildQuery home build = some (outcome, s')) :
    s.AltersOnly asked compiled s' := by
  simp only [buildQuery, Option.bind_eq_bind, Option.bind_eq_some_iff] at h
  obtain ⟨old, -, h⟩ := h
  split at h
  · cases h
    exact (altersOnly_addQuery home _).setGenerations home _
  · cases h
    exact (s.altersOnly_refl _ _).setGenerations home _

/-- A query goes through the entries of a store. -/
theorem Looks.altersOnly {known : ℕ} (h : s.Looks place source known s') :
    s.AltersOnly (some place) (s.current? place known) s' := by
  obtain @⟨held, old, vocabulary, q, entries, hheld, hold, hknown, hvisits⟩ := h
  constructor
  · exact compiled_setQuery s place q
  · intro Q _ _ hanswers hs
    refine ForallEntries.setEntries (s := s.setAsked place q) hs hold hanswers
      (hvisits.leaves.imp fun e e' hleaves => hleaves.rewritten ?_)
    rcases held.query.current?_or_compile vocabulary s.stamp with hcurrent | hcompile
    · exact Or.inl (current?_of_current? hheld hknown hcurrent)
    · rw [hcompile]
      exact Or.inr ⟨Nat.le_refl _, stamp_le_nextStamp _ _⟩

/-- A compiled query that is kept goes through the entries of a store. -/
theorem LooksKept.altersOnly (h : s.LooksKept place source s') :
    s.AltersOnly asked s.snapshots[place]? s' := by
  obtain ⟨hc, hold, hleaves⟩ := h
  refine ⟨compiled_of_queries_eq rfl, fun Q _ _ hanswers hs => ?_⟩
  exact hs.setEntries hold hanswers
    (hleaves.imp fun e e' hleaves => hleaves.rewritten (Or.inl hc))

theorem altersOnly_editQuery {change : QueryEdit}
    (h : s.editQuery place change = some (.ok s')) : s.AltersOnly asked compiled s' := by
  obtain ⟨held, home, q, hheld, hhome, hedit, rfl⟩ := editQuery_eq_ok h
  have hset : s.AltersOnly asked compiled (s.setQuery place q) := by
    refine ⟨fun other held' hheld' _ => ?_, fun _ _ _ _ hs => hs⟩
    by_cases hplace : place = other
    · rw [← hplace, hheld] at hheld'
      cases hheld'
      refine ⟨⟨held.home, q⟩, ?_, (SearchQuery.edit_eq_ok hedit).2⟩
      rw [← hplace, setQuery, List.getElem?_modify_eq, hheld]
      rfl
    · exact compiled_setQuery s place q other held' hheld' fun h => hplace (Option.some.inj h)
  exact hset.setGenerations held.home _

theorem altersOnly_matchBare {known : ℕ} {r : Record} {matched : Bool}
    (h : s.matchBare place known r = some (matched, s')) :
    s.AltersOnly (some place) compiled s' := by
  simp only [matchBare, Option.bind_eq_bind, Option.bind_eq_some_iff, Option.pure_def,
    Option.some.injEq, Prod.mk.injEq] at h
  obtain ⟨held, -, vocabulary, -, -, rfl⟩ := h
  exact ⟨compiled_setQuery s place _, fun _ _ _ _ hs => hs⟩

theorem altersOnly_countByTag {category value : String} {count : ℕ}
    (h : s.countByTag source category value = some (count, s')) :
    s.AltersOnly asked compiled s' := by
  simp only [countByTag, Option.bind_eq_bind, Option.bind_eq_some_iff, Option.pure_def,
    Option.some.injEq, Prod.mk.injEq] at h
  obtain ⟨old, hold, -, rfl⟩ := h
  have hvisits := SearchQuery.visits_searchEntries
    (SearchQuery.forTag (old.generations + 1) category value)
    { old with generations := old.generations + 2 } s.stamp old.entries
  refine ⟨compiled_of_queries_eq rfl, fun Q _ _ hanswers hs => ?_⟩
  refine hs.setStore (fun e' he' => ?_) source
  obtain ⟨e, he, hleaves⟩ := exists_mem_of_forall₂ hvisits.leaves he'
  exact hanswers e e' (hleaves.rewritten (Or.inr ⟨Nat.le_refl _, stamp_le_nextStamp _ _⟩))
    (hs.store hold e he)

theorem altersOnly_classify {known : ℕ} {places : Option Places} {job : Classifier}
    {buckets : Buckets} (h : s.classify place source job known places = some (buckets, s')) :
    s.AltersOnly asked compiled s' := by
  simp only [classify, Option.bind_eq_bind, Option.bind_eq_some_iff, Option.pure_def,
    Option.some.injEq, Prod.mk.injEq] at h
  obtain ⟨held, -, old, hold, vocabulary, -, home, -, -, rfl⟩ := h
  refine altersOnly_draw hold ((job.rewritten_run _ _ _ _ _ _).imp fun e e' he => he.mono ?_)
  rintro c (rfl | rfl)
  · exact Or.inr ⟨Nat.le_refl _, Nat.le_add_right _ _⟩
  · exact Or.inr ⟨Nat.le_succ _, Nat.le_succ _⟩

theorem altersOnly_overview {category : String} {overview : Overview}
    (h : s.overview place source category = some (overview, s')) :
    s.AltersOnly asked compiled s' := by
  simp only [Session.overview, Option.bind_eq_bind, Option.bind_eq_some_iff,
    Option.pure_def, Option.some.injEq, Prod.mk.injEq] at h
  obtain ⟨held, -, old, hold, home, -, -, rfl⟩ := h
  refine altersOnly_draw hold (Overview.rewritten_ofStore _ _ _ _ _ ?_ ?_)
  · rintro c (rfl | rfl)
    · exact Or.inr ⟨Nat.le_refl _, Nat.le_add_right _ _⟩
    · exact Or.inr ⟨Nat.le_succ _, Nat.add_le_add_left (by decide) _⟩
  · rintro c (rfl | rfl)
    · exact Or.inr ⟨Nat.le_add_right _ 2, Nat.add_le_add_left (by decide) _⟩
    · exact Or.inr ⟨Nat.le_add_right _ 3, Nat.le_succ _⟩

/-- What an action that does not compile a query for its own sake does to queries and
caches. -/
theorem altersOnly_perform (ha : ∀ query store, a ≠ .keepCompiled query store) :
    s.AltersOnly a.asked? (s.source? a) (s.perform a) := by
  have hrefl := s.altersOnly_refl a.asked? (s.source? a)
  cases a with
  | openStore | editStore | exchange => exact altersOnly_changesStores trivial
  | clearCache store record =>
      refine getD_cases hrefl fun s' h => ?_
      simp only [clearCache, Option.bind_eq_bind, Option.bind_eq_some_iff, Option.pure_def,
        Option.some.injEq] at h
      obtain ⟨old, hold, rfl⟩ := h
      exact ⟨compiled_of_queries_eq rfl, fun _ _ _ hanswers hs =>
        hs.setEntries hold hanswers (Entry.rewritten_clear _ old.entries record)⟩
  | newQuery home =>
      refine getD_cases hrefl fun s' h => ?_
      simp only [newQuery, Option.bind_eq_bind, Option.bind_eq_some_iff, Option.pure_def,
        Option.some.injEq] at h
      obtain ⟨old, -, rfl⟩ := h
      exact (altersOnly_addQuery home _).setGenerations home _
  | newRangeQuery home date label description =>
      refine getD_cases hrefl fun s' h => ?_
      simp only [newRangeQuery, Option.bind_eq_bind, Option.bind_eq_some_iff,
        Option.pure_def, Option.some.injEq] at h
      obtain ⟨old, -, rfl⟩ := h
      exact (altersOnly_addQuery home _).setGenerations home _
  | copyQuery query =>
      refine getD_cases hrefl fun s' h => ?_
      simp only [copyQuery, Option.bind_eq_bind, Option.bind_eq_some_iff, Option.pure_def,
        Option.some.injEq] at h
      obtain ⟨held, -, rfl⟩ := h
      exact altersOnly_addQuery held.home held.query
  | request home request => exact afterAnswer_cases hrefl fun _ _ => altersOnly_buildQuery
  | restoreLock home saved => exact afterAnswer_cases hrefl fun _ _ => altersOnly_buildQuery
  | editQuery query change => exact afterEdit_cases hrefl fun _ => altersOnly_editQuery
  | matchRecord query store record vocabulary =>
      exact afterAnswer_cases hrefl fun _ _ h => (looks_matchRecord h).altersOnly
  | matchStore query store vocabulary =>
      exact afterAnswer_cases hrefl fun _ _ h => (looks_matchStore h).altersOnly
  | matchBare query vocabulary record =>
      exact afterAnswer_cases hrefl fun _ _ => altersOnly_matchBare
  | search query store =>
      exact afterAnswer_cases hrefl fun _ _ h => (looks_search h).altersOnly
  | countByTag store category value =>
      exact afterAnswer_cases hrefl fun _ _ => altersOnly_countByTag
  | dateIndex query store capacity =>
      exact afterAnswer_cases hrefl fun _ _ h => (looks_dateIndex h).altersOnly
  | compile query store =>
      refine getD_cases hrefl fun s' h => ?_
      simp only [compile, Option.bind_eq_bind, Option.bind_eq_some_iff, Option.pure_def,
        Option.some.injEq] at h
      obtain ⟨held, -, old, -, rfl⟩ := h
      exact ⟨compiled_of_queries_eq rfl, fun _ _ _ _ hs => hs⟩
  | keepCompiled query store => exact absurd rfl (ha query store)
  | matchSnapshot snapshot store =>
      exact afterAnswer_cases hrefl fun _ _ h => (looks_matchSnapshot h).altersOnly
  | matchSnapshotRecord snapshot store record =>
      exact afterAnswer_cases hrefl fun _ _ h => (looks_matchSnapshotRecord h).altersOnly
  | classify query store vocabulary places job =>
      exact afterAnswer_cases hrefl fun _ _ => altersOnly_classify
  | overview query store category =>
      exact afterAnswer_cases hrefl fun _ _ => altersOnly_overview

end Session

end TagQuery
