import TagQuery.Proofs.Session.Answers
import TagQuery.Proofs.Session.Entries

/-!
# When answers are worked out anew

A query that is asked twice about a record takes the second answer from the cache of the
record.  After a change of the query, or of the store whose values it takes, it works out
the next answer anew: what it was compiled to fits no more, and no cache knows what it is
compiled to from then on.

The invariant from the change to the next question is that no cache answers for what the
query would answer from, if there is such a compiled query.  It need not be compiled by the
question itself.  It may be compiled before and handed on, to copies of the query or to
those who keep what it was compiled to, and whoever else asks it writes its answers to
caches.
-/

namespace TagQuery

/-! ## Caches -/

/-- An answer is remembered under any stamp but the last one that fits. -/
theorem MatchCache.get?_set_self {stamp : ℕ} (hstamp : stamp < 2 ^ 63 - 1) (matched : Bool) :
    (set stamp.toUInt64 matched).get? stamp.toUInt64 = some matched := by
  have hself : stamp.toUInt64.toNat = stamp := toNat_toUInt64 (by omega)
  rw [get?_set, hself, if_pos]
  exact ⟨(Nat.mod_eq_of_lt (by omega)).symm, fun h => by omega⟩

/-- Nothing is remembered under a stamp. -/
def Entry.Unknown (stamp : ℕ) (e : Entry) : Prop :=
  e.cache.get? stamp.toUInt64 = none

theorem Entry.stable_unknown (stamp : ℕ) : Entry.Stable (Unknown stamp) :=
  stable_cache (R := fun cache => cache.get? stamp.toUInt64 = none) (MatchCache.get?_empty _)

/-- Answers under other stamps are not taken for answers under this one. -/
theorem Entry.stableUnderAnswers_unknown {P : CompiledQuery → Prop} {stamp : ℕ}
    (hstamp : stamp < 2 ^ 63) (hP : ∀ c, P c → c.stamp ≠ stamp ∧ c.stamp < 2 ^ 63) :
    Entry.StableUnderAnswers P (Unknown stamp) := by
  rintro e e' ⟨-, hcache | hcache | ⟨c, hc, hcache⟩⟩ hunknown
  · rw [Unknown, hcache]
    exact hunknown
  · rw [Unknown, hcache]
    exact MatchCache.get?_empty _
  · rw [Unknown, hcache, Option.eq_none_iff_forall_ne_some]
    intro known hknown
    obtain ⟨hne, hlt⟩ := hP c hc
    exact hne (MatchCache.get?_set_toUInt64 hlt (by omega) hknown).1.symm

/-! ## Questions -/

namespace SearchQuery

variable {q : SearchQuery} {e : Entry} {store : RecordStore} {stamp : ℕ} {c : CompiledQuery}

/-- Without a remembered answer, one is worked out. -/
theorem evaluations_matchEntry (hnull : q.isNull = false)
    (hcached : (q.refresh store stamp).1.cached? e.cache = none) :
    (q.matchEntry e store stamp).2.1.evaluations = q.evaluations + 1 := by
  unfold matchEntry
  rw [if_neg (by simp [hnull])]
  simp only [hcached]
  rfl

/-- A remembered answer is given, and nothing changes. -/
theorem matchEntry_of_cached {known : Bool} (hnull : q.isNull = false)
    (hcurrent : q.current? store = some c) (hcached : c.cached? e.cache = some known) :
    q.matchEntry e store stamp = (known, q, e) := by
  have hcompiled : q.compiled = some c := (Option.filter_eq_some_iff.mp hcurrent).1
  have hrefresh : q.refresh store stamp = (c, q) := by
    rw [refresh, hcurrent, Option.getD_some, ← hcompiled]
  unfold matchEntry
  rw [if_neg (by simp [hnull])]
  simp only [hrefresh, hcached]

/-- After a question, the query keeps what it answered from, and the cache remembers
the answer. -/
theorem matchEntry_remembers (hnull : q.isNull = false)
    (hcacheable : (q.refresh store stamp).1.cacheable = true)
    (hstamp : (q.refresh store stamp).1.stamp < 2 ^ 63 - 1) :
    (q.matchEntry e store stamp).2.1.isNull = false ∧
      (q.matchEntry e store stamp).2.1.current? store = some (q.refresh store stamp).1 ∧
      (q.refresh store stamp).1.cached? (q.matchEntry e store stamp).2.2.cache =
        some (q.matchEntry e store stamp).1 := by
  have hcurrent := q.current?_refresh store stamp
  refine ⟨(q.asked_matchEntry e store stamp).isNull_eq.trans hnull, ?_⟩
  unfold matchEntry
  rw [if_neg (by simp [hnull])]
  dsimp only
  split
  next known hcached => exact ⟨hcurrent, hcached⟩
  next =>
    refine ⟨hcurrent, ?_⟩
    rw [CompiledQuery.cached?, if_pos hcacheable, CompiledQuery.remember, if_pos hcacheable]
    exact MatchCache.get?_set_self hstamp _

theorem nextStamp_nextStamp (q : SearchQuery) (stamp : ℕ) :
    q.nextStamp (q.nextStamp stamp) = q.nextStamp stamp := by
  unfold nextStamp
  split
  · rfl
  · exact Nat.max_eq_left (Nat.le_max_right _ _)

end SearchQuery

namespace Session

variable {s s' : Session} {place source record vocabulary : ℕ} {held : HeldQuery}
  {old known : RecordStore} {e : Entry} {c : CompiledQuery} {a : Action}

/-- What a question about a record leaves at the places that it names. -/
theorem matchRecord_spec (hheld : s.queries[place]? = some held)
    (hold : s.stores[source]? = some old) (he : old.entries[record]? = some e)
    (hknown : s.stores[vocabulary]? = some known) :
    let after := held.query.matchEntry e known s.stamp
    ∃ s', s.matchRecord place source record vocabulary = some (after.1, s') ∧
      s'.stamp = after.2.1.nextStamp s.stamp ∧
      s'.queries[place]? = some ⟨held.home, after.2.1⟩ ∧
      s'.stores[source]? = some { old with entries := old.entries.set record after.2.2 } ∧
      ∃ known', s'.stores[vocabulary]? = some known' ∧ known'.revision = known.revision := by
  intro after
  refine ⟨(s.setAsked place after.2.1).setEntries source (old.entries.set record after.2.2),
    ?_, rfl, ?_, ?_, ?_⟩
  · simp only [matchRecord, hheld, hold, he, hknown, Option.bind_eq_bind, Option.bind_some,
      Option.pure_def, after]
  · change (s.queries.modify place _)[place]? = _
    rw [List.getElem?_modify_eq, hheld]
    rfl
  · change (s.stores.modify source _)[source]? = _
    rw [List.getElem?_modify_eq, hold]
    rfl
  · change ∃ known', (s.stores.modify source _)[vocabulary]? = _ ∧ _
    rw [List.getElem?_modify, hknown]
    split
    · exact ⟨_, rfl, rfl⟩
    · exact ⟨known, rfl, rfl⟩

/-- A question that changes neither the query nor the record changes nothing. -/
theorem matchRecord_eq_self (hheld : s.queries[place]? = some held)
    (hold : s.stores[source]? = some old) (he : old.entries[record]? = some e)
    (hknown : s.stores[vocabulary]? = some known) {answer : Bool}
    (hmatch : held.query.matchEntry e known s.stamp = (answer, held.query, e))
    (hstamp : held.query.nextStamp s.stamp = s.stamp) :
    s.matchRecord place source record vocabulary = some (answer, s) := by
  have hquery : s.setAsked place held.query = s := by
    rw [setAsked, setQuery_eq hheld, set_eq_self hheld, hstamp]
  have hentries : s.setEntries source (old.entries.set record e) = s := by
    rw [setEntries_eq hold, setStore, set_eq_self he, set_eq_self hold]
  simp only [matchRecord, hheld, hold, he, hknown, hmatch, hquery, hentries,
    Option.bind_eq_bind, Option.bind_some, Option.pure_def]

/-- A query that is asked twice about a record answers the second time from the cache. -/
theorem matchRecord_again (hnull : held.query.isNull = false)
    (hheld : s.queries[place]? = some held) (hold : s.stores[source]? = some old)
    (he : old.entries[record]? = some e) (hknown : s.stores[vocabulary]? = some known)
    (hcacheable : (held.query.refresh known s.stamp).1.cacheable = true)
    (hstamp : (held.query.refresh known s.stamp).1.stamp < 2 ^ 63 - 1) {answer : Bool}
    (h : s.matchRecord place source record vocabulary = some (answer, s')) :
    s'.matchRecord place source record vocabulary = some (answer, s') := by
  obtain ⟨hnull', hcurrent, hcached⟩ :=
    SearchQuery.matchEntry_remembers (e := e) hnull hcacheable hstamp
  obtain ⟨after, hmatch, hnext, hheld', hold', known', hknown', hrevision⟩ :=
    matchRecord_spec hheld hold he hknown
  rw [h, Option.some.injEq, Prod.mk.injEq] at hmatch
  obtain ⟨rfl, rfl⟩ := hmatch
  have he' := List.getElem?_set_self (List.getElem?_eq_some_iff.mp he).1
    (a := (held.query.matchEntry e known s.stamp).2.2)
  refine matchRecord_eq_self hheld' hold' he' hknown' ?_ ?_
  · refine SearchQuery.matchEntry_of_cached hnull' ?_ hcached
    rw [SearchQuery.current?, hrevision]
    exact hcurrent
  · rw [hnext]
    exact SearchQuery.nextStamp_nextStamp _ _

/-! ## What a query would answer from -/

theorem Move.queries_length_le (h : Move s s') : s.queries.length ≤ s'.queries.length := by
  cases h with
  | newQuery | copyQuery => exact List.length_append ▸ Nat.le_add_right _ _
  | editQuery | askQuery => exact Nat.le_of_eq (List.length_modify _ _ _).symm
  | _ => exact Nat.le_refl _

theorem Moves.queries_length_le (h : Moves s s') : s.queries.length ≤ s'.queries.length := by
  induction h with
  | refl => exact Nat.le_refl _
  | tail _ hmove ih => exact Nat.le_trans ih hmove.queries_length_le

/-- What a query keeps and fits after a move it kept and fitted before, or it is new. -/
theorem Move.fits_query (hs : s.Homed) (h : Move s s') (hplace : place < s.queries.length)
    {held' : HeldQuery} (hheld' : s'.queries[place]? = some held')
    (hcompiled : held'.query.compiled = some c)
    (hgeneration : c.generation = held'.query.generation) :
    (∃ held, s.queries[place]? = some held ∧ held.query.compiled = some c ∧
      c.generation = held.query.generation) ∨ s.stamp ≤ c.stamp := by
  cases h with
  | newQuery | copyQuery =>
      rw [addQuery, List.getElem?_append_left hplace] at hheld'
      exact Or.inl ⟨held', hheld', hcompiled, hgeneration⟩
  | editQuery hheld hhome hdrawn hkept =>
      change (Session.setQuery s _ _).queries[place]? = some held' at hheld'
      rw [setQuery_eq hheld] at hheld'
      rcases getElem?_set_cases hheld' with ⟨rfl, rfl⟩ | ⟨-, hheld'⟩
      · -- The generation is new, and what the query was compiled to is not.
        obtain ⟨home, hhome', -, hle⟩ := hs _ (List.mem_of_getElem? hheld)
        rw [hhome] at hhome'
        cases hhome'
        have hle := hle c (hkept.symm.trans hcompiled)
        dsimp only at hgeneration
        omega
      · exact Or.inl ⟨held', hheld', hcompiled, hgeneration⟩
  | @askQuery asked held store q hheld hstore hasked =>
      change (Session.setQuery s _ _).queries[place]? = some held' at hheld'
      rw [setQuery_eq hheld] at hheld'
      rcases getElem?_set_cases hheld' with ⟨rfl, rfl⟩ | ⟨-, hheld'⟩
      · rcases hasked.compiled_cases hcompiled with hkept | rfl
        · exact Or.inl ⟨held, hheld, hkept, hgeneration.trans hasked.generation_eq⟩
        · exact Or.inr (Nat.le_refl _)
      · exact Or.inl ⟨held', hheld', hcompiled, hgeneration⟩
  | _ => exact Or.inl ⟨held', hheld', hcompiled, hgeneration⟩

theorem Move.current?_or_new (hdated : s.Dated) (hs : s.Homed) (h : Move s s')
    (hplace : place < s.queries.length) (hc : s'.current? place vocabulary = some c) :
    s.current? place vocabulary = some c ∨ s.stamp ≤ c.stamp := by
  obtain ⟨held', new, hheld', hnew, hcompiled, hgeneration, hrevision⟩ :=
    current?_eq_some_iff.mp hc
  rcases h.fits_query hs hplace hheld' hcompiled hgeneration with
    ⟨held, hheld, hcompiled, hgeneration⟩ | hstamp
  · have hlt := hdated.compiled_lt c (Or.inr ⟨held, List.mem_of_getElem? hheld, hcompiled⟩)
    rcases h.store_at hnew with ⟨old, hold, hvisited⟩ | hrenewed
    · rw [hvisited.revision_eq] at hrevision
      exact Or.inl (current?_eq_some_iff.mpr
        ⟨held, old, hheld, hold, hcompiled, hgeneration, hrevision⟩)
    · have hle := hrenewed.le_revision
      omega
  · exact Or.inr hstamp

/-- What a query would answer from after moves it would have answered from before, or it
was compiled since. -/
theorem Moves.current?_or_new (hdated : s.Dated) (hs : s.Coherent) (h : Moves s s')
    (hplace : place < s.queries.length) (hc : s'.current? place vocabulary = some c) :
    s.current? place vocabulary = some c ∨ s.stamp ≤ c.stamp := by
  induction h with
  | refl => exact Or.inl hc
  | @tail mid s' hmoves hmove ih =>
      have hplace' := Nat.lt_of_lt_of_le hplace (Moves.queries_length_le hmoves)
      have hdated' := hdated.moves hmoves
      have hhomed := (hs.moves hdated hmoves).homed
      rcases hmove.current?_or_new hdated' hhomed hplace' hc with hcurrent | hnew
      · exact ih hcurrent
      · exact Or.inr (Nat.le_trans (Moves.stamp_le hmoves) hnew)

/-! ## From a change to the next question -/

/-- A change of the query at a place or of the store at another, which does not fail. -/
def Renews (s : Session) (place vocabulary : ℕ) : Action → Prop
  | .editQuery query change => query = place ∧ ∃ s', s.editQuery query change = some (.ok s')
  | .editStore store change =>
    store = vocabulary ∧ place < s.queries.length ∧ (s.editStore store change).isSome
  | .exchange store record other otherRecord =>
    (store = vocabulary ∨ other = vocabulary) ∧ place < s.queries.length ∧
      (s.exchange store record other otherRecord).isSome
  | _ => False

/-- An action asks neither the query at a place, nor what it would answer from with the
values of a store. -/
structure Spares (s : Session) (place vocabulary : ℕ) (a : Action) : Prop where
  query : a.asked? ≠ some place
  compiled : ∀ c, s.current? place vocabulary = some c → s.source? a ≠ some c

/-- The same for all actions of a run. -/
def SparesAll (s : Session) (place vocabulary : ℕ) : List Action → Prop
  | [] => True
  | a :: actions =>
    s.Spares place vocabulary a ∧ (s.perform a).SparesAll place vocabulary actions

/-- No cache knows what the query at a place would answer from. -/
structure Unheard (s : Session) (place vocabulary : ℕ) : Prop where
  query : place < s.queries.length
  unknown : ∀ c, s.current? place vocabulary = some c → s.ForallEntries (Entry.Unknown c.stamp)

/-- A store that is changed gets to a revision from the stamp of the session on. -/
theorem le_revision_of_renews (hchanges : a.ChangesStores) (ha : s.Renews place vocabulary a)
    {new : RecordStore} (hnew : (s.perform a).stores[vocabulary]? = some new) :
    s.stamp ≤ new.revision := by
  cases a with
  | editStore store change =>
      obtain ⟨rfl, -, hdone⟩ := ha
      obtain ⟨s', hs'⟩ := Option.isSome_iff_exists.mp hdone
      rw [perform, hs', Option.getD_some] at hnew
      obtain ⟨old, hold, rfl⟩ := editStore_eq_some hs'
      rcases getElem?_set_cases hnew with ⟨-, rfl⟩ | ⟨hne, -⟩
      · exact RecordStore.le_revision_edit old change s.stamp
      · exact absurd rfl hne
  | exchange store record other otherRecord =>
      obtain ⟨hplace, -, hdone⟩ := ha
      obtain ⟨s', hs'⟩ := Option.isSome_iff_exists.mp hdone
      rw [perform, hs', Option.getD_some] at hnew
      obtain ⟨old, old', e, e', -, -, -, -, -, rfl⟩ := exchange_eq_some hs'
      rcases getElem?_set_cases hnew with ⟨-, rfl⟩ | ⟨hother, hnew⟩
      · exact Nat.le_trans (Nat.le_succ _) (Nat.le_max_left _ _)
      · rcases getElem?_set_cases hnew with ⟨-, rfl⟩ | ⟨hstore, -⟩
        · exact Nat.le_max_left _ _
        · exact absurd hplace (not_or.mpr ⟨hstore, hother⟩)
  | openStore => exact absurd ha id
  | _ => exact absurd hchanges id

/-- After a change the query fits nothing that it was compiled to. -/
theorem current?_perform_of_renews (hdated : s.Dated) (hs : s.Homed)
    (ha : s.Renews place vocabulary a) : (s.perform a).current? place vocabulary = none := by
  rw [Option.eq_none_iff_forall_ne_some]
  intro c hc
  obtain ⟨held', new, hheld', hnew, hcompiled, hgeneration, hrevision⟩ :=
    current?_eq_some_iff.mp hc
  by_cases hchanges : a.ChangesStores
  · rw [(perform_of_changesStores hchanges).1] at hheld'
    have hlt := hdated.compiled_lt c (Or.inr ⟨held', List.mem_of_getElem? hheld', hcompiled⟩)
    have hle := le_revision_of_renews hchanges ha hnew
    omega
  · cases a with
    | editQuery query change =>
        obtain ⟨rfl, s', hdone⟩ := ha
        rw [perform, hdone, afterEdit] at hheld'
        obtain ⟨held, home, q, hheld, hhome, hedit, rfl⟩ := editQuery_eq_ok hdone
        obtain ⟨hdrawn, hkept⟩ := SearchQuery.edit_eq_ok hedit
        obtain ⟨known, hknown, -, hle⟩ := hs held (List.mem_of_getElem? hheld)
        rw [hhome] at hknown
        cases hknown
        change (Session.setQuery s query q).queries[query]? = some held' at hheld'
        rw [setQuery_eq hheld] at hheld'
        rcases getElem?_set_cases hheld' with ⟨-, rfl⟩ | ⟨hne, -⟩
        · have hle := hle c (hkept.symm.trans hcompiled)
          dsimp only at hgeneration
          omega
        · exact absurd rfl hne
    | editStore | exchange => exact absurd trivial hchanges
    | _ => exact absurd ha id

theorem lt_length_of_renews (hdated : s.Dated) (ha : s.Renews place vocabulary a) :
    place < (s.perform a).queries.length := by
  refine Nat.lt_of_lt_of_le ?_ (moves_perform hdated a).queries_length_le
  cases a with
  | editQuery query change =>
      obtain ⟨rfl, s', hdone⟩ := ha
      obtain ⟨held, home, q, hheld, -⟩ := editQuery_eq_ok hdone
      exact (List.getElem?_eq_some_iff.mp hheld).1
  | editStore | exchange => exact ha.2.1
  | _ => exact absurd ha id

theorem unheard_of_renews (hdated : s.Dated) (hs : s.Homed)
    (ha : s.Renews place vocabulary a) : (s.perform a).Unheard place vocabulary where
  query := lt_length_of_renews hdated ha
  unknown := by
    intro c hc
    rw [current?_perform_of_renews hdated hs ha] at hc
    contradiction

theorem stores_keepCompiled (s : Session) (place store : ℕ) :
    (s.perform (.keepCompiled place store)).stores = s.stores := by
  refine getD_cases (P := fun s' => s'.stores = s.stores) rfl fun s' h => ?_
  simp only [keepCompiled, Option.bind_eq_bind, Option.bind_eq_some_iff, Option.pure_def,
    Option.some.injEq] at h
  obtain ⟨held, -, old, -, rfl⟩ := h
  rfl

/-- No cache knows a stamp that was not drawn yet. -/
theorem Dated.forall_unknown (hs : s.Dated) {stamp : ℕ} (hle : s.stamp ≤ stamp)
    (hstamp : stamp < 2 ^ 63) : s.ForallEntries (Entry.Unknown stamp) :=
  fun store hstore e he => (hs.cache_before store hstore e he).get?_eq_none hle (by omega)

/-- An action that spares the query tells no cache what the query would answer. -/
theorem Unheard.perform (hdated : s.Dated) (hs : s.Coherent)
    (hstamp : (s.perform a).stamp < 2 ^ 63) (ha : s.Spares place vocabulary a)
    (h : s.Unheard place vocabulary) : (s.perform a).Unheard place vocabulary := by
  have hmoves := moves_perform hdated a
  refine ⟨Nat.lt_of_lt_of_le h.query hmoves.queries_length_le, fun c hc => ?_⟩
  have hbound := ((hdated.moves hmoves).compiled_lt c (keeps_of_current? hc)).2
  have hcurrent := hmoves.current?_or_new hdated hs h.query hc
  by_cases hkeep : ∃ query store, a = .keepCompiled query store
  · -- What is compiled now is not asked yet.
    obtain ⟨query, store, rfl⟩ := hkeep
    rw [ForallEntries, stores_keepCompiled]
    rcases hcurrent with hcurrent | hnew
    · exact h.unknown c hcurrent
    · exact hdated.forall_unknown hnew (by omega)
  · have halters := s.altersOnly_perform fun query store heq => hkeep ⟨query, store, heq⟩
    have hkept : s.Keeps c := by
      have hheld := List.getElem?_eq_getElem h.query
      obtain ⟨held', hheld', hsame⟩ := halters.compiled place _ hheld ha.query
      obtain ⟨known, -, hknown, -, hcompiled, -⟩ := current?_eq_some_iff.mp hc
      rw [hheld', Option.some.injEq] at hknown
      rw [← hknown, hsame] at hcompiled
      exact Or.inr ⟨_, List.getElem_mem h.query, hcompiled⟩
    have hlt := (hdated.compiled_lt c hkept).2
    have hcurrent := hcurrent.resolve_right (by omega)
    refine halters.entries _ (fun r => MatchCache.get?_empty _) (Entry.stable_unknown _)
      (Entry.stableUnderAnswers_unknown (by omega) ?_) (h.unknown c hcurrent)
    rintro c' (hsource | ⟨hnew, hle⟩)
    · have hkept' := keeps_of_source? hsource
      refine ⟨fun heq => ha.compiled c hcurrent ?_, ?_⟩
      · rw [hsource, hs.distinct.stamps c' c hkept' hkept heq]
      · have hlt' := (hdated.compiled_lt c' hkept').2
        have hle := Moves.stamp_le hmoves
        omega
    · omega

theorem Unheard.run (hdated : s.Dated) (hs : s.Coherent) {actions : List Action}
    (hstamp : (s.run actions).stamp < 2 ^ 63) (hactions : s.SparesAll place vocabulary actions)
    (h : s.Unheard place vocabulary) : (s.run actions).Unheard place vocabulary := by
  induction actions generalizing s with
  | nil => exact h
  | cons a actions ih =>
      obtain ⟨ha, hrest⟩ := hactions
      have hmoves := moves_perform hdated a
      have hdated' := hdated.moves hmoves
      have hlater := (moves_run hdated' actions).stamp_le
      exact ih hdated' (hs.moves hdated hmoves) hstamp hrest
        (h.perform hdated hs (Nat.lt_of_le_of_lt hlater hstamp) ha)

/-! ## Runs -/

/-- How many answers the query at a place has worked out. -/
def evaluations? (s : Session) (place : ℕ) : Option ℕ :=
  s.queries[place]?.map (·.query.evaluations)

/-- What a query answers from has its stamp from the session, and may be remembered if the
query says so. -/
theorem refresh_fst_spec (hdated : s.Dated) (hs : s.Coherent)
    (hheld : s.queries[place]? = some held) (hknown : s.stores[vocabulary]? = some known) :
    (held.query.refresh known s.stamp).1.stamp ≤ s.stamp ∧
      (held.query.refresh known s.stamp).1.cacheable = held.query.cacheable := by
  have hmem := List.mem_of_getElem? hheld
  constructor
  · rcases held.query.refresh_fst_cases known s.stamp with hkept | hcompile
    · exact Nat.le_of_lt (hdated.compiled_lt _ (Or.inr ⟨held, hmem, hkept⟩)).2
    · rw [hcompile]
      exact Nat.le_refl _
  · obtain ⟨stamp, hcompile⟩ := hs.refresh_eq_compile hmem (List.mem_of_getElem? hknown)
    rw [hcompile]
    rfl

theorem Unheard.cached?_eq_none (hdated : s.Dated) (hstamp : s.stamp < 2 ^ 63)
    (h : s.Unheard place vocabulary) (hheld : s.queries[place]? = some held)
    (hknown : s.stores[vocabulary]? = some known) (hold : s.stores[source]? = some old)
    (he : old.entries[record]? = some e) :
    (held.query.refresh known s.stamp).1.cached? e.cache = none := by
  have hunknown : e.Unknown (held.query.refresh known s.stamp).1.stamp := by
    rcases held.query.current?_or_compile known s.stamp with hcurrent | hcompile
    · exact (h.unknown _ (current?_of_current? hheld hknown hcurrent)).store hold e
        (List.mem_of_getElem? he)
    · rw [hcompile]
      exact (hdated.forall_unknown (Nat.le_refl _) hstamp).store hold e
        (List.mem_of_getElem? he)
  unfold CompiledQuery.cached?
  split
  · exact hunknown
  · rfl

/-- A query that may be remembered and that asks something gives the same answer when it is
asked about a record once more, and works out nothing for it.  The first answer after a
change of the query, or of the store whose values it takes, is worked out, as long as nobody
else asked what the query would answer from. -/
theorem matchRecord_evaluations (actions : List Action)
    (hstamp : (start.run actions).stamp < 2 ^ 63 - 1)
    (hheld : (start.run actions).queries[place]? = some held)
    (hcacheable : held.query.cacheable = true) (hnull : held.query.isNull = false)
    (hold : (start.run actions).stores[source]? = some old)
    (he : old.entries[record]? = some e)
    (hknown : (start.run actions).stores[vocabulary]? = some known) :
    ∃ answer s', (start.run actions).matchRecord place source record vocabulary =
        some (answer, s') ∧
      s'.matchRecord place source record vocabulary = some (answer, s') ∧
      ∀ before change between, actions = before ++ change :: between →
        (start.run before).Renews place vocabulary change →
        ((start.run before).perform change).SparesAll place vocabulary between →
        s'.evaluations? place = some (held.query.evaluations + 1) := by
  have hdated := dated_run actions
  have hs := coherent_run actions
  obtain ⟨hle, hremember⟩ := refresh_fst_spec hdated hs hheld hknown
  obtain ⟨s', hmatch, -, hheld', -⟩ := matchRecord_spec hheld hold he hknown
  refine ⟨_, s', hmatch, ?_, ?_⟩
  · exact matchRecord_again hnull hheld hold he hknown (hremember.trans hcacheable)
      (by omega) hmatch
  · intro before change between hactions hrenews hspares
    have hunheard : (start.run actions).Unheard place vocabulary := by
      have hdated' := dated_run before
      have hs' := coherent_run before
      have hmoves := moves_perform hdated' change
      have hrun : start.run actions = ((start.run before).perform change).run between := by
        rw [hactions, run_append]
        rfl
      rw [hrun] at hstamp ⊢
      exact (unheard_of_renews hdated' hs'.homed hrenews).run (hdated'.moves hmoves)
        (hs'.moves hdated' hmoves) (by omega) hspares
    have hcached := hunheard.cached?_eq_none hdated (by omega) hheld hknown hold he
    rw [evaluations?, hheld', Option.map_some,
      SearchQuery.evaluations_matchEntry hnull hcached]

/-- A record is changed, and before the query is asked again it is compiled, and a copy of it
that was made before the change is asked. -/
theorem matchRecord_evaluations_of_overwrite :
    let before := [Action.openStore ⟨[{ fileName := "a.jpg" }], ∅⟩, .newQuery 0,
      .editQuery 0 (.rating (some 3)), .matchRecord 0 0 0 0, .copyQuery 0]
    let change := Action.editStore 0 (.editRecord 0 (.overwrite ({ · with rating := 3 })))
    let between := [Action.keepCompiled 0 0, .matchRecord 1 0 0 0]
    (start.run before).evaluations? 0 = some 1 ∧
      ∃ answer s', (start.run (before ++ change :: between)).matchRecord 0 0 0 0 =
          some (answer, s') ∧
        s'.matchRecord 0 0 0 0 = some (answer, s') ∧ s'.evaluations? 0 = some 2 := by
  intro before change between
  have hrenews : (start.run before).Renews 0 0 change := by
    exact ⟨rfl, by decide +kernel, by decide +kernel⟩
  have hspares : ((start.run before).perform change).SparesAll 0 0 between := by
    refine ⟨⟨by decide, ?_⟩, ⟨by decide, ?_⟩, trivial⟩
    · intro c _ hsource
      contradiction
    · -- What the copy was compiled to does not fit the store any more.
      intro c _ hsource
      contradiction
  have hstamp : (start.run (before ++ change :: between)).stamp < 2 ^ 63 - 1 := by
    decide +kernel
  have hquery : (start.run (before ++ change :: between)).queries[0]?.map (fun held =>
      (held.query.cacheable, held.query.isNull, held.query.evaluations)) =
        some (true, false, 1) := by
    decide +kernel
  have hrecord : ((start.run (before ++ change :: between)).stores[0]?.bind
      (·.entries[0]?)).isSome := by
    decide +kernel
  obtain ⟨held, hheld, hasks⟩ := Option.map_eq_some_iff.mp hquery
  obtain ⟨e, hrecord⟩ := Option.isSome_iff_exists.mp hrecord
  obtain ⟨store, hstore, he⟩ := Option.bind_eq_some_iff.mp hrecord
  obtain ⟨hcacheable, hnull, hcount⟩ : held.query.cacheable = true ∧
      held.query.isNull = false ∧ held.query.evaluations = 1 := by
    simpa using hasks
  obtain ⟨answer, s', hmatch, hagain, hchanged⟩ := matchRecord_evaluations
    (before ++ change :: between) hstamp hheld hcacheable hnull hstore he hstore
  have hevaluations := hchanged before change between rfl hrenews hspares
  rw [hcount] at hevaluations
  exact ⟨by decide +kernel, answer, s', hmatch, hagain, hevaluations⟩

/-- A query is compiled after it was changed, then copied, and its copy is asked: the query
itself has nothing left to work out. -/
theorem evaluations_unchanged_after_copy :
    let edited := start.run [.openStore ⟨[{ fileName := "a.jpg" }], ∅⟩, .newQuery 0,
      .editQuery 0 (.rating (some 3))]
    let s := edited.run [.keepCompiled 0 0, .copyQuery 0, .matchRecord 1 0 0 0]
    s.stamp < 2 ^ 63 - 1 ∧
      (s.queries[0]?.map fun held => (held.query.cacheable, held.query.isNull)) =
        some (true, false) ∧
      edited.evaluations? 0 = some 0 ∧
      (s.matchRecord 0 0 0 0).bind (fun after => after.2.evaluations? 0) = some 0 := by
  decide +kernel

end Session

end TagQuery
