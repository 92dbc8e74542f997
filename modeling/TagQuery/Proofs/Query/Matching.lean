import TagQuery.Proofs.Lists
import TagQuery.Proofs.MatchCache
import TagQuery.Proofs.MatchText.BlankText
import TagQuery.Query.Search

/-!
# Asking queries about records

What asking a query does, whatever the caches hold: the query is compiled anew or
not at all, and a cache is left alone or remembers the answer that the compiled
query works out.  The answer itself is that of the compiled query wherever the
cache agrees with it.  The loops over the records of a store are described by the
same relations.
-/

namespace TagQuery

/-! ## Queries that ask nothing -/

theorem Filters.accepts_of_isEmpty {f : Filters} (h : f.isEmpty = true)
    (r : Record) :
    f.acceptsBefore r = true ∧ f.acceptsAfter r = true ∧ f.freeform = none := by
  simp only [isEmpty, Bool.and_eq_true, Option.isNone_iff_eq_none,
    Bool.not_eq_true', String.isEmpty_iff] at h
  obtain ⟨⟨⟨⟨⟨⟨⟨⟨⟨hdate, hrating⟩, hresolution⟩, hlabel⟩, hdescription⟩, hraw⟩,
    hregion⟩, hname⟩, hexif⟩, hfreeform⟩ := h
  refine ⟨?_, ?_, hfreeform⟩
  · have hpixels : f.resolution.accepts r.width r.height = true := by
      simp only [Resolution.isUnbounded, Bool.and_eq_true, beq_iff_eq] at hresolution
      simp [Resolution.accepts, hresolution.1, hresolution.2]
    simp [acceptsBefore, acceptsDate, hdate, hrating, hpixels, hlabel, hraw, hregion,
      hname]
  · simp [acceptsAfter, acceptsDescription, hdescription, hexif, Text.words,
      Text.stretches]

theorem CompiledQuery.evaluate_of_isNull {c : CompiledQuery}
    (h : c.isNull = true) (r : Record) : c.evaluate r = true := by
  simp only [isNull, Bool.and_eq_true, List.isEmpty_iff] at h
  obtain ⟨hroots, hfilters⟩ := h
  obtain ⟨hbefore, hafter, hfreeform⟩ := Filters.accepts_of_isEmpty hfilters r
  simp [evaluate, hroots, hbefore, hafter, hfreeform, Matcher.evalAll]

theorem SearchQuery.compile_isNull {q : SearchQuery} (h : q.isNull = true)
    (store : RecordStore) (stamp : ℕ) : (q.compile store stamp).isNull = true := by
  simp only [isNull, Bool.and_eq_true, List.all_eq_true] at h
  obtain ⟨htexts, hfilters⟩ := h
  have hroots : Matcher.ofTexts store.hierarchy q.texts = [] := by
    rw [Matcher.ofTexts, List.filterMap_eq_nil_iff]
    rintro ⟨category, text⟩ hmem
    simp [Matcher.ofText?, MatchText.parse_of_isBlankText (htexts _ hmem),
      Matcher.container?]
  simp [CompiledQuery.isNull, compile, hroots, hfilters]

/-! ## Compiled queries -/

namespace CompiledQuery

/-- The cache of an entry does not contradict a compiled query. -/
def Agrees (c : CompiledQuery) (e : Entry) : Prop :=
  ∀ known, e.cache.get? c.stamp.toUInt64 = some known →
    known = c.evaluate e.record

/-- What becomes of an entry about which a compiled query is asked. -/
def Leaves (c : CompiledQuery) (e e' : Entry) : Prop :=
  e' = e ∨
    e' = { e with cache := .set c.stamp.toUInt64 (c.evaluate e.record) }

theorem Leaves.refl (c : CompiledQuery) (e : Entry) : c.Leaves e e :=
  Or.inl rfl

theorem Leaves.record_eq {c : CompiledQuery} {e e' : Entry} (h : c.Leaves e e') :
    e'.record = e.record := by
  rcases h with rfl | rfl <;> rfl

theorem cached?_eq_of_agrees {c : CompiledQuery} {e : Entry} {known : Bool}
    (h : c.Agrees e) (hcached : c.cached? e.cache = some known) :
    known = c.evaluate e.record := by
  by_cases hcacheable : c.cacheable
  · rw [cached?, if_pos hcacheable] at hcached
    exact h known hcached
  · simp [cached?, hcacheable] at hcached

/-- A compiled query may write what it works out itself. -/
theorem Agrees.leaves {c : CompiledQuery} {e e' : Entry} (h : c.Agrees e)
    (hleaves : c.Leaves e e') : c.Agrees e' := by
  rcases hleaves with rfl | rfl
  · exact h
  · intro known hknown
    rw [MatchCache.get?_set] at hknown
    split at hknown
    · exact (Option.some.inj hknown).symm
    · contradiction

/-- A compiled query may be displaced by another, whose stamp is not taken for its own. -/
theorem Agrees.leaves_other {c c' : CompiledQuery} {e e' : Entry} (h : c.Agrees e)
    (hleaves : c'.Leaves e e')
    (hstamp : c.stamp.toUInt64.toNat ≠ c'.stamp.toUInt64.toNat % 2 ^ 63) :
    c.Agrees e' := by
  rcases hleaves with rfl | rfl
  · exact h
  · intro known hknown
    rw [MatchCache.get?_set, if_neg fun hsame => hstamp hsame.1] at hknown
    contradiction

theorem leaves_remember (c : CompiledQuery) (e : Entry) :
    c.Leaves e { e with cache := c.remember e.cache (c.evaluate e.record) } := by
  by_cases hcacheable : c.cacheable
  · exact Or.inr (by simp [remember, hcacheable])
  · exact Or.inl (by simp [remember, hcacheable])

theorem leaves_matchEntry (c : CompiledQuery) (e : Entry) :
    c.Leaves e (c.matchEntry e).2 := by
  unfold matchEntry
  split
  · exact Leaves.refl c e
  · split
    · exact Leaves.refl c e
    · exact leaves_remember c e

/-- Where the cache agrees, the answer is the one worked out anew. -/
theorem matchEntry_fst {c : CompiledQuery} {e : Entry} (h : c.Agrees e) :
    (c.matchEntry e).1 = c.evaluate e.record := by
  unfold matchEntry
  split
  next hnull => exact (evaluate_of_isNull hnull e.record).symm
  next =>
    split
    next known hcached => exact cached?_eq_of_agrees h hcached
    next => rfl

end CompiledQuery

/-! ## Caches -/

namespace Entry

/-- The record is the same, and its cache is too, or is emptied, or remembers what
one of some compiled queries works out. -/
def Rewritten (P : CompiledQuery → Prop) (e e' : Entry) : Prop :=
  e'.record = e.record ∧
    (e'.cache = e.cache ∨ e'.cache = .empty ∨
      ∃ c, P c ∧ e'.cache = .set c.stamp.toUInt64 (c.evaluate e.record))

variable {P Q : CompiledQuery → Prop} {e e' e'' : Entry}

theorem Rewritten.refl (P : CompiledQuery → Prop) (e : Entry) : e.Rewritten P e :=
  ⟨rfl, Or.inl rfl⟩

theorem rewritten_refl (P : CompiledQuery → Prop) (entries : List Entry) :
    List.Forall₂ (Rewritten P) entries entries :=
  List.forall₂_same.mpr fun e _ => Rewritten.refl P e

/-- The cache of one entry is emptied. -/
theorem rewritten_clear (P : CompiledQuery → Prop) (entries : List Entry) (place : ℕ) :
    List.Forall₂ (Rewritten P) entries (entries.modify place ({ · with cache := .empty })) := by
  cases he : entries[place]? with
  | none =>
      rw [List.modify_eq_self (List.getElem?_eq_none_iff.mp he)]
      exact rewritten_refl P entries
  | some e =>
      rw [modify_eq_set _ he]
      exact forall₂_set (Rewritten.refl P) he ⟨rfl, Or.inr (Or.inl rfl)⟩

theorem Rewritten.mono (h : e.Rewritten P e') (hPQ : ∀ c, P c → Q c) :
    e.Rewritten Q e' := by
  obtain ⟨hrecord, hcache | hcache | ⟨c, hc, hcache⟩⟩ := h
  · exact ⟨hrecord, Or.inl hcache⟩
  · exact ⟨hrecord, Or.inr (Or.inl hcache)⟩
  · exact ⟨hrecord, Or.inr (Or.inr ⟨c, hPQ c hc, hcache⟩)⟩

theorem Rewritten.trans (h : e.Rewritten P e') (h' : e'.Rewritten P e'') :
    e.Rewritten P e'' := by
  obtain ⟨hrecord, hcache⟩ := h
  obtain ⟨hrecord', hcache' | hcache' | ⟨c, hc, hcache'⟩⟩ := h'
  · exact ⟨hrecord'.trans hrecord, by rwa [hcache']⟩
  · exact ⟨hrecord'.trans hrecord, Or.inr (Or.inl hcache')⟩
  · exact ⟨hrecord'.trans hrecord, Or.inr (Or.inr ⟨c, hc, by rw [hcache', hrecord]⟩)⟩

/-- Records are not changed when their caches are written to. -/
theorem records_eq_of_rewritten {entries entries' : List Entry}
    (h : List.Forall₂ (Rewritten P) entries entries') :
    entries'.map (·.record) = entries.map (·.record) := by
  induction h with
  | nil => rfl
  | cons he hentries ih => rw [List.map_cons, List.map_cons, he.1, ih]

end Entry

theorem CompiledQuery.Leaves.rewritten {P : CompiledQuery → Prop} {c : CompiledQuery}
    {e e' : Entry} (h : c.Leaves e e') (hc : P c) : e.Rewritten P e' := by
  rcases h with rfl | rfl
  · exact Entry.Rewritten.refl P e'
  · exact ⟨rfl, Or.inr (Or.inr ⟨c, hc, rfl⟩)⟩

/-! ## Queries -/

namespace SearchQuery

variable {store : RecordStore} {stamp : ℕ} {q q' q'' : SearchQuery}

/-- What becomes of a query that is asked with the values of a store. -/
def Asked (store : RecordStore) (stamp : ℕ) (q q' : SearchQuery) : Prop :=
  q' = q ∨ ∃ evaluations, q' = { (q.refresh store stamp).2 with evaluations }

/-- What a query is compiled to fits the query and the store. -/
theorem refresh_fst_fits (q : SearchQuery) (store : RecordStore) (stamp : ℕ) :
    (q.refresh store stamp).1.generation = q.generation ∧
      (q.refresh store stamp).1.revision = store.revision := by
  cases hcurrent : q.current? store with
  | none =>
      simp only [refresh, hcurrent, Option.getD_none]
      exact ⟨rfl, rfl⟩
  | some c =>
      obtain ⟨-, hfits⟩ := Option.filter_eq_some_iff.mp hcurrent
      simpa only [refresh, hcurrent, Option.getD_some, Bool.and_eq_true,
        beq_iff_eq] using hfits

theorem current?_refresh (q : SearchQuery) (store : RecordStore) (stamp : ℕ) :
    (q.refresh store stamp).2.current? store = some (q.refresh store stamp).1 := by
  obtain ⟨hgeneration, hrevision⟩ := refresh_fst_fits q store stamp
  refine Option.filter_eq_some_iff.mpr ⟨rfl, ?_⟩
  simp only [hrevision, beq_self_eq_true, Bool.and_true, beq_iff_eq]
  exact hgeneration

theorem Asked.refl (store : RecordStore) (stamp : ℕ) (q : SearchQuery) :
    q.Asked store stamp q :=
  Or.inl rfl

theorem Asked.isNull_eq (h : q.Asked store stamp q') : q'.isNull = q.isNull := by
  rcases h with rfl | ⟨evaluations, rfl⟩ <;> rfl

/-- A query is compiled at most once for a store that does not change. -/
theorem Asked.refresh_fst (h : q.Asked store stamp q') :
    (q'.refresh store stamp).1 = (q.refresh store stamp).1 := by
  rcases h with rfl | ⟨evaluations, rfl⟩
  · rfl
  · have hcurrent := current?_refresh q store stamp
    simp only [refresh, current?] at hcurrent ⊢
    simp only [hcurrent, Option.getD_some]

theorem Asked.trans (h : q.Asked store stamp q') (h' : q'.Asked store stamp q'') :
    q.Asked store stamp q'' := by
  rcases h' with rfl | ⟨evaluations, rfl⟩
  · exact h
  · refine Or.inr ⟨evaluations, ?_⟩
    have hcompiled := h.refresh_fst
    rcases h with rfl | ⟨evaluations', rfl⟩
    · rfl
    · simp only [refresh] at hcompiled ⊢
      simp only [hcompiled]

/-- A query that keeps what it means now goes on to keep it. -/
theorem Asked.compiled_eq (h : q.Asked store stamp q')
    (hcompiled : q.compiled = some (q.refresh store stamp).1) :
    q'.compiled = some (q.refresh store stamp).1 := by
  rcases h with rfl | ⟨evaluations, rfl⟩
  · exact hcompiled
  · rfl

/-- What a query means now is what it was compiled to, or compiled anew. -/
theorem current?_or_compile (q : SearchQuery) (store : RecordStore) (stamp : ℕ) :
    q.current? store = some (q.refresh store stamp).1 ∨
      (q.refresh store stamp).1 = q.compile store stamp := by
  cases hcurrent : q.current? store with
  | none => exact Or.inr (by simp only [refresh, hcurrent, Option.getD_none])
  | some c => exact Or.inl (by simp only [refresh, hcurrent, Option.getD_some])

theorem refresh_fst_cases (q : SearchQuery) (store : RecordStore) (stamp : ℕ) :
    q.compiled = some (q.refresh store stamp).1 ∨
      (q.refresh store stamp).1 = q.compile store stamp :=
  (q.current?_or_compile store stamp).imp_left fun h => (Option.filter_eq_some_iff.mp h).1

/-- What a query is compiled to after it was asked it was before, or it is what the
query was to be compiled to. -/
theorem Asked.compiled_cases (h : q.Asked store stamp q') {c : CompiledQuery}
    (hc : q'.compiled = some c) :
    q.compiled = some c ∨ c = q.compile store stamp := by
  rcases h with rfl | ⟨evaluations, rfl⟩
  · exact Or.inl hc
  · have hsame : (q.refresh store stamp).1 = c := Option.some.inj hc
    rw [← hsame]
    exact refresh_fst_cases q store stamp

/-- A query means the same after it was asked. -/
theorem Asked.compile_eq (h : q.Asked store stamp q') (store' : RecordStore)
    (stamp' : ℕ) : q'.compile store' stamp' = q.compile store' stamp' := by
  rcases h with rfl | ⟨evaluations, rfl⟩ <;> rfl

theorem Asked.generation_eq (h : q.Asked store stamp q') :
    q'.generation = q.generation := by
  rcases h with rfl | ⟨evaluations, rfl⟩ <;> rfl

theorem asked_matchEntry (q : SearchQuery) (e : Entry) (store : RecordStore)
    (stamp : ℕ) : q.Asked store stamp (q.matchEntry e store stamp).2.1 := by
  unfold matchEntry
  split
  · exact Asked.refl store stamp q
  · dsimp only
    split
    · exact Or.inr ⟨q.evaluations, rfl⟩
    · exact Or.inr ⟨q.evaluations + 1, rfl⟩

theorem leaves_matchEntry (q : SearchQuery) (e : Entry) (store : RecordStore)
    (stamp : ℕ) :
    (q.refresh store stamp).1.Leaves e (q.matchEntry e store stamp).2.2 := by
  unfold matchEntry
  split
  · exact CompiledQuery.Leaves.refl _ e
  · dsimp only
    split
    · exact CompiledQuery.Leaves.refl _ e
    · exact CompiledQuery.leaves_remember _ e

/-- A cache is only written for a compiled query that the query keeps. -/
theorem compiled_or_unchanged_matchEntry (q : SearchQuery) (e : Entry)
    (store : RecordStore) (stamp : ℕ) :
    (q.matchEntry e store stamp).2.1.compiled = some (q.refresh store stamp).1 ∨
      (q.matchEntry e store stamp).2.2 = e := by
  unfold matchEntry
  split
  · exact Or.inr rfl
  · dsimp only
    split
    · exact Or.inl rfl
    · exact Or.inl rfl

/-- Where the cache agrees, the answer is the one worked out anew. -/
theorem matchEntry_fst {e : Entry} (h : (q.refresh store stamp).1.Agrees e) :
    (q.matchEntry e store stamp).1 =
      (q.isNull || (q.refresh store stamp).1.evaluate e.record) := by
  unfold matchEntry
  split
  next hnull => simp [hnull]
  next hnull =>
    dsimp only
    split
    next known hcached =>
      simp [hnull, CompiledQuery.cached?_eq_of_agrees h hcached]
    next => simp [hnull]

theorem asked_matchBare (q : SearchQuery) (r : Record) (store : RecordStore)
    (stamp : ℕ) : q.Asked store stamp (q.matchBare r store stamp).2 := by
  unfold matchBare
  split
  · exact Asked.refl store stamp q
  · exact Or.inr ⟨q.evaluations + 1, rfl⟩

/-! ## Loops over records -/

/-- What becomes of a query and of entries that it goes through, some of which it
may leave out. -/
structure Visits (store : RecordStore) (stamp : ℕ) (q : SearchQuery)
    (entries : List Entry) (q' : SearchQuery) (entries' : List Entry) : Prop where
  asked : q.Asked store stamp q'
  leaves : List.Forall₂ (q.refresh store stamp).1.Leaves entries entries'
  compiled_or_unchanged :
    q'.compiled = some (q.refresh store stamp).1 ∨ entries' = entries

theorem Visits.nil (store : RecordStore) (stamp : ℕ) (q : SearchQuery) :
    q.Visits store stamp [] q [] :=
  ⟨Asked.refl store stamp q, List.Forall₂.nil, Or.inr rfl⟩

theorem Visits.skip {entries entries' : List Entry} (e : Entry)
    (h : q.Visits store stamp entries q' entries') :
    q.Visits store stamp (e :: entries) q' (e :: entries') where
  asked := h.asked
  leaves := List.Forall₂.cons (CompiledQuery.Leaves.refl _ e) h.leaves
  compiled_or_unchanged := by
    rcases h.compiled_or_unchanged with hcompiled | hsame
    · exact Or.inl hcompiled
    · exact Or.inr (by rw [hsame])

theorem Visits.matchEntry_cons {entries entries' : List Entry} (e : Entry)
    (h : (q.matchEntry e store stamp).2.1.Visits store stamp entries q' entries') :
    q.Visits store stamp (e :: entries) q'
      ((q.matchEntry e store stamp).2.2 :: entries') := by
  have hasked := asked_matchEntry q e store stamp
  have hleaves := h.leaves
  have hchange := h.compiled_or_unchanged
  rw [hasked.refresh_fst] at hleaves hchange
  refine ⟨hasked.trans h.asked,
    List.Forall₂.cons (leaves_matchEntry q e store stamp) hleaves, ?_⟩
  rcases compiled_or_unchanged_matchEntry q e store stamp with hcompiled | hsame
  · have hkept := h.asked.compiled_eq (by rw [hasked.refresh_fst, hcompiled])
    rw [hasked.refresh_fst] at hkept
    exact Or.inl hkept
  · rcases hchange with hcompiled | hrest
    · exact Or.inl hcompiled
    · exact Or.inr (by rw [hsame, hrest])

/-- One of the entries is matched and written back. -/
theorem visits_set {entries : List Entry} {place : ℕ} {e : Entry}
    (he : entries[place]? = some e) :
    q.Visits store stamp entries (q.matchEntry e store stamp).2.1
      (entries.set place (q.matchEntry e store stamp).2.2) where
  asked := asked_matchEntry q e store stamp
  leaves :=
    forall₂_set (CompiledQuery.Leaves.refl _) he (leaves_matchEntry q e store stamp)
  compiled_or_unchanged := by
    rcases compiled_or_unchanged_matchEntry q e store stamp with hcompiled | hsame
    · exact Or.inl hcompiled
    · exact Or.inr (by rw [hsame, set_eq_self he])

theorem visits_matchEach (q : SearchQuery) (store : RecordStore) (stamp : ℕ)
    (entries : List Entry) :
    q.Visits store stamp entries (q.matchEach store stamp entries).2.1
      (q.matchEach store stamp entries).2.2 := by
  induction entries generalizing q with
  | nil => exact Visits.nil store stamp q
  | cons e entries ih => exact Visits.matchEntry_cons e (ih _)

theorem visits_searchEntries (q : SearchQuery) (store : RecordStore) (stamp : ℕ)
    (entries : List Entry) :
    q.Visits store stamp entries (q.searchEntries store stamp entries).2.1
      (q.searchEntries store stamp entries).2.2 := by
  induction entries generalizing q with
  | nil => exact Visits.nil store stamp q
  | cons e entries ih =>
      unfold searchEntries
      split
      · exact Visits.skip e (ih q)
      · exact Visits.matchEntry_cons e (ih _)

theorem matchEach_fst {entries : List Entry}
    (h : ∀ e ∈ entries, (q.refresh store stamp).1.Agrees e) :
    (q.matchEach store stamp entries).1 =
      entries.map fun e =>
        q.isNull || (q.refresh store stamp).1.evaluate e.record := by
  induction entries generalizing q with
  | nil => rfl
  | cons e entries ih =>
      have hasked := asked_matchEntry q e store stamp
      have hrest := ih (q := (q.matchEntry e store stamp).2.1) (by
        intro e' he'
        rw [hasked.refresh_fst]
        exact h e' (List.mem_cons_of_mem _ he'))
      rw [hasked.refresh_fst, hasked.isNull_eq] at hrest
      rw [List.map_cons, ← hrest, ← matchEntry_fst (h e List.mem_cons_self)]
      rfl

theorem searchEntries_fst {entries : List Entry}
    (h : ∀ e ∈ entries, (q.refresh store stamp).1.Agrees e) :
    (q.searchEntries store stamp entries).1 =
      (entries.map (·.record)).filter fun r =>
        !r.locked && (q.isNull || (q.refresh store stamp).1.evaluate r) := by
  induction entries generalizing q with
  | nil => rfl
  | cons e entries ih =>
      rw [List.forall_mem_cons] at h
      rw [List.map_cons, List.filter_cons]
      unfold searchEntries
      split
      next hlocked => simpa [hlocked] using ih h.2
      next hlocked =>
        have hasked := asked_matchEntry q e store stamp
        have hrest := ih (q := (q.matchEntry e store stamp).2.1) (by
          rw [hasked.refresh_fst]
          exact h.2)
        rw [hasked.refresh_fst, hasked.isNull_eq] at hrest
        simp only [hrest, matchEntry_fst h.1, hlocked, Bool.not_false, Bool.true_and]

end SearchQuery

end TagQuery
