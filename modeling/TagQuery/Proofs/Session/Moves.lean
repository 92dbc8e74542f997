import Mathlib.Logic.Relation
import TagQuery.Proofs.Query.Matching
import TagQuery.Proofs.Store
import TagQuery.Session

/-!
# Moves of a session

Everything that can be done in a session comes down to a few moves, each of which
says only what matters for the caches: which numbers are drawn, what a query may be
compiled to, and what may have been written to the caches.  An invariant of
sessions is proved for the moves and then holds after every run.

A move may say less than the action it stands for.  The entries of a renewed
store, for instance, are only known not to remember anything under a stamp that
was not drawn yet: the store is at a new revision, so that no compiled query is
asked about them any more without being compiled again.

Most moves are quiet: they leave every store at the revision that it was at, and a
store of which no other move is made was only looked at.
-/

namespace TagQuery.Session

/-- A compiled query that a query keeps or that was kept for itself. -/
def Keeps (s : Session) (c : CompiledQuery) : Prop :=
  c ∈ s.snapshots ∨ ∃ held ∈ s.queries, held.query.compiled = some c

/-- A compiled query whose answers may be written to caches before a stamp: it is
kept, or its stamp is new. -/
def MayWrite (s : Session) (bound : ℕ) (c : CompiledQuery) : Prop :=
  c.stamp < bound ∧ (s.Keeps c ∨ s.stamp ≤ c.stamp)

/-- One move of a session. -/
inductive Move : Session → Session → Prop
  | openStore {s : Session} (fixture : Fixture) :
      Move s (s.openStore fixture)
  /-- A store is changed and gets to a revision with a new stamp. -/
  | renewStore {s : Session} {place : ℕ} {old new : RecordStore}
      (hold : s.stores[place]? = some old)
      (hrevision : s.stamp ≤ new.revision)
      (hgenerations : new.generations = old.generations)
      (hcaches : ∀ e ∈ new.entries, e.cache.Before s.stamp)
      (hhierarchy : ∃ first changes,
        new.hierarchy = old.hierarchy.editAll first changes) :
      Move s { s.setStore place new with stamp := new.nextStamp }
  /-- The records of a store are looked at, or its generations are drawn. -/
  | visitStore {s : Session} {place stamp generations : ℕ} {old : RecordStore}
      {entries : List Entry}
      (hold : s.stores[place]? = some old)
      (hstamp : s.stamp ≤ stamp)
      (hgenerations : old.generations ≤ generations)
      (hentries : List.Forall₂ (Entry.Rewritten (s.MayWrite stamp)) old.entries
        entries) :
      Move s
        { s.setStore place { old with entries, generations } with stamp }
  | newQuery {s : Session} {home : ℕ} {store : RecordStore} {q : SearchQuery}
      (hhome : s.stores[home]? = some store)
      (hcompiled : q.compiled = none)
      (hgeneration : q.generation ≤ store.generations) :
      Move s (s.addQuery home q)
  | copyQuery {s : Session} {held : HeldQuery} (hheld : held ∈ s.queries) :
      Move s (s.addQuery held.home held.query)
  /-- A query is changed and gets a new generation. -/
  | editQuery {s : Session} {place : ℕ} {held : HeldQuery} {store : RecordStore}
      {q : SearchQuery}
      (hheld : s.queries[place]? = some held)
      (hhome : s.stores[held.home]? = some store)
      (hgeneration : q.generation = store.generations + 1)
      (hcompiled : q.compiled = held.query.compiled) :
      Move s
        ((s.setQuery place q).setGenerations held.home (store.generations + 1))
  /-- A query is asked, for which it may have been compiled. -/
  | askQuery {s : Session} {place : ℕ} {held : HeldQuery} {store : RecordStore}
      {q : SearchQuery}
      (hheld : s.queries[place]? = some held)
      (hstore : store ∈ s.stores)
      (hasked : held.query.Asked store s.stamp q) :
      Move s (s.setAsked place q)
  | keepCompiled {s : Session} {c : CompiledQuery} (hkept : s.Keeps c) :
      Move s (s.addSnapshot c)
  | compile {s : Session} {held : HeldQuery} {store : RecordStore}
      (hheld : held ∈ s.queries) (hstore : store ∈ s.stores) :
      Move s ((s.addSnapshot (held.query.compile store s.stamp)).draw 1)

/-- Any number of moves. -/
abbrev Moves : Session → Session → Prop :=
  Relation.ReflTransGen Move

/-- Every store is at the revision that it was at. -/
def SameRevisions (s s' : Session) : Prop :=
  s'.stores.map (·.revision) = s.stores.map (·.revision)

/-- A move that leaves every store at its revision. -/
def QuietMove (s s' : Session) : Prop :=
  Move s s' ∧ s.SameRevisions s'

/-- Any number of quiet moves. -/
abbrev QuietMoves : Session → Session → Prop :=
  Relation.ReflTransGen QuietMove

/-! ## Places -/

variable {s : Session} {place store : ℕ} {held : HeldQuery} {old vocabulary : RecordStore}
  {q : SearchQuery} {entries : List Entry}

theorem setEntries_eq (h : s.stores[store]? = some old) :
    s.setEntries store entries = s.setStore store { old with entries } := by
  rw [setEntries, setStore, modify_eq_set _ h]

theorem setGenerations_eq {drawn : ℕ} (h : s.stores[store]? = some old) :
    s.setGenerations store drawn = s.setStore store { old with generations := drawn } := by
  rw [setGenerations, setStore, modify_eq_set _ h]

theorem setQuery_eq (h : s.queries[place]? = some held) :
    s.setQuery place q = { s with queries := s.queries.set place ⟨held.home, q⟩ } := by
  rw [setQuery, modify_eq_set _ h]

theorem keeps_setAsked (hheld : s.queries[place]? = some held) {c : CompiledQuery}
    (hcompiled : q.compiled = some c) : (s.setAsked place q).Keeps c := by
  refine Or.inr ⟨⟨held.home, q⟩, ?_, hcompiled⟩
  rw [setAsked, setQuery_eq hheld]
  exact List.mem_set (List.getElem?_eq_some_iff.mp hheld).1 _

/-- A store may be replaced by one at the same revision. -/
theorem revisions_set {new : RecordStore} (hold : s.stores[place]? = some old)
    (h : new.revision = old.revision) :
    (s.stores.set place new).map (·.revision) = s.stores.map (·.revision) := by
  rw [List.map_set, h]
  refine List.ext_getElem? fun i => ?_
  rw [List.getElem?_set, List.length_map]
  split
  next hplace =>
    rw [if_pos (List.getElem?_eq_some_iff.mp hold).1, ← hplace, List.getElem?_map, hold]
    rfl
  next => rfl

/-! ## Dates -/

/-- The stamp of a session is new: no revision, no compiled query and no cache
bears it or a later one. -/
structure Dated (s : Session) : Prop where
  revision_lt : ∀ store ∈ s.stores, store.revision < s.stamp
  cache_before : ∀ store ∈ s.stores, ∀ e ∈ store.entries, e.cache.Before s.stamp
  compiled_lt : ∀ c, s.Keeps c → c.revision < s.stamp ∧ c.stamp < s.stamp

theorem dated_start : start.Dated where
  revision_lt := by simp [start]
  cache_before := by simp [start]
  compiled_lt := by simp [start, Keeps]

/-! ## What a move does -/

variable {s' : Session} {c : CompiledQuery}

theorem stamp_le_nextStamp (q : SearchQuery) (stamp : ℕ) : stamp ≤ q.nextStamp stamp := by
  unfold SearchQuery.nextStamp
  split
  · exact Nat.le_refl stamp
  · exact Nat.le_max_left _ _

theorem Move.stamp_le (h : Move s s') : s.stamp ≤ s'.stamp := by
  cases h with
  | openStore fixture =>
      simp only [Session.openStore, RecordStore.nextStamp, RecordStore.revision, Fixture.store,
        RecordStore.ofRecords]
      omega
  | renewStore hold hrevision => exact Nat.le_succ_of_le hrevision
  | visitStore hold hstamp => exact hstamp
  | askQuery => exact stamp_le_nextStamp _ _
  | compile => exact Nat.le_add_right _ _
  | _ => exact Nat.le_refl _

theorem keeps_addQuery {home : ℕ} (h : (s.addQuery home q).Keeps c) :
    s.Keeps c ∨ q.compiled = some c := by
  rcases h with hsnapshot | ⟨held, hheld, hcompiled⟩
  · exact Or.inl (Or.inl hsnapshot)
  · rcases List.mem_append.mp hheld with hheld | hheld
    · exact Or.inl (Or.inr ⟨held, hheld, hcompiled⟩)
    · rw [List.mem_singleton.mp hheld] at hcompiled
      exact Or.inr hcompiled

theorem mem_setQuery (hheld : s.queries[place]? = some held) {held' : HeldQuery}
    (h : held' ∈ (s.setQuery place q).queries) :
    held' ∈ s.queries ∨ held' = ⟨held.home, q⟩ := by
  rw [setQuery_eq hheld] at h
  exact List.mem_or_eq_of_mem_set h

theorem keeps_setQuery (hheld : s.queries[place]? = some held)
    (h : (s.setQuery place q).Keeps c) : s.Keeps c ∨ q.compiled = some c := by
  rcases h with hsnapshot | ⟨held', hheld', hcompiled⟩
  · exact Or.inl (Or.inl hsnapshot)
  · rcases mem_setQuery hheld hheld' with hheld' | rfl
    · exact Or.inl (Or.inr ⟨held', hheld', hcompiled⟩)
    · exact Or.inr hcompiled

theorem keeps_addSnapshot {c' : CompiledQuery} (h : (s.addSnapshot c').Keeps c) :
    s.Keeps c ∨ c = c' := by
  rcases h with hsnapshot | hqueries
  · rcases List.mem_append.mp hsnapshot with hsnapshot | hsnapshot
    · exact Or.inl (Or.inl hsnapshot)
    · exact Or.inr (List.mem_singleton.mp hsnapshot)
  · exact Or.inl (Or.inr hqueries)

/-- A move compiles nothing, or it compiles one query under the next stamp and
leaves the stores alone. -/
theorem Move.keeps (h : Move s s') :
    (∀ c, s'.Keeps c → s.Keeps c) ∨
      (s'.stores = s.stores ∧ s'.stamp = s.stamp + 1 ∧
        ∃ held ∈ s.queries, ∃ store ∈ s.stores, ∀ c, s'.Keeps c →
          s.Keeps c ∨ c = held.query.compile store s.stamp) := by
  cases h with
  | openStore fixture => exact Or.inl fun c hc => hc
  | renewStore => exact Or.inl fun c hc => hc
  | visitStore => exact Or.inl fun c hc => hc
  | newQuery hhome hcompiled =>
      refine Or.inl fun c hc => (keeps_addQuery hc).resolve_right fun hc => ?_
      rw [hcompiled] at hc
      contradiction
  | copyQuery hheld =>
      refine Or.inl fun c hc => (keeps_addQuery hc).elim id fun hc => ?_
      exact Or.inr ⟨_, hheld, hc⟩
  | editQuery hheld hhome hgeneration hcompiled =>
      refine Or.inl fun c hc => (keeps_setQuery hheld hc).elim id fun hc => ?_
      exact Or.inr ⟨_, List.mem_of_getElem? hheld, hcompiled.symm.trans hc⟩
  | @askQuery place held store q hheld hstore hasked =>
      have hmem := List.mem_of_getElem? hheld
      have hkeeps : ∀ c, (s.setAsked place q).Keeps c →
          s.Keeps c ∨ q.compiled = some c :=
        fun c hc => keeps_setQuery hheld hc
      rcases hasked with rfl | ⟨evaluations, rfl⟩
      · exact Or.inl fun c hc => (hkeeps c hc).elim id fun hc => Or.inr ⟨_, hmem, hc⟩
      · rcases held.query.refresh_fst_cases store s.stamp with hkept | hcompile
        · refine Or.inl fun c hc => (hkeeps c hc).elim id fun hc => ?_
          exact Or.inr ⟨_, hmem, hkept.trans hc⟩
        · refine Or.inr ⟨rfl, ?_, held, hmem, store, hstore, fun c hc => ?_⟩
          · have hnext : (held.query.refresh store s.stamp).1.stamp = s.stamp := by
              rw [hcompile]
              rfl
            simp only [setAsked, SearchQuery.nextStamp]
            simp only [SearchQuery.refresh] at hnext ⊢
            omega
          · rw [← hcompile]
            exact (hkeeps c hc).imp_right fun hc => (Option.some.inj hc).symm
  | keepCompiled hkept =>
      refine Or.inl fun c hc => (keeps_addSnapshot hc).elim id fun hc => ?_
      rw [hc]
      exact hkept
  | compile hheld hstore =>
      exact Or.inr ⟨rfl, rfl, _, hheld, _, hstore, fun c hc => keeps_addSnapshot hc⟩

/-- The records of a store were only looked at. -/
structure Visited (s : Session) (bound : ℕ) (old new : RecordStore) : Prop where
  hierarchy_eq : new.hierarchy = old.hierarchy
  touched_eq : new.touched = old.touched
  generations_le : old.generations ≤ new.generations
  entries : List.Forall₂ (Entry.Rewritten (s.MayWrite bound)) old.entries new.entries

/-- The store is at a revision that the session had not reached. -/
structure Renewed (s : Session) (bound : ℕ) (new : RecordStore) : Prop where
  le_revision : s.stamp ≤ new.revision
  revision_lt : new.revision < bound
  cache_before : ∀ e ∈ new.entries, e.cache.Before s.stamp
  hierarchy :
    (∃ groups stamp, new.hierarchy = .ofGroups groups stamp) ∨
      ∃ old ∈ s.stores, ∃ first changes,
        new.hierarchy = old.hierarchy.editAll first changes

theorem Visited.refl (s : Session) (bound : ℕ) (store : RecordStore) :
    s.Visited bound store store where
  hierarchy_eq := rfl
  touched_eq := rfl
  generations_le := Nat.le_refl _
  entries := Entry.rewritten_refl _ _

theorem Visited.revision_eq {bound : ℕ} {new : RecordStore}
    (h : s.Visited bound old new) : new.revision = old.revision := by
  rw [RecordStore.revision, RecordStore.revision, h.hierarchy_eq, h.touched_eq]

theorem renewed_openStore (s : Session) (fixture : Fixture) :
    s.Renewed (s.openStore fixture).stamp (fixture.store s.stamp) where
  le_revision := by
    simp only [RecordStore.revision, Fixture.store, RecordStore.ofRecords]
    omega
  revision_lt := Nat.lt_succ_self _
  cache_before := by
    intro e he
    obtain ⟨record, -, rfl⟩ := List.mem_map.mp he
    exact MatchCache.before_empty _
  hierarchy := Or.inl ⟨_, _, rfl⟩

/-- A store after a move was at its place before, or it is at a new revision. -/
theorem Move.store_at (h : Move s s') {i : ℕ} {new : RecordStore}
    (hnew : s'.stores[i]? = some new) :
    (∃ old, s.stores[i]? = some old ∧ s.Visited s'.stamp old new) ∨
      s.Renewed s'.stamp new := by
  cases h with
  | openStore fixture =>
      rcases getElem?_concat_cases hnew with hnew | rfl
      · exact Or.inl ⟨new, hnew, Visited.refl _ _ new⟩
      · exact Or.inr (renewed_openStore s fixture)
  | renewStore hold hrevision hgenerations hcaches hhierarchy =>
      rcases getElem?_set_cases hnew with ⟨-, rfl⟩ | ⟨-, hnew⟩
      · exact Or.inr ⟨hrevision, Nat.lt_succ_self _, hcaches,
          Or.inr ⟨_, List.mem_of_getElem? hold, hhierarchy⟩⟩
      · exact Or.inl ⟨new, hnew, Visited.refl _ _ new⟩
  | visitStore hold hstamp hgenerations hentries =>
      rcases getElem?_set_cases hnew with ⟨rfl, rfl⟩ | ⟨-, hnew⟩
      · exact Or.inl ⟨_, hold, rfl, rfl, hgenerations, hentries⟩
      · exact Or.inl ⟨new, hnew, Visited.refl _ _ new⟩
  | editQuery hheld hhome =>
      rw [setGenerations_eq (by exact hhome)] at hnew
      rcases getElem?_set_cases hnew with ⟨rfl, rfl⟩ | ⟨-, hnew⟩
      · exact Or.inl ⟨_, hhome, rfl, rfl, Nat.le_succ _, Entry.rewritten_refl _ _⟩
      · exact Or.inl ⟨new, hnew, Visited.refl _ _ new⟩
  | _ => exact Or.inl ⟨new, hnew, Visited.refl _ _ new⟩

theorem Move.stores (h : Move s s') {new : RecordStore} (hnew : new ∈ s'.stores) :
    (∃ old ∈ s.stores, s.Visited s'.stamp old new) ∨ s.Renewed s'.stamp new := by
  obtain ⟨i, hi⟩ := List.getElem?_of_mem hnew
  rcases h.store_at hi with ⟨old, hold, hvisited⟩ | hrenewed
  · exact Or.inl ⟨old, List.mem_of_getElem? hold, hvisited⟩
  · exact Or.inr hrenewed

/-- A store keeps its place and the generations it has drawn. -/
theorem Move.generations_le (h : Move s s') {i : ℕ} (hold : s.stores[i]? = some old) :
    ∃ new, s'.stores[i]? = some new ∧ old.generations ≤ new.generations := by
  have hset : ∀ {place : ℕ} {known new : RecordStore},
      s.stores[place]? = some known → known.generations ≤ new.generations →
      ∃ new', (s.stores.set place new)[i]? = some new' ∧
        old.generations ≤ new'.generations := by
    intro place known new hknown hle
    rw [List.getElem?_set]
    split
    next hplace =>
      rw [if_pos (List.getElem?_eq_some_iff.mp hknown).1]
      rw [hplace, hold] at hknown
      cases hknown
      exact ⟨new, rfl, hle⟩
    next => exact ⟨old, hold, Nat.le_refl _⟩
  cases h with
  | openStore fixture =>
      have hlt := (List.getElem?_eq_some_iff.mp hold).1
      exact ⟨old, (List.getElem?_append_left hlt).trans hold, Nat.le_refl _⟩
  | renewStore hknown hrevision hgenerations =>
      exact hset hknown (Nat.le_of_eq hgenerations.symm)
  | visitStore hknown hstamp hgenerations => exact hset hknown hgenerations
  | editQuery hheld hhome =>
      rw [setGenerations_eq (by exact hhome)]
      exact hset hhome (Nat.le_succ _)
  | _ => exact ⟨old, hold, Nat.le_refl _⟩

/-- Where a query after a move comes from. -/
inductive Origin (s s' : Session) (held' : HeldQuery) : Prop
  | same (hheld : held' ∈ s.queries)
  | new {home : RecordStore}
      (hhome : s.stores[held'.home]? = some home)
      (hgeneration : held'.query.generation ≤ home.generations)
      (hcompiled : held'.query.compiled = none)
  | edited {held : HeldQuery} {home home' : RecordStore}
      (hheld : held ∈ s.queries)
      (hhome : s.stores[held.home]? = some home)
      (hhome' : s'.stores[held'.home]? = some home')
      (hplace : held'.home = held.home)
      (hdrawn : home.generations < home'.generations)
      (hgeneration : held'.query.generation = home'.generations)
      (hcompiled : held'.query.compiled = held.query.compiled)
  | asked {held : HeldQuery} {store : RecordStore}
      (hstores : s'.stores = s.stores)
      (hheld : held ∈ s.queries)
      (hstore : store ∈ s.stores)
      (hplace : held'.home = held.home)
      (hasked : held.query.Asked store s.stamp held'.query)

theorem Move.origin (h : Move s s') {held' : HeldQuery} (hheld' : held' ∈ s'.queries) :
    Origin s s' held' := by
  cases h with
  | newQuery hhome hcompiled hgeneration =>
      rcases List.mem_append.mp hheld' with hheld' | hheld'
      · exact .same hheld'
      · cases List.mem_singleton.mp hheld'
        exact .new hhome hgeneration hcompiled
  | copyQuery hheld =>
      rcases List.mem_append.mp hheld' with hheld' | hheld'
      · exact .same hheld'
      · cases List.mem_singleton.mp hheld'
        exact .same hheld
  | @editQuery place held home q hheld hhome hgeneration hcompiled =>
      have hhome' :
          ((s.setQuery place q).setGenerations held.home (home.generations + 1)).stores[
            held.home]? = some { home with generations := home.generations + 1 } := by
        rw [setGenerations, List.getElem?_modify_eq]
        exact congrArg _ hhome
      rcases mem_setQuery hheld hheld' with hheld' | rfl
      · exact .same hheld'
      · exact .edited (List.mem_of_getElem? hheld) hhome hhome' rfl (Nat.lt_succ_self _)
          hgeneration hcompiled
  | askQuery hheld hstore hasked =>
      rcases mem_setQuery hheld hheld' with hheld' | rfl
      · exact .same hheld'
      · exact .asked rfl (List.mem_of_getElem? hheld) hstore rfl hasked
  | _ => exact .same hheld'

/-! ## Dates after a move -/

theorem before_of_rewritten {bound : ℕ} {e e' : Entry}
    (h : e.Rewritten (s.MayWrite bound) e') (he : e.cache.Before s.stamp)
    (hbound : s.stamp ≤ bound) : e'.cache.Before bound := by
  obtain ⟨-, hcache | hcache | ⟨c, ⟨hstamp, -⟩, hcache⟩⟩ := h
  · rw [hcache]
    exact he.mono hbound
  · rw [hcache]
    exact MatchCache.before_empty bound
  · rw [hcache]
    exact MatchCache.before_set hstamp _

theorem Dated.move (hs : s.Dated) (h : Move s s') : s'.Dated where
  revision_lt := by
    intro new hnew
    rcases h.stores hnew with ⟨old, hold, hvisited⟩ | hrenewed
    · rw [hvisited.revision_eq]
      exact Nat.lt_of_lt_of_le (hs.revision_lt old hold) h.stamp_le
    · exact hrenewed.revision_lt
  cache_before := by
    intro new hnew e' he'
    rcases h.stores hnew with ⟨old, hold, hvisited⟩ | hrenewed
    · obtain ⟨e, he, hwritten⟩ := exists_mem_of_forall₂ hvisited.entries he'
      exact before_of_rewritten hwritten (hs.cache_before old hold e he) h.stamp_le
    · exact (hrenewed.cache_before e' he').mono h.stamp_le
  compiled_lt := by
    intro c hc
    have hle := h.stamp_le
    rcases h.keeps with hkeeps | ⟨-, hstamp, held, -, store, hstore, hkeeps⟩
    · have hlt := hs.compiled_lt c (hkeeps c hc)
      omega
    · rcases hkeeps c hc with hc | rfl
      · have hlt := hs.compiled_lt c hc
        omega
      · have hrevision := hs.revision_lt store hstore
        simp only [SearchQuery.compile]
        omega

theorem Dated.moves (hs : s.Dated) (h : Moves s s') : s'.Dated := by
  induction h with
  | refl => exact hs
  | tail hmoves hmove ih => exact ih.move hmove

/-! ## Several moves -/

theorem QuietMoves.moves (h : QuietMoves s s') : Moves s s' := by
  induction h with
  | refl => exact .refl
  | tail _ hmove ih => exact ih.tail hmove.1

theorem QuietMoves.sameRevisions (h : QuietMoves s s') : s.SameRevisions s' := by
  induction h with
  | refl => exact rfl
  | tail _ hmove ih => exact Eq.trans hmove.2 ih

theorem Moves.stamp_le (h : Moves s s') : s.stamp ≤ s'.stamp := by
  induction h with
  | refl => exact Nat.le_refl _
  | tail _ hmove ih => exact Nat.le_trans ih hmove.stamp_le

/-- What is kept after moves was kept before or bears a new stamp. -/
theorem Moves.keeps (h : Moves s s') (hc : s'.Keeps c) : s.Keeps c ∨ s.stamp ≤ c.stamp := by
  induction h with
  | refl => exact Or.inl hc
  | @tail mid s' hmoves hmove ih =>
      rcases hmove.keeps with hkeeps | ⟨-, -, held, -, store, -, hkeeps⟩
      · exact ih (hkeeps c hc)
      · rcases hkeeps c hc with hc | rfl
        · exact ih hc
        · exact Or.inr (Moves.stamp_le hmoves)

theorem MayWrite.of_moves {bound bound' : ℕ} (hmoves : Moves s s') (hbound : bound ≤ bound')
    (h : s'.MayWrite bound c) : s.MayWrite bound' c := by
  obtain ⟨hstamp, hkept | hnew⟩ := h
  · exact ⟨Nat.lt_of_lt_of_le hstamp hbound, hmoves.keeps hkept⟩
  · exact ⟨Nat.lt_of_lt_of_le hstamp hbound, Or.inr (Nat.le_trans hmoves.stamp_le hnew)⟩

/-- A store after moves was at its place before and only looked at, or it is at a revision
that the session had not reached. -/
theorem Moves.store_at (h : Moves s s') {i : ℕ} {new : RecordStore}
    (hnew : s'.stores[i]? = some new) :
    (∃ old, s.stores[i]? = some old ∧ s.Visited s'.stamp old new) ∨
      s.stamp ≤ new.revision := by
  induction h generalizing new with
  | refl => exact Or.inl ⟨new, hnew, Visited.refl _ _ new⟩
  | @tail mid s' hmoves hmove ih =>
      rcases hmove.store_at hnew with ⟨between, hbetween, hvisited⟩ | hrenewed
      · rcases ih hbetween with ⟨old, hold, hearlier⟩ | hrevision
        · refine Or.inl ⟨old, hold, hvisited.hierarchy_eq.trans hearlier.hierarchy_eq,
            hvisited.touched_eq.trans hearlier.touched_eq,
            Nat.le_trans hearlier.generations_le hvisited.generations_le, ?_⟩
          refine forall₂_trans (fun _ _ _ => Entry.Rewritten.trans)
            (hearlier.entries.imp fun e e' he => he.mono fun c hc => ?_)
            (hvisited.entries.imp fun e e' he => he.mono fun c hc => ?_)
          · exact MayWrite.of_moves .refl hmove.stamp_le hc
          · exact MayWrite.of_moves hmoves (Nat.le_refl _) hc
        · rw [hvisited.revision_eq]
          exact Or.inr hrevision
      · exact Or.inr (Nat.le_trans (Moves.stamp_le hmoves) hrenewed.le_revision)

theorem Moves.stores {new : RecordStore} (h : Moves s s') (hnew : new ∈ s'.stores) :
    (∃ old ∈ s.stores, s.Visited s'.stamp old new) ∨ s.stamp ≤ new.revision := by
  obtain ⟨i, hi⟩ := List.getElem?_of_mem hnew
  rcases h.store_at hi with ⟨old, hold, hvisited⟩ | hrevision
  · exact Or.inl ⟨old, List.mem_of_getElem? hold, hvisited⟩
  · exact Or.inr hrevision

end TagQuery.Session
