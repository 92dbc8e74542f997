import TagQuery.Proofs.Classification.Caches
import TagQuery.Proofs.Hierarchy
import TagQuery.Proofs.Query.Edits
import TagQuery.Proofs.Session.Moves
import TagQuery.Session.Action

/-!
# Actions as moves

Every action of a session comes down to moves.  What is asked of a query is one
move for the query and one for the records; a classification, which compiles its
own queries, is one move for the records and one for the generation that it draws.
Only three actions change what is in a store: a store is opened, it is edited, or two
stores exchange records.  All others are quiet moves.
-/

namespace TagQuery.Session

variable {s s' : Session} {place store : ℕ} {held : HeldQuery}
  {old vocabulary : RecordStore} {q : SearchQuery} {entries : List Entry}

/-! ## Looking at records -/

/-- Some of the entries of a store are written to. -/
theorem quiet_setEntries {stamp : ℕ} (hold : s.stores[store]? = some old)
    (hstamp : s.stamp ≤ stamp)
    (hentries : List.Forall₂ (Entry.Rewritten (s.MayWrite stamp)) old.entries entries) :
    QuietMoves s { s.setEntries store entries with stamp } := by
  rw [setEntries_eq hold]
  exact .single ⟨.visitStore hold hstamp (Nat.le_refl _) hentries, revisions_set hold rfl⟩

/-- A store draws generations, if it is there. -/
theorem quiet_setGenerations {drawn : ℕ}
    (hdrawn : ∀ old, s.stores[store]? = some old → old.generations ≤ drawn) :
    QuietMoves s (s.setGenerations store drawn) := by
  cases hold : s.stores[store]? with
  | none =>
      have hsame : s.setGenerations store drawn = s := by
        rw [setGenerations, List.modify_eq_self (List.getElem?_eq_none_iff.mp hold)]
      rw [hsame]
  | some old =>
      rw [setGenerations_eq hold]
      exact .single ⟨.visitStore hold (Nat.le_refl _) (hdrawn old hold)
        (Entry.rewritten_refl _ _), revisions_set hold rfl⟩

/-- A query goes through the entries of a store, with the values of a vocabulary. -/
inductive Looks (s : Session) (place store vocabulary : ℕ) : Session → Prop
  | intro {held : HeldQuery} {old known : RecordStore} {q : SearchQuery} {entries : List Entry}
      (hheld : s.queries[place]? = some held)
      (hold : s.stores[store]? = some old)
      (hknown : s.stores[vocabulary]? = some known)
      (hvisits : held.query.Visits known s.stamp old.entries q entries) :
      Looks s place store vocabulary ((s.setAsked place q).setEntries store entries)

theorem Looks.quiet {known : ℕ} (h : s.Looks place store known s') : QuietMoves s s' := by
  obtain @⟨held, old, vocabulary, q, entries, hheld, hold, hknown, hvisits⟩ := h
  have hask := Move.askQuery hheld (List.mem_of_getElem? hknown) hvisits.asked
  refine .trans (.single ⟨hask, rfl⟩) (quiet_setEntries hold (Nat.le_refl _) ?_)
  rcases hvisits.compiled_or_unchanged with hcompiled | hsame
  · have hkept : (s.setAsked place q).Keeps
        (held.query.refresh vocabulary s.stamp).1 :=
      keeps_setAsked hheld hcompiled
    have hstamp : (held.query.refresh vocabulary s.stamp).1.stamp <
        (s.setAsked place q).stamp := by
      simp only [setAsked, SearchQuery.nextStamp, hcompiled]
      omega
    exact hvisits.leaves.imp fun e e' h => h.rewritten ⟨hstamp, Or.inl hkept⟩
  · rw [hsame]
    exact Entry.rewritten_refl _ _

/-! ## Changes -/

theorem editStore_eq_some {change : StoreEdit} (h : s.editStore place change = some s') :
    ∃ old, s.stores[place]? = some old ∧
      s' = { s.setStore place (old.edit change s.stamp) with
        stamp := (old.edit change s.stamp).nextStamp } := by
  simp only [editStore, Option.bind_eq_bind, Option.bind_eq_some_iff, Option.pure_def,
    Option.some.injEq] at h
  obtain ⟨old, hold, rfl⟩ := h
  exact ⟨old, hold, rfl⟩

theorem moves_editStore {change : StoreEdit} (hs : s.Dated)
    (h : s.editStore place change = some s') : Moves s s' := by
  obtain ⟨old, hold, rfl⟩ := editStore_eq_some h
  refine .single (.renewStore hold (RecordStore.le_revision_edit old change s.stamp)
    (RecordStore.edit_generations old change s.stamp) ?_
    (RecordStore.edit_hierarchy old change s.stamp))
  exact RecordStore.before_edit (hs.cache_before old (List.mem_of_getElem? hold))

/-- Both stores hand out their records, the second after the first. -/
theorem exchange_eq_some {record other otherRecord : ℕ}
    (h : s.exchange place record other otherRecord = some s') :
    ∃ old old' e e', s.stores[place]? = some old ∧ s.stores[other]? = some old' ∧
      old.entries[record]? = some e ∧ old'.entries[otherRecord]? = some e' ∧ place ≠ other ∧
      s' = ((s.setStore place
        { old.edit .touch s.stamp with entries := old.entries.set record e' }).setStore other
        { old'.edit .touch (s.stamp + 1) with
          entries := old'.entries.set otherRecord e }).draw 2 := by
  simp only [exchange, Option.bind_eq_bind, Option.bind_eq_some_iff,
    Option.pure_def] at h
  obtain ⟨old, hold, old', hold', e, he, e', he', h⟩ := h
  split at h
  next => contradiction
  next hne =>
    cases h
    exact ⟨old, old', e, e', hold, hold', he, he', hne, rfl⟩

/-- A store whose records are handed out gets to the revision of the given stamp. -/
theorem nextStamp_touch {stamp : ℕ} (h : old.revision < stamp) (entries : List Entry) :
    ({ old.edit .touch stamp with entries } : RecordStore).nextStamp = stamp + 1 := by
  have hhierarchy : old.hierarchy.revision < stamp :=
    Nat.lt_of_le_of_lt (Nat.le_max_right _ _) h
  simp only [RecordStore.nextStamp, RecordStore.revision, RecordStore.edit,
    StoreEdit.touch]
  omega

theorem moves_exchange {record other otherRecord : ℕ} (hs : s.Dated)
    (h : s.exchange place record other otherRecord = some s') : Moves s s' := by
  obtain ⟨old, old', e, e', hold, hold', he, he', hne, rfl⟩ := exchange_eq_some h
  have hcaches := hs.cache_before old (List.mem_of_getElem? hold)
  have hcaches' := hs.cache_before old' (List.mem_of_getElem? hold')
  have hnext := nextStamp_touch (hs.revision_lt old (List.mem_of_getElem? hold))
    (old.entries.set record e')
  have hlt' : old'.revision < s.stamp + 1 :=
    Nat.lt_succ_of_lt (hs.revision_lt old' (List.mem_of_getElem? hold'))
  have hnext' := nextStamp_touch hlt' (old'.entries.set otherRecord e)
  have hfirst := @Move.renewStore s place old
    { old.edit .touch s.stamp with entries := old.entries.set record e' }
    hold (RecordStore.le_revision_edit old .touch s.stamp) rfl
    (forall_mem_set hcaches (hcaches' e' (List.mem_of_getElem? he')))
    ⟨s.stamp, [], rfl⟩
  rw [hnext] at hfirst
  have hsecond := @Move.renewStore
    { s.setStore place
      { old.edit .touch s.stamp with entries := old.entries.set record e' } with
        stamp := s.stamp + 1 }
    other old'
    { old'.edit .touch (s.stamp + 1) with
      entries := old'.entries.set otherRecord e }
    (by simpa [setStore, hne] using hold')
    (RecordStore.le_revision_edit old' .touch (s.stamp + 1)) rfl
    (forall_mem_set (fun e he => (hcaches' e he).mono (Nat.le_succ _))
      ((hcaches e (List.mem_of_getElem? he)).mono (Nat.le_succ _)))
    ⟨s.stamp, [], rfl⟩
  rw [hnext'] at hsecond
  exact .trans (.single hfirst) (.single hsecond)

theorem quiet_clearCache {record : ℕ} (h : s.clearCache place record = some s') :
    QuietMoves s s' := by
  simp only [clearCache, Option.bind_eq_bind, Option.bind_eq_some_iff, Option.pure_def,
    Option.some.injEq] at h
  obtain ⟨old, hold, rfl⟩ := h
  exact quiet_setEntries hold (Nat.le_refl _) (Entry.rewritten_clear _ old.entries record)

/-- A query is added, for which its home draws generations. -/
theorem quiet_addQuery {home drawn : ℕ} (hhome : s.stores[home]? = some old)
    (hdrawn : old.generations ≤ drawn) (hcompiled : q.compiled = none)
    (hgeneration : q.generation ≤ drawn) :
    QuietMoves s ((s.addQuery home q).setGenerations home drawn) := by
  have hdraw : QuietMoves s (s.setGenerations home drawn) := by
    refine quiet_setGenerations fun store hstore => ?_
    rw [hhome] at hstore
    cases hstore
    exact hdrawn
  have hhome' : (s.setGenerations home drawn).stores[home]? =
      some { old with generations := drawn } := by
    simp [setGenerations, List.getElem?_modify_eq, hhome]
  exact hdraw.tail ⟨.newQuery hhome' hcompiled hgeneration, rfl⟩

theorem quiet_newQuery {home : ℕ} (h : s.newQuery home = some s') : QuietMoves s s' := by
  simp only [newQuery, Option.bind_eq_bind, Option.bind_eq_some_iff, Option.pure_def,
    Option.some.injEq] at h
  obtain ⟨old, hold, rfl⟩ := h
  exact quiet_addQuery hold (Nat.le_succ _) rfl (Nat.le_refl _)

theorem quiet_newRangeQuery {home : ℕ} {date : DateRange} {label description : String}
    (h : s.newRangeQuery home date label description = some s') : QuietMoves s s' := by
  simp only [newRangeQuery, Option.bind_eq_bind, Option.bind_eq_some_iff,
    Option.pure_def, Option.some.injEq] at h
  obtain ⟨old, hold, rfl⟩ := h
  exact quiet_addQuery hold (Nat.le_succ _) rfl (Nat.le_refl _)

theorem quiet_copyQuery (h : s.copyQuery place = some s') : QuietMoves s s' := by
  simp only [copyQuery, Option.bind_eq_bind, Option.bind_eq_some_iff, Option.pure_def,
    Option.some.injEq] at h
  obtain ⟨held, hheld, rfl⟩ := h
  exact .single ⟨.copyQuery (List.mem_of_getElem? hheld), rfl⟩

theorem quiet_buildQuery {ε : Type} {home : ℕ}
    {build : ℕ → Except ε SearchQuery × ℕ} {outcome : Except ε Unit}
    (hbuild : SearchQuery.Builds build)
    (h : s.buildQuery home build = some (outcome, s')) : QuietMoves s s' := by
  simp only [buildQuery, Option.bind_eq_bind, Option.bind_eq_some_iff] at h
  obtain ⟨old, hold, h⟩ := h
  obtain ⟨hdrawn, hbuilt⟩ := hbuild old.generations
  split at h
  next q drawn hok =>
    cases h
    rw [hok] at hdrawn hbuilt
    obtain ⟨hcompiled, hgeneration⟩ := hbuilt q rfl
    exact quiet_addQuery hold hdrawn hcompiled hgeneration
  next problem drawn herror =>
    cases h
    rw [herror] at hdrawn
    refine quiet_setGenerations fun store hstore => ?_
    rw [hold] at hstore
    cases hstore
    exact hdrawn

/-- What a change of a query that does not fail comes down to. -/
theorem editQuery_eq_ok {change : QueryEdit}
    (h : s.editQuery place change = some (.ok s')) :
    ∃ held home q, s.queries[place]? = some held ∧ s.stores[held.home]? = some home ∧
      held.query.edit change (home.generations + 1) = .ok q ∧
      s' = (s.setQuery place q).setGenerations held.home (home.generations + 1) := by
  simp only [editQuery, Option.bind_eq_bind, Option.bind_eq_some_iff, Option.pure_def,
    Option.some.injEq] at h
  obtain ⟨held, hheld, home, hhome, h⟩ := h
  cases hedit : held.query.edit change (home.generations + 1) with
  | error invalid =>
      rw [hedit] at h
      contradiction
  | ok q =>
      rw [hedit] at h
      cases h
      exact ⟨held, home, q, hheld, hhome, hedit, rfl⟩

theorem quiet_editQuery {change : QueryEdit}
    (h : s.editQuery place change = some (.ok s')) : QuietMoves s s' := by
  obtain ⟨held, home, q, hheld, hhome, hedit, rfl⟩ := editQuery_eq_ok h
  obtain ⟨hgeneration, hcompiled⟩ := SearchQuery.edit_eq_ok hedit
  have hsame : s.SameRevisions (s.setGenerations held.home (home.generations + 1)) := by
    rw [setGenerations_eq hhome]
    exact revisions_set hhome rfl
  exact .single ⟨.editQuery hheld hhome hgeneration hcompiled, hsame⟩

/-! ## Questions -/

theorem looks_matchRecord {store record vocabulary : ℕ} {matched : Bool}
    (h : s.matchRecord place store record vocabulary = some (matched, s')) :
    s.Looks place store vocabulary s' := by
  simp only [matchRecord, Option.bind_eq_bind, Option.bind_eq_some_iff, Option.pure_def,
    Option.some.injEq, Prod.mk.injEq] at h
  obtain ⟨held, hheld, old, hold, e, he, known, hknown, -, rfl⟩ := h
  exact .intro hheld hold hknown (SearchQuery.visits_set he)

theorem looks_matchStore {store vocabulary : ℕ} {verdicts : List Bool}
    (h : s.matchStore place store vocabulary = some (verdicts, s')) :
    s.Looks place store vocabulary s' := by
  simp only [matchStore, Option.bind_eq_bind, Option.bind_eq_some_iff, Option.pure_def,
    Option.some.injEq, Prod.mk.injEq] at h
  obtain ⟨held, hheld, known, hknown, old, hold, -, rfl⟩ := h
  exact .intro hheld hold hknown
    (SearchQuery.visits_matchEach held.query known s.stamp old.entries)

theorem quiet_matchBare {vocabulary : ℕ} {record : Record} {matched : Bool}
    (h : s.matchBare place vocabulary record = some (matched, s')) : QuietMoves s s' := by
  simp only [matchBare, Option.bind_eq_bind, Option.bind_eq_some_iff, Option.pure_def,
    Option.some.injEq, Prod.mk.injEq] at h
  obtain ⟨held, hheld, known, hknown, -, rfl⟩ := h
  exact .single ⟨.askQuery hheld (List.mem_of_getElem? hknown)
    (SearchQuery.asked_matchBare held.query record known s.stamp), rfl⟩

/-- A search takes the values of the store that it goes through. -/
theorem looks_search_entries (hheld : s.queries[place]? = some held)
    (hold : s.stores[store]? = some old) :
    s.Looks place store store
      ((s.setAsked place (held.query.search old s.stamp).2.1).setStore store
        (held.query.search old s.stamp).2.2) := by
  have hlooks := Looks.intro hheld hold hold
    (SearchQuery.visits_searchEntries held.query old s.stamp old.entries)
  rwa [setEntries_eq (by exact hold)] at hlooks

theorem looks_search {found : List Record}
    (h : s.search place store = some (found, s')) : s.Looks place store store s' := by
  simp only [search, Option.bind_eq_bind, Option.bind_eq_some_iff, Option.pure_def,
    Option.some.injEq, Prod.mk.injEq] at h
  obtain ⟨held, hheld, old, hold, -, rfl⟩ := h
  exact looks_search_entries hheld hold

theorem looks_dateIndex {capacity : ℕ} {index : DateIndex}
    (h : s.dateIndex place store capacity = some (index, s')) :
    s.Looks place store store s' := by
  simp only [dateIndex, Option.bind_eq_bind, Option.bind_eq_some_iff, Option.pure_def,
    Option.some.injEq, Prod.mk.injEq] at h
  obtain ⟨held, hheld, old, hold, -, rfl⟩ := h
  exact looks_search_entries hheld hold

theorem quiet_countByTag {category value : String} {count : ℕ}
    (h : s.countByTag place category value = some (count, s')) : QuietMoves s s' := by
  simp only [countByTag, Option.bind_eq_bind, Option.bind_eq_some_iff, Option.pure_def,
    Option.some.injEq, Prod.mk.injEq] at h
  obtain ⟨old, hold, -, rfl⟩ := h
  have hvisits := SearchQuery.visits_searchEntries
    (SearchQuery.forTag (old.generations + 1) category value)
    { old with generations := old.generations + 2 } s.stamp old.entries
  refine .single ⟨@Move.visitStore s place _ _ old _ hold ?_
    (Nat.le_add_right old.generations 2) ?_, revisions_set hold rfl⟩
  · exact stamp_le_nextStamp _ _
  · rcases hvisits.compiled_or_unchanged with hcompiled | hsame
    · refine hvisits.leaves.imp fun e e' hleaves => hleaves.rewritten ⟨?_, Or.inr ?_⟩
      · simp only [RecordStore.countByTag, SearchQuery.search, SearchQuery.nextStamp,
          hcompiled]
        omega
      · exact Nat.le_refl _
    · simp only [RecordStore.countByTag, SearchQuery.search, hsame]
      exact Entry.rewritten_refl _ _

/-! ## Compiled queries -/

theorem quiet_compile (h : s.compile place store = some s') : QuietMoves s s' := by
  simp only [compile, Option.bind_eq_bind, Option.bind_eq_some_iff, Option.pure_def,
    Option.some.injEq] at h
  obtain ⟨held, hheld, old, hold, rfl⟩ := h
  exact .single ⟨.compile (List.mem_of_getElem? hheld) (List.mem_of_getElem? hold), rfl⟩

theorem quiet_keepCompiled (h : s.keepCompiled place store = some s') : QuietMoves s s' := by
  simp only [keepCompiled, Option.bind_eq_bind, Option.bind_eq_some_iff,
    Option.pure_def, Option.some.injEq] at h
  obtain ⟨held, hheld, old, hold, rfl⟩ := h
  have hask := Move.askQuery (q := (held.query.refresh old s.stamp).2) hheld
    (List.mem_of_getElem? hold) (Or.inr ⟨held.query.evaluations, rfl⟩)
  exact .trans (.single ⟨hask, rfl⟩) (.single ⟨.keepCompiled (keeps_setAsked hheld rfl), rfl⟩)

theorem leaves_verdictPairs (c : CompiledQuery) (entries : List Entry) :
    List.Forall₂ c.Leaves entries (verdictPairs c entries).2 := by
  induction entries with
  | nil => exact List.Forall₂.nil
  | cons e entries ih => exact List.Forall₂.cons (c.leaves_matchEntry e) ih

/-- A compiled query that is kept goes through the entries of a store. -/
inductive LooksKept (s : Session) (place store : ℕ) : Session → Prop
  | intro {c : CompiledQuery} {old : RecordStore} {entries : List Entry}
      (hc : s.snapshots[place]? = some c)
      (hold : s.stores[store]? = some old)
      (hleaves : List.Forall₂ c.Leaves old.entries entries) :
      LooksKept s place store (s.setEntries store entries)

theorem LooksKept.quiet (hs : s.Dated) (h : s.LooksKept place store s') : QuietMoves s s' := by
  obtain @⟨c, old, entries, hc, hold, hleaves⟩ := h
  have hkept : s.Keeps c := Or.inl (List.mem_of_getElem? hc)
  refine quiet_setEntries hold (Nat.le_refl _) ?_
  exact hleaves.imp fun e e' h => h.rewritten ⟨(hs.compiled_lt c hkept).2, Or.inl hkept⟩

theorem looks_matchSnapshot {verdicts : List (Bool × Bool)}
    (h : s.matchSnapshot place store = some (verdicts, s')) : s.LooksKept place store s' := by
  simp only [matchSnapshot, Option.bind_eq_bind, Option.bind_eq_some_iff,
    Option.pure_def, Option.some.injEq, Prod.mk.injEq] at h
  obtain ⟨c, hc, old, hold, -, rfl⟩ := h
  exact .intro hc hold (leaves_verdictPairs c old.entries)

theorem looks_matchSnapshotRecord {record : ℕ} {matched : Bool}
    (h : s.matchSnapshotRecord place store record = some (matched, s')) :
    s.LooksKept place store s' := by
  simp only [matchSnapshotRecord, Option.bind_eq_bind, Option.bind_eq_some_iff,
    Option.pure_def, Option.some.injEq, Prod.mk.injEq] at h
  obtain ⟨c, hc, old, hold, e, he, -, rfl⟩ := h
  exact .intro hc hold (forall₂_set (CompiledQuery.Leaves.refl c) he (c.leaves_matchEntry e))

/-! ## Classification -/

/-- The compiled queries of a classification bear new stamps. -/
theorem mayWrite_of_asks {job : Classifier} {generation bound stamp : ℕ}
    {c : CompiledQuery} (hstamp : s.stamp ≤ stamp) (hbound : stamp + 1 < bound)
    (hc : (job.setup q vocabulary generation stamp).Asks c) : s.MayWrite bound c := by
  rcases hc with rfl | rfl
  · exact ⟨Nat.lt_of_succ_lt hbound, Or.inr hstamp⟩
  · exact ⟨hbound, Or.inr (Nat.le_succ_of_le hstamp)⟩

/-- A classification writes to caches, draws stamps, and its query a generation. -/
theorem quiet_draw {home count drawn : ℕ} {known : RecordStore}
    (hold : s.stores[store]? = some old)
    (hentries : List.Forall₂ (Entry.Rewritten (s.MayWrite (s.stamp + count))) old.entries
      entries)
    (hhome : s.stores[home]? = some known) (hdrawn : known.generations ≤ drawn) :
    QuietMoves s (((s.setEntries store entries).setGenerations home drawn).draw count) := by
  have hset := quiet_setEntries hold (Nat.le_add_right s.stamp count) hentries
  refine .trans hset (quiet_setGenerations fun store' hstore' => ?_)
  rw [show ({ s.setEntries store entries with stamp := s.stamp + count } : Session).stores =
    s.stores.modify store ({ · with entries }) from rfl, List.getElem?_modify, hhome] at hstore'
  split at hstore'
  · cases hstore'
    exact hdrawn
  · cases hstore'
    exact hdrawn

theorem quiet_classify {known : ℕ} {places : Option Places} {job : Classifier}
    {buckets : Buckets}
    (h : s.classify place store job known places = some (buckets, s')) : QuietMoves s s' := by
  simp only [classify, Option.bind_eq_bind, Option.bind_eq_some_iff, Option.pure_def,
    Option.some.injEq, Prod.mk.injEq] at h
  obtain ⟨held, hheld, old, hold, vocabulary, hvocabulary, home, hhome, -, rfl⟩ := h
  refine quiet_draw hold ?_ hhome (Nat.le_succ _)
  exact (job.rewritten_run _ _ _ _ _ _).imp fun e e' he =>
    he.mono fun c hc => mayWrite_of_asks (Nat.le_refl _) (by omega) hc

theorem quiet_overview {category : String} {overview : Overview}
    (h : s.overview place store category = some (overview, s')) : QuietMoves s s' := by
  simp only [Session.overview, Option.bind_eq_bind, Option.bind_eq_some_iff,
    Option.pure_def, Option.some.injEq, Prod.mk.injEq] at h
  obtain ⟨held, hheld, old, hold, home, hhome, -, rfl⟩ := h
  refine quiet_draw hold ?_ hhome (Nat.le_add_right _ 2)
  exact Overview.rewritten_ofStore _ _ _ _ _
    (fun c hc => mayWrite_of_asks (Nat.le_refl _) (by omega) hc)
    (fun c hc => mayWrite_of_asks (Nat.le_add_right _ 2) (by omega) hc)

/-! ## Runs -/

/-- What holds of a session and of what is made of it holds after the action. -/
theorem getD_cases {P : Session → Prop} {done : Option Session} (hs : P s)
    (h : ∀ s', done = some s' → P s') : P (done.getD s) := by
  cases done with
  | none => exact hs
  | some s' => exact h s' rfl

theorem afterAnswer_cases {P : Session → Prop} {α : Type} {done : Option (α × Session)}
    (hs : P s) (h : ∀ answer s', done = some (answer, s') → P s') : P (s.afterAnswer done) := by
  cases done with
  | none => exact hs
  | some done => exact h done.1 done.2 rfl

theorem afterEdit_cases {P : Session → Prop} {done : Option (Except Pattern.Invalid Session)}
    (hs : P s) (h : ∀ s', done = some (.ok s') → P s') : P (s.afterEdit done) := by
  cases done with
  | none => exact hs
  | some done =>
      cases done with
      | error invalid => exact hs
      | ok s' => exact h s' rfl

/-- The action changes what is in a store, or opens one. -/
def Action.ChangesStores : Action → Prop
  | .openStore _ => True
  | .editStore _ _ => True
  | .exchange _ _ _ _ => True
  | _ => False

/-- Any other action comes down to quiet moves. -/
theorem quiet_perform (hs : s.Dated) {a : Action} (ha : ¬a.ChangesStores) :
    QuietMoves s (s.perform a) := by
  cases a with
  | openStore | editStore | exchange => exact absurd trivial ha
  | clearCache store record => exact getD_cases .refl fun _ => quiet_clearCache
  | newQuery home => exact getD_cases .refl fun _ => quiet_newQuery
  | newRangeQuery home date label description =>
      exact getD_cases .refl fun _ => quiet_newRangeQuery
  | copyQuery query => exact getD_cases .refl fun _ => quiet_copyQuery
  | request home request =>
      exact afterAnswer_cases .refl fun _ _ => quiet_buildQuery request.builds_build
  | restoreLock home saved =>
      exact afterAnswer_cases .refl fun _ _ => quiet_buildQuery (SearchQuery.builds_ofLock saved)
  | editQuery query change => exact afterEdit_cases .refl fun _ => quiet_editQuery
  | matchRecord query store record vocabulary =>
      exact afterAnswer_cases .refl fun _ _ h => (looks_matchRecord h).quiet
  | matchStore query store vocabulary =>
      exact afterAnswer_cases .refl fun _ _ h => (looks_matchStore h).quiet
  | matchBare query vocabulary record =>
      exact afterAnswer_cases .refl fun _ _ => quiet_matchBare
  | search query store => exact afterAnswer_cases .refl fun _ _ h => (looks_search h).quiet
  | countByTag store category value =>
      exact afterAnswer_cases .refl fun _ _ => quiet_countByTag
  | dateIndex query store capacity =>
      exact afterAnswer_cases .refl fun _ _ h => (looks_dateIndex h).quiet
  | compile query store => exact getD_cases .refl fun _ => quiet_compile
  | keepCompiled query store => exact getD_cases .refl fun _ => quiet_keepCompiled
  | matchSnapshot snapshot store =>
      exact afterAnswer_cases .refl fun _ _ h => (looks_matchSnapshot h).quiet hs
  | matchSnapshotRecord snapshot store record =>
      exact afterAnswer_cases .refl fun _ _ h => (looks_matchSnapshotRecord h).quiet hs
  | classify query store vocabulary places job =>
      exact afterAnswer_cases .refl fun _ _ => quiet_classify
  | overview query store category => exact afterAnswer_cases .refl fun _ _ => quiet_overview

/-- Every action comes down to moves. -/
theorem moves_perform (hs : s.Dated) (a : Action) : Moves s (s.perform a) := by
  cases a with
  | openStore fixture => exact .single (.openStore fixture)
  | editStore store change => exact getD_cases .refl fun _ => moves_editStore hs
  | exchange store record other otherRecord =>
      exact getD_cases .refl fun _ => moves_exchange hs
  | _ => exact QuietMoves.moves (quiet_perform hs id)

theorem moves_run (hs : s.Dated) (actions : List Action) : Moves s (s.run actions) := by
  induction actions generalizing s with
  | nil => exact .refl
  | cons a actions ih =>
      have hperform := moves_perform hs a
      exact .trans hperform (ih (hs.moves hperform))

/-- What holds at the start and after every move holds after every run. -/
theorem run_induction {P : Session → Prop} (hstart : P start)
    (hmove : ∀ s s', s.Dated → P s → Move s s' → P s') (actions : List Action) :
    P (start.run actions) := by
  have hrun : ∀ s', Moves start s' → s'.Dated ∧ P s' := by
    intro s' hmoves
    induction hmoves with
    | refl => exact ⟨dated_start, hstart⟩
    | tail _ hstep ih => exact ⟨ih.1.move hstep, hmove _ _ ih.1 ih.2 hstep⟩
  exact (hrun _ (moves_run dated_start actions)).2

theorem dated_run (actions : List Action) : (start.run actions).Dated :=
  run_induction dated_start (fun _ _ hs _ hmove => hs.move hmove) actions

/-- In every store, what is kept of the groups follows from the direct members. -/
def Grouped (s : Session) : Prop :=
  ∀ store ∈ s.stores, store.hierarchy.Sound

theorem Grouped.move (hs : s.Grouped) (h : Move s s') : s'.Grouped := by
  intro new hnew
  rcases h.stores hnew with ⟨old, hold, hvisited⟩ | hrenewed
  · rw [hvisited.hierarchy_eq]
    exact hs old hold
  · rcases hrenewed.hierarchy with ⟨groups, stamp, heq⟩ | ⟨old, hold, first, changes, heq⟩
    · rw [heq]
      exact Hierarchy.sound_ofGroups groups stamp
    · rw [heq]
      exact (hs old hold).editAll changes first

theorem grouped_run (actions : List Action) : (start.run actions).Grouped := by
  have hstart : start.Grouped := by simp [Grouped, start]
  exact run_induction hstart (fun _ _ _ hs hmove => hs.move hmove) actions

end TagQuery.Session
