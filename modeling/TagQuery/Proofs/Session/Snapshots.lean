import TagQuery.Proofs.Matcher.Evaluation
import TagQuery.Proofs.Session.Coherence
import TagQuery.Proofs.Session.Entries

/-!
# Compiled queries that are kept

A compiled query that is kept for itself is asked about records whatever was done to
them since.  No revision is compared for it, so that its answers rest on the caches
alone: they are right as long as every change of a record empties the cache or is of no
matter for the answer.

The invariant is that no cache contradicts the compiled query once it is kept.  An
action that compiles it leaves all stores at older revisions, and then the invariant is
one of coherent sessions; any other action either looks at records only, or changes
stores and keeps nothing new.
-/

namespace TagQuery

/-! ## Changes of records -/

/-- The change empties the cache of a record, or the answer does not depend on it. -/
def RecordEdit.SeenBy (c : CompiledQuery) (change : RecordEdit) : Prop :=
  change.clearsCache = true ∨ ∀ r, c.evaluate (change.apply r) = c.evaluate r

/-- Whether a record is locked is of no matter for the answer. -/
theorem RecordEdit.seenBy_lock (c : CompiledQuery) (locked : Bool) :
    SeenBy c (.overwrite ({ · with locked })) := by
  refine Or.inr fun r => ?_
  have htags : ((overwrite ({ · with locked })).apply r).tags = r.tags := rfl
  rw [CompiledQuery.evaluate, Matcher.evalAll_congr htags]
  rfl

theorem CompiledQuery.agrees_fresh (c : CompiledQuery) (r : Record) : c.Agrees (.fresh r) := by
  intro known hknown
  rw [Entry.fresh, MatchCache.get?_empty] at hknown
  contradiction

theorem CompiledQuery.stableUnder_agrees (c : CompiledQuery) :
    Entry.StableUnder (RecordEdit.SeenBy c) c.Agrees := by
  intro e change hseen hagrees known hknown
  rcases hseen with hclears | hsame
  · rw [Entry.edit, if_pos hclears, MatchCache.get?_empty] at hknown
    contradiction
  · rw [Entry.edit, hsame]
    rw [Entry.edit] at hknown
    split at hknown
    · rw [MatchCache.get?_empty] at hknown
      contradiction
    · exact hagrees known hknown

namespace Session

variable {s s' : Session} {place source record : ℕ} {c : CompiledQuery} {a : Action}

/-- All that is done to records is seen by a compiled query. -/
def Action.SeenBy (c : CompiledQuery) : Action → Prop
  | .editStore _ change => change.Only (RecordEdit.SeenBy c)
  | _ => True

/-- No cache of any record contradicts a compiled query. -/
def AgreesWith (s : Session) (c : CompiledQuery) : Prop :=
  ∀ store ∈ s.stores, ∀ e ∈ store.entries, c.Agrees e

/-! ## Stores that are changed -/

/-- Changes of stores compile nothing and keep nothing. -/
theorem keeps_of_changesStores (ha : a.ChangesStores) (hc : (s.perform a).Keeps c) :
    s.Keeps c := by
  obtain ⟨hqueries, hsnapshots⟩ := perform_of_changesStores (s := s) ha
  unfold Keeps at hc
  rwa [hqueries, hsnapshots] at hc

theorem AgreesWith.of_changesStores (ha : a.ChangesStores) (hseen : a.SeenBy c)
    (h : s.AgreesWith c) : (s.perform a).AgreesWith c := by
  have hentries : s.ForallEntries c.Agrees := h
  cases a with
  | openStore fixture => exact hentries.openStore c.agrees_fresh fixture
  | editStore store change =>
      exact getD_cases hentries fun _ =>
        hentries.editStore c.agrees_fresh c.stableUnder_agrees hseen
  | exchange store record other otherRecord =>
      exact getD_cases hentries fun _ => hentries.exchange
  | _ => exact absurd ha id

/-! ## Actions and runs -/

/-- Once a compiled query is kept, no cache contradicts it, and an action whose changes
it sees does not alter that. -/
theorem AgreesWith.perform (hdated : s.Dated) (hs : s.Coherent)
    (hstamp : (s.perform a).stamp < 2 ^ 63) (ha : a.SeenBy c)
    (h : s.Keeps c → s.AgreesWith c) (hc : (s.perform a).Keeps c) :
    (s.perform a).AgreesWith c := by
  have hmoves := moves_perform hdated a
  by_cases hchanges : a.ChangesStores
  · exact .of_changesStores hchanges ha (h (keeps_of_changesStores hchanges hc))
  · -- No store gets to a new revision.
    have holder : ∀ store ∈ (s.perform a).stores, store.revision < s.stamp := by
      intro store hstore
      have hmem : store.revision ∈ s.stores.map (·.revision) := by
        rw [← QuietMoves.sameRevisions (quiet_perform hdated hchanges)]
        exact List.mem_map_of_mem hstore
      obtain ⟨old, hold, heq⟩ := List.mem_map.mp hmem
      rw [← heq]
      exact hdated.revision_lt old hold
    intro new hnew
    by_cases hkept : s.Keeps c
    · rcases hmoves.stores hnew with ⟨old, hold, hvisited⟩ | hrevision
      · exact hvisited.agrees hdated hs.distinct hstamp hmoves.stamp_le hkept
          (h hkept old hold)
      · have hlt := holder new hnew
        omega
    · have hcompiled := (hmoves.keeps hc).resolve_left hkept
      have hlt := holder new hnew
      exact (hs.moves hdated hmoves).truthful hstamp c hc new hnew (by omega)

theorem AgreesWith.run (hdated : s.Dated) (hs : s.Coherent) {actions : List Action}
    (hstamp : (s.run actions).stamp < 2 ^ 63) (hactions : ∀ a ∈ actions, a.SeenBy c)
    (h : s.Keeps c → s.AgreesWith c) (hc : (s.run actions).Keeps c) :
    (s.run actions).AgreesWith c := by
  induction actions generalizing s with
  | nil => exact h hc
  | cons a actions ih =>
      rw [List.forall_mem_cons] at hactions
      have hmoves := moves_perform hdated a
      have hdated' := hdated.moves hmoves
      have hlater := (moves_run hdated' actions).stamp_le
      exact ih hdated' (hs.moves hdated hmoves) hstamp hactions.2
        (AgreesWith.perform hdated hs (Nat.lt_of_le_of_lt hlater hstamp) hactions.1 h) hc

/-! ## Answers -/

theorem verdictPairs_fst {entries : List Entry} (h : ∀ e ∈ entries, c.Agrees e) :
    (verdictPairs c entries).1 =
      entries.map fun e => (c.evaluate e.record, c.evaluate e.record) := by
  induction entries with
  | nil => rfl
  | cons e entries ih =>
      rw [List.forall_mem_cons] at h
      simp [verdictPairs, CompiledQuery.matchEntry_fst h.1, ih h.2]

/-- A compiled query that is kept answers about every record what it works out anew, if
since the time before it was compiled all changes of records were such as it sees. -/
theorem snapshot_answers_eq_evaluate (before after : List Action)
    (hstamp : (start.run (before ++ after)).stamp < 2 ^ 63)
    (hc : (start.run (before ++ after)).snapshots[place]? = some c)
    (hnew : ¬(start.run before).Keeps c) (hseen : ∀ a ∈ after, a.SeenBy c)
    (source record : ℕ) :
    ((start.run (before ++ after)).matchSnapshot place source).map (·.1) =
        ((start.run (before ++ after)).stores[source]?).map (fun store =>
          store.records.map fun r => (c.evaluate r, c.evaluate r)) ∧
      ((start.run (before ++ after)).matchSnapshotRecord place source record).map (·.1) =
        ((start.run (before ++ after)).stores[source]?).bind fun store =>
          store.records[record]?.map c.evaluate := by
  have hagrees : (start.run (before ++ after)).AgreesWith c := by
    have hsplit : start.run (before ++ after) = (start.run before).run after :=
      List.foldl_append
    rw [hsplit] at hstamp hc ⊢
    exact AgreesWith.run (dated_run before) (coherent_run before) hstamp hseen
      (fun hkept => absurd hkept hnew) (Or.inl (List.mem_of_getElem? hc))
  generalize start.run (before ++ after) = s at hc hagrees ⊢
  unfold matchSnapshot matchSnapshotRecord
  cases hstore : s.stores[source]? with
  | none => simp [hc]
  | some store =>
      have hentries := hagrees store (List.mem_of_getElem? hstore)
      refine ⟨?_, ?_⟩
      · simp [hc, verdictPairs_fst hentries, RecordStore.records]
      · cases he : store.entries[record]? with
        | none => simp [hc, he, RecordStore.records]
        | some e =>
            have hmatch := CompiledQuery.matchEntry_fst
              (hentries e (List.mem_of_getElem? he))
            simp [hc, he, hmatch, RecordStore.records]

/-- A tag is added and the record is locked after it was asked about, of which the
answer depends on the first only. -/
theorem snapshot_answers_eq_evaluate_of_tag :
    let before := [Action.openStore ⟨[{ fileName := "a.jpg" }], ∅⟩, .newQuery 0,
      .editQuery 0 (.addAnd "People" "Anne")]
    let after := [Action.compile 0 0, .matchSnapshot 0 0,
      .editStore 0 (.editRecord 0 (.addTag "People" "Anne")), .matchSnapshot 0 0,
      .editStore 0 (.editRecord 0 (.overwrite ({ · with locked := true })))]
    (start.run (before ++ after)).stamp < 2 ^ 63 ∧
      ((start.run (before ++ after)).matchSnapshot 0 0).map (·.1) = some [(true, true)] := by
  intro before after
  have hstamp : (start.run (before ++ after)).stamp < 2 ^ 63 := by decide +kernel
  obtain ⟨c, hc⟩ : ∃ c, (start.run (before ++ after)).snapshots[0]? = some c := ⟨_, rfl⟩
  have hnew : ¬(start.run before).Keeps c := by
    rintro (hsnapshot | ⟨held, hheld, hcompiled⟩)
    · exact absurd hsnapshot List.not_mem_nil
    · cases List.mem_singleton.mp hheld
      contradiction
  have hseen : ∀ a ∈ after, a.SeenBy c := by
    have htag : RecordEdit.SeenBy c (.addTag "People" "Anne") := Or.inl rfl
    have hlocked := RecordEdit.seenBy_lock c true
    simp only [after, List.forall_mem_cons, List.not_mem_nil, IsEmpty.forall_iff,
      implies_true, Action.SeenBy, StoreEdit.editRecord, StoreEdit.Only, EntryEdit.Only]
    exact ⟨trivial, trivial, ⟨htag, trivial⟩, trivial, ⟨hlocked, trivial⟩, trivial⟩
  have hanswers := (snapshot_answers_eq_evaluate before after hstamp hc hnew hseen 0 0).1
  refine ⟨hstamp, hanswers.trans ?_⟩
  cases hc
  decide +kernel

/-- A rating is written after the record was asked about, and the answer stays. -/
theorem snapshot_answer_stale_of_overwrite :
    ((start.run [.openStore ⟨[{ fileName := "a.jpg" }], ∅⟩, .newQuery 0,
      .editQuery 0 (.rating (some 3)), .compile 0 0, .matchSnapshot 0 0,
      .editStore 0 (.editRecord 0 (.overwrite ({ · with rating := 3 })))]).matchSnapshot
        0 0).map (·.1) = some [(false, true)] := by
  decide +kernel

end Session

end TagQuery
