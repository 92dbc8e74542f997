import TagQuery.Proofs.Matcher.Wildcard
import TagQuery.Proofs.Query.Constraints
import TagQuery.Proofs.Session.Answers

/-!
# Free text in answers

A query with free text is compiled to the values of the store that the text matches, and
records are looked up among these.  In every session this comes to the same as matching
the text against the label, the file name, the description and the tags of each record:
what was compiled is not used any more after an edit, and when it is made anew the store
knows every tag of its records.

A query that is given free text has no answers remembered, but may be told to do so
again.  Only then does it matter that stamps are not used up.
-/

namespace TagQuery

variable {q : SearchQuery} {store : RecordStore} {r : Record} {pattern : Pattern}

/-- A pattern is found in what is written about a record or in one of its tags. -/
def Record.Mentions (r : Record) (pattern : Pattern) : Prop :=
  pattern.occursIn r.label = true ∨ pattern.occursIn r.fileName = true ∨
    pattern.occursIn r.description = true ∨
    ∃ category, ∃ value ∈ r.tagsOf category, pattern.occursIn value = true

/-- For the records of a store, looking up tags among the values that match is matching the
tags. -/
theorem Filters.accept_freeform_iff {f : Filters} (hpattern : f.freeform = some pattern)
    (hr : r ∈ store.records) :
    f.accept store r = true ↔
      ({ f with freeform := none } : Filters).accept store r = true ∧ r.Mentions pattern := by
  have hwildcard : (f.freeform.map (Wildcard.ofPattern · store)).any (·.accepts r) = true ↔
      ∃ category, ∃ value ∈ r.tagsOf category, pattern.occursIn value = true := by
    rw [hpattern]
    exact Wildcard.accepts_ofPattern_iff hr
  have hhits : f.freeformHits r = true ↔ pattern.occursIn r.label = true ∨
      pattern.occursIn r.fileName = true ∨ pattern.occursIn r.description = true := by
    rw [freeformHits, hpattern]
    simp [or_assoc]
  have hsome : f.freeform.isNone = false := by
    rw [hpattern]
    rfl
  have hbeside : ({ f with freeform := none } : Filters).accept store r =
      (f.acceptsBefore r && f.acceptsAfter r) :=
    Bool.and_true _
  rw [hbeside, accept, Bool.and_eq_true, hsome, Bool.false_or, Bool.or_eq_true, hhits,
    hwildcard, Record.Mentions]
  simp only [or_assoc]

namespace SearchQuery

/-- The query with all that it asks beside its free text, as after the empty free text. -/
def withoutFreeform (q : SearchQuery) : SearchQuery :=
  { q with filters.freeform := none }

theorem evaluate_freeform_iff (hpattern : q.filters.freeform = some pattern)
    (hr : r ∈ store.records) (stamp : ℕ) :
    (q.compile store stamp).evaluate r = true ↔
      (q.withoutFreeform.compile store stamp).evaluate r = true ∧ r.Mentions pattern := by
  rw [evaluate_compile_iff, evaluate_compile_iff, Filters.accept_freeform_iff hpattern hr,
    and_right_comm]
  rfl

/-- Without remembered answers the one that is given is worked out. -/
theorem matchEntry_fst_of_uncached {stamp : ℕ} {e : Entry}
    (h : (q.refresh store stamp).1.cacheable = false) :
    (q.matchEntry e store stamp).1 =
      (q.isNull || (q.refresh store stamp).1.evaluate e.record) := by
  have hcached : (q.refresh store stamp).1.cached? e.cache = none := by
    rw [CompiledQuery.cached?, h, if_neg Bool.false_ne_true]
  unfold matchEntry
  split
  next hnull => simp [hnull]
  next hnull => simp [hnull, hcached]

end SearchQuery

namespace Session

variable {s : Session} {place source record : ℕ} {held : HeldQuery} {e : Entry}

theorem Coherent.matchRecord_eq_of_uncached (hs : s.Coherent)
    (hheld : s.queries[place]? = some held) (hstore : s.stores[source]? = some store)
    (he : store.entries[record]? = some e) (hcacheable : held.query.cacheable = false)
    (stamp : ℕ) :
    (s.matchRecord place source record source).map (·.1) =
      some ((held.query.compile store stamp).evaluate e.record) := by
  have hmem := List.mem_of_getElem? hheld
  have hknown := List.mem_of_getElem? hstore
  have huncached : (held.query.refresh store s.stamp).1.cacheable = false := by
    obtain ⟨stamp', hcompile⟩ := hs.refresh_eq_compile hmem hknown
    rw [hcompile]
    exact hcacheable
  have hmatch := SearchQuery.matchEntry_fst_of_uncached (e := e) huncached
  rw [hs.verdict_eq hmem hknown stamp] at hmatch
  simp [matchRecord, hheld, hstore, he, hmatch]

/-- After any run, a query with free text accepts the records of a store that it accepts
without and that mention the text, both if it is compiled now and if it answers from what it
was compiled to before. -/
theorem freeform_accepts_iff (actions : List Action)
    (hheld : (start.run actions).queries[place]? = some held)
    (hstore : (start.run actions).stores[source]? = some store)
    (he : store.entries[record]? = some e)
    (hpattern : held.query.filters.freeform = some pattern) (stamp : ℕ) :
    let accepted := (held.query.withoutFreeform.compile store stamp).evaluate e.record = true ∧
      e.record.Mentions pattern
    ((held.query.compile store stamp).evaluate e.record = true ↔ accepted) ∧
      (∃ answer, ((start.run actions).matchBare place source e.record).map (·.1) =
        some answer ∧ (answer = true ↔ accepted)) ∧
      ((held.query.cacheable = true → (start.run actions).stamp < 2 ^ 63) →
        ∃ answer, ((start.run actions).matchRecord place source record source).map (·.1) =
          some answer ∧ (answer = true ↔ accepted)) := by
  intro accepted
  have hs := coherent_run actions
  have hr : e.record ∈ store.records :=
    List.mem_map_of_mem (List.mem_of_getElem? he)
  have hevaluate := SearchQuery.evaluate_freeform_iff hpattern hr stamp
  refine ⟨hevaluate, ⟨_, hs.matchBare_eq hheld hstore stamp e.record, hevaluate⟩, ?_⟩
  intro hstamp
  refine ⟨_, ?_, hevaluate⟩
  cases hcacheable : held.query.cacheable with
  | true => exact hs.matchRecord_eq (dated_run actions) (hstamp hcacheable) hheld hstore he stamp
  | false => exact hs.matchRecord_eq_of_uncached hheld hstore he hcacheable stamp

/-- A record is rejected, and accepted after it got a tag that the free text matches. -/
theorem freeform_accepts_iff_of_added_tag :
    let asked := [Action.openStore ⟨[{ fileName := "a.jpg" }, { fileName := "b.jpg" }], ∅⟩,
      .newQuery 0, .editQuery 0 (.freeform "(?-i)Ann?e"), .matchRecord 0 0 1 0]
    let actions := asked ++ [.editStore 0 (.editRecord 1 (.addTag "People" "Anne"))]
    ((start.run asked).matchRecord 0 0 1 0).map (·.1) = some false ∧
      (∃ held store e pattern, (start.run actions).queries[0]? = some held ∧
        (start.run actions).stores[0]? = some store ∧ store.entries[1]? = some e ∧
        held.query.filters.freeform = some pattern ∧ held.query.cacheable = false) ∧
      ((start.run actions).matchRecord 0 0 1 0).map (·.1) = some true := by
  intro asked actions
  have hrun : (start.run actions).queries[0]?.any (fun held =>
      (start.run actions).stores[0]?.any fun store => store.entries[1]?.any fun e =>
        held.query.filters.freeform.any fun pattern => !held.query.cacheable &&
          ((held.query.withoutFreeform.compile store 9).evaluate e.record &&
            (e.record.hasTag "People" "Anne" && pattern.occursIn "Anne"))) = true := by
    decide +kernel
  simp only [Option.any_eq_true, Bool.and_eq_true, Bool.not_eq_true', Record.hasTag_iff] at hrun
  obtain ⟨held, hheld, store, hstore, e, he, pattern, hpattern, hcacheable, hbeside, htag,
    hmatch⟩ := hrun
  have hmentions : e.record.Mentions pattern :=
    Or.inr (Or.inr (Or.inr ⟨"People", "Anne", htag, hmatch⟩))
  have hstamp : held.query.cacheable = true → (start.run actions).stamp < 2 ^ 63 :=
    fun hcached => Bool.noConfusion (hcached.symm.trans hcacheable)
  obtain ⟨-, -, hanswer⟩ := freeform_accepts_iff actions hheld hstore he hpattern 9
  obtain ⟨answer, hmatched, hiff⟩ := hanswer hstamp
  refine ⟨by decide +kernel, ⟨held, store, e, pattern, hheld, hstore, he, hpattern, hcacheable⟩,
    ?_⟩
  rw [hmatched, hiff.mpr ⟨hbeside, hmentions⟩]

end Session

end TagQuery
