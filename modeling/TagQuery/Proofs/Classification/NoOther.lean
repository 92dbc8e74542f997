import TagQuery.Proofs.Classification.Counts
import TagQuery.Proofs.Query.Narrowing

/-!
# Records with no other value

The bucket of the marker counts the matched records that a second query accepts: the
same query with the marker joined to the text of the category.  Where that text is one
alternative without a negated marker, the joined marker asks for the values of the terms
and no others.  Where there are several alternatives, the marker is part of the last
one only, and the bucket also counts what the earlier ones accept.
-/

namespace TagQuery

/-- All that a record has in a category is among some values. -/
def Record.onlyHas (r : Record) (category : String) (values : List String) : Bool :=
  (r.tagsOf category).toList.all (values.contains ·)

theorem Record.onlyHas_iff {r : Record} {category : String} {values : List String} :
    r.onlyHas category values = true ↔ ∀ tag ∈ r.tagsOf category, tag ∈ values := by
  simp only [onlyHas, List.all_eq_true, Std.ExtTreeSet.mem_toList, List.contains_iff_mem]

/-! ## The joined marker -/

namespace MatchText

variable {groups : Hierarchy} {category : String} {r : Record} {terms : List Term}

/-- Beside terms that hold, the marker asks for their values and no others. -/
theorem exactly_iff_of_holds (h : ∀ t ∈ terms, t.Holds groups category r) :
    Exactly groups category r terms ↔
      ∀ tag ∈ r.tagsOf category, ∃ t ∈ terms, t.value = tag := by
  unfold Exactly
  split
  next hnil =>
    subst hnil
    simp
  next => exact and_iff_right h

/-- One more marker asks for no other values than those of the terms. -/
theorem branchAccepts_concat_marker
    (hplain : ∀ t ∈ terms, t.value = noneMarker → t.negated = false) :
    BranchAccepts groups category r (terms ++ [⟨noneMarker, false⟩]) ↔
      Exactly groups category r (terms.filter (·.value ≠ noneMarker)) := by
  have hall : ∀ t ∈ terms ++ [⟨noneMarker, false⟩], t.value = noneMarker →
      t.negated = false := by
    intro t ht
    rcases List.mem_append.mp ht with ht | ht
    · exact hplain t ht
    · rw [List.mem_singleton.mp ht]
      exact fun _ => rfl
  rw [branchAccepts_of_marker (by simp [List.filter_append]) hall, List.filter_append]
  simp

/-- Where an alternative accepts a record without tags of the marker's name, it does so
with one more marker exactly if the record has no values but those of the terms. -/
theorem BranchAccepts.marker_iff (h : BranchAccepts groups category r terms)
    (hplain : ∀ t ∈ terms, t.value = noneMarker → t.negated = false)
    (htag : noneMarker ∉ r.tagsOf category) :
    BranchAccepts groups category r (terms ++ [⟨noneMarker, false⟩]) ↔
      r.onlyHas category (terms.map (·.value)) = true := by
  rw [branchAccepts_concat_marker hplain, exactly_iff_of_holds (h.holds hplain),
    Record.onlyHas_iff]
  refine forall₂_congr fun tag hmem => ?_
  rw [List.mem_map]
  constructor
  · rintro ⟨t, ht, hvalue⟩
    exact ⟨t, (List.mem_filter.mp ht).1, hvalue⟩
  · rintro ⟨t, ht, hvalue⟩
    have hother : t.value ≠ noneMarker := by
      rw [hvalue]
      rintro rfl
      exact htag hmem
    exact ⟨t, List.mem_filter.mpr ⟨ht, by simpa using hother⟩, hvalue⟩

end MatchText

/-! ## The query for no other values -/

namespace Classifier

variable {job : Classifier} {q : SearchQuery}

theorem parse_noOtherText (h : q.Joins job.category) :
    MatchText.parse (job.noOtherText q) =
      [q.termsOf job.category ++ [⟨noneMarker, false⟩]] := by
  cases htext : q.texts[job.category]? with
  | none =>
      rw [noOtherText, htext, SearchQuery.termsOf_of_none htext]
      decide +kernel
  | some text =>
      rw [noOtherText, htext, SearchQuery.termsOf_of_some htext]
      dsimp only
      rw [MatchText.parse, SearchQuery.toList_join]
      exact (h text htext).parseChars_join MatchText.isTerm_noneMarker

/-- Among the records that a query accepts, the query for no other values accepts those
that have no values but those of the terms. -/
theorem evaluate_noOtherQuery (h : q.Joins job.category)
    (hplain : ∀ t ∈ q.termsOf job.category, t.value = noneMarker → t.negated = false)
    {store : RecordStore} {stamp : ℕ} {r : Record}
    (haccepts : (q.compile store stamp).evaluate r = true)
    (htag : noneMarker ∉ r.tagsOf job.category) (generation stamp' : ℕ) :
    ((job.noOtherQuery q generation).compile store stamp').evaluate r =
      r.onlyHas job.category ((q.termsOf job.category).map (·.value)) := by
  have hparse := parse_noOtherText h
  have hblank : Text.isBlankText (job.noOtherText q) = false := by
    rw [Bool.eq_false_iff]
    intro hblank
    rw [MatchText.parse_of_isBlankText hblank] at hparse
    contradiction
  have htexts : (job.noOtherQuery q generation).texts =
      q.texts.insert job.category (job.noOtherText q) := by
    rw [noOtherQuery, SearchQuery.setText, hblank, if_neg Bool.false_ne_true]
  obtain ⟨hbeside, hbranch⟩ := (h.evaluate_iff store stamp r).mp haccepts
  have hfilters : (job.noOtherQuery q generation).filters = q.filters := rfl
  rw [Bool.eq_iff_iff, SearchQuery.evaluate_insert job.category _ store stamp' r hfilters
    htexts, MatchText.accepts_of_parse_eq hparse, hbranch.marker_iff hplain htag]
  exact and_iff_right hbeside

/-! ## The bucket of the marker -/

/-- Where the text of the category is one alternative without a negated marker, the
bucket of the marker counts the matched records with no values but those of its terms;
without a text, it counts those without any value. -/
theorem noOther_count (actions : List Session.Action) {store : RecordStore}
    (hstamp : (Session.start.run actions).stamp + 1 < 2 ^ 64)
    (hstore : store ∈ (Session.start.run actions).stores) (q : SearchQuery)
    (job : Classifier) (hexact : job.stopEarly = false) (generation stamp : ℕ)
    (places : Places) (htags : ∀ r ∈ store.records, noneMarker ∉ r.tagsOf job.category)
    (hgroup : store.hierarchy.isGroup job.category noneMarker = false)
    (hjoins : q.Joins job.category)
    (hplain : ∀ t ∈ q.termsOf job.category, t.value = noneMarker → t.negated = false) :
    let buckets := (job.run q store generation (Session.start.run actions).stamp
      store.entries places).1
    let matched := job.matched q store stamp places
    buckets[noneMarker]?.map (·.count) = some (matched.countP
        (·.onlyHas job.category ((q.termsOf job.category).map (·.value)))) ∧
      (q.texts[job.category]? = none → buckets[noneMarker]?.map (·.count) =
        some (matched.countP fun r => (r.tagsOf job.category).isEmpty)) := by
  intro buckets matched
  have hsound := Session.grouped_run actions store hstore
  obtain ⟨t, hresult, hcounts⟩ :=
    counts_run actions hstamp hstore q job hexact generation stamp places
  have hmem : ∀ r ∈ matched, noneMarker ∉ r.tagsOf job.category ∧
      (q.compile store stamp).evaluate r = true := by
    intro r hr
    obtain ⟨hat, haccepts⟩ := List.mem_filter.mp hr
    obtain ⟨place, -, hplace⟩ := List.mem_filterMap.mp hat
    exact ⟨htags r (List.mem_of_getElem? hplace), (Bool.and_eq_true_iff.mp haccepts).2⟩
  have hnotgroup : noneMarker ∉ store.hierarchy.groupMap job.category := by
    rw [hsound.mem_groupMap_iff, hgroup]
    exact Bool.false_ne_true
  -- No tag has the marker's name, so its bucket is bumped for the second query alone.
  have hvalues : matched.countP
      ((job.setup q store generation (Session.start.run actions).stamp).countsFor
        noneMarker) = 0 := by
    rw [List.countP_eq_zero]
    intro r hr hcounts
    rw [Setup.countsFor, Bool.and_eq_true, Record.hasTag_iff] at hcounts
    exact (hmem r hr).1 hcounts.1
  have halone : matched.countP
      (job.setup q store generation (Session.start.run actions).stamp).noOther.evaluate =
        matched.countP
          (·.onlyHas job.category ((q.termsOf job.category).map (·.value))) := by
    refine List.countP_congr fun r hr => ?_
    rw [← evaluate_noOtherQuery hjoins hplain (hmem r hr).2 (hmem r hr).1 generation
      ((Session.start.run actions).stamp + 1)]
    rfl
  have hbucket : buckets[noneMarker]?.map (·.count) = some (matched.countP
      (·.onlyHas job.category ((q.termsOf job.category).map (·.value)))) := by
    simp only [buckets, hresult]
    rw [hcounts.result, if_neg fun hcounts => hnotgroup hcounts.1, shownCount,
      if_pos (Or.inl rfl), Setup.valueCount, if_pos rfl, hvalues, halone, Nat.zero_add]
  refine ⟨hbucket, fun hnone => ?_⟩
  rw [hbucket, SearchQuery.termsOf_of_none hnone]
  refine congrArg some (List.countP_congr fun r _ => ?_)
  rw [Record.onlyHas_iff, TagSet.isEmpty_iff]
  simp

/-- One of two records with a required value has another value beside it. -/
theorem noOther_count_of_negation :
    let fixture : Fixture :=
      { records := [Record.addTag { fileName := "a.jpg" } "People" "Anne",
          .addTag (.addTag { fileName := "b.jpg" } "People" "Anne") "People" "Jim"]
        groups := ∅ }
    let job : Classifier := { category := "People" }
    let session := Session.start.run [.openStore fixture]
    let q : SearchQuery :=
      { SearchQuery.new 1 with texts := (∅ : TextTable).insert "People" "Anne & !Bob" }
    session.stamp + 1 < 2 ^ 64 ∧ fixture.store 1 ∈ session.stores ∧
      job.stopEarly = false ∧ q.Conjunctive "People" ∧
      (job.run q (fixture.store 1) 2 session.stamp (fixture.store 1).entries
        [0, 1]).1[noneMarker]?.map (·.count) = some 1 := by
  intro fixture job session q
  have hstamp : session.stamp + 1 < 2 ^ 64 := by decide
  have hstore : fixture.store 1 ∈ session.stores := List.mem_singleton_self _
  have htext : q.texts["People"]? = some "Anne & !Bob" := by decide +kernel
  have hasked : q.Conjunctive "People" :=
    SearchQuery.conjunctive_of_text htext (by decide) (by decide +kernel)
  have hcount := (noOther_count [.openStore fixture] hstamp hstore q job rfl 2 9 [0, 1]
    (by decide +kernel) (by decide +kernel) hasked.joins
    fun t ht hmarker => absurd hmarker (hasked.no_marker t ht)).1
  have hone : (job.matched q (fixture.store 1) 9 [0, 1]).countP
      (·.onlyHas "People" ((q.termsOf "People").map (·.value))) = 1 := by
    decide +kernel
  rw [hone] at hcount
  exact ⟨hstamp, hstore, rfl, hasked, hcount⟩

/-- The marker is joined to the last of two alternatives only, and a record that
satisfies the first is counted though it has a value that is not asked for. -/
theorem noOther_count_ne_of_alternatives :
    let fixture : Fixture :=
      { records := [Record.addTag (.addTag { fileName := "a.jpg" } "People" "Anne") "People"
          "Jim"]
        groups := ∅ }
    let store := fixture.store 1
    let job : Classifier := { category := "People" }
    let q : SearchQuery :=
      { SearchQuery.new 1 with texts := (∅ : TextTable).insert "People" "Anne | Jesper" }
    (∀ r ∈ store.records, noneMarker ∉ r.tagsOf "People") ∧
      store.hierarchy.isGroup "People" noneMarker = false ∧
      (job.run q store 2 9 store.entries [0]).1[noneMarker]?.map (·.count) ≠
        some ((job.matched q store 9 [0]).countP
          (·.onlyHas "People" ((q.termsOf "People").map (·.value)))) := by
  decide +kernel

end Classifier

end TagQuery
