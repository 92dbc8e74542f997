import TagQuery.Proofs.MatchText.Joining
import TagQuery.Proofs.Query.Constraints
import TagQuery.Proofs.Session.Answers

/-!
# Asking for one more value

A value is added to what a query asks of a category by joining it to the text.  Where
the text is one alternative without the reserved marker, the query then accepts the
records that it accepted before and that hold the value, and the text is again such an
alternative.  Where the text has several alternatives, the value is added to the last
of them only.
-/

namespace TagQuery

namespace MatchText

variable {groups : Hierarchy} {category text : String} {r : Record} {terms : List Term}

/-! ## One alternative -/

/-- Without the marker, an alternative accepts what satisfies all its terms. -/
theorem branchAccepts_iff_forall (hterms : ∀ t ∈ terms, t.value ≠ noneMarker) :
    BranchAccepts groups category r terms ↔ ∀ t ∈ terms, t.Holds groups category r := by
  have hmarkers : terms.filter (·.value = noneMarker) = [] :=
    List.filter_eq_nil_iff.mpr fun t ht => by simpa using hterms t ht
  have hwanted : terms.filter (·.value ≠ noneMarker) = terms :=
    List.filter_eq_self.mpr fun t ht => by simpa using hterms t ht
  simp only [BranchAccepts, hmarkers, hwanted, if_true]

/-- An alternative of several terms, of which the last one is a plain value. -/
theorem branchAccepts_concat (hterms : ∀ t ∈ terms, t.value ≠ noneMarker) {value : String}
    (hvalue : value ≠ noneMarker) :
    BranchAccepts groups category r (terms ++ [⟨value, false⟩]) ↔
      BranchAccepts groups category r terms ∧ r.Holds groups category value := by
  have hall : ∀ t ∈ terms ++ [⟨value, false⟩], t.value ≠ noneMarker := by
    intro t ht
    rcases List.mem_append.mp ht with ht | ht
    · exact hterms t ht
    · rw [List.mem_singleton.mp ht]
      exact hvalue
  have hlast : Term.Holds ⟨value, false⟩ groups category r ↔
      r.Holds groups category value := by
    rw [Term.Holds, if_neg Bool.false_ne_true]
  rw [branchAccepts_iff_forall hall, branchAccepts_iff_forall hterms,
    List.forall_mem_append, List.forall_mem_singleton, hlast]

/-- A text of one alternative at most asks for its terms. -/
theorem Joins.accepts_iff (h : Joins text.toList) :
    Accepts groups category text r ↔
      BranchAccepts groups category r (parse text).flatten := by
  rcases h.parseChars_cases with hnil | hone
  · have hparse : parse text = [] := hnil
    rw [Accepts, hparse]
    simp [BranchAccepts]
  · have hparse : parse text = [(parse text).flatten] := hone
    rw [Accepts, hparse]
    simp

theorem accepts_of_parse_eq (h : parse text = [terms]) :
    Accepts groups category text r ↔ BranchAccepts groups category r terms := by
  rw [Accepts, h]
  simp

end MatchText

/-! ## Queries to which values are added -/

namespace SearchQuery

variable {q : SearchQuery} {category value : String}

/-- The terms of all alternatives that a query has for a category. -/
def termsOf (q : SearchQuery) (category : String) : List Term :=
  (q.texts[category]?.elim [] MatchText.parse).flatten

/-- Terms can be joined to what a query asks of a category. -/
def Joins (q : SearchQuery) (category : String) : Prop :=
  ∀ text, q.texts[category]? = some text → MatchText.Joins text.toList

/-- The query asks of a category one alternative of plain or negated values. -/
structure Conjunctive (q : SearchQuery) (category : String) : Prop where
  joins : q.Joins category
  no_marker : ∀ t ∈ q.termsOf category, t.value ≠ noneMarker

theorem conjunctive_of_text {text : String} (htext : q.texts[category]? = some text)
    (hjoins : MatchText.Joins text.toList)
    (hterms : ∀ t ∈ (MatchText.parse text).flatten, t.value ≠ noneMarker) :
    q.Conjunctive category where
  joins := by
    intro other hother
    rw [htext] at hother
    cases hother
    exact hjoins
  no_marker := by
    rw [termsOf, htext]
    exact hterms

theorem termsOf_of_none (h : q.texts[category]? = none) : q.termsOf category = [] := by
  rw [termsOf, h]
  rfl

theorem termsOf_of_some {text : String} (h : q.texts[category]? = some text) :
    q.termsOf category = (MatchText.parse text).flatten := by
  rw [termsOf, h]
  rfl

theorem conjunctive_of_blank
    (h : ∀ text, q.texts[category]? = some text → Text.isBlankText text = true) :
    q.Conjunctive category where
  joins := fun text htext => MatchText.joins_of_isBlankText (h text htext)
  no_marker := by
    cases htext : q.texts[category]? with
    | none => simp [termsOf_of_none htext]
    | some text =>
        simp [termsOf_of_some htext, MatchText.parse_of_isBlankText (h text htext)]

/-- What is asked of a category is asked by the terms for it. -/
theorem Joins.evaluate_iff (h : q.Joins category) (store : RecordStore) (stamp : ℕ)
    (r : Record) :
    (q.compile store stamp).evaluate r = true ↔ q.AcceptsBeside category store r ∧
      MatchText.BranchAccepts store.hierarchy category r (q.termsOf category) := by
  rw [evaluate_iff_beside q category]
  refine and_congr_right fun _ => ?_
  cases htext : q.texts[category]? with
  | none =>
      rw [termsOf_of_none htext]
      simp [MatchText.BranchAccepts]
  | some text =>
      rw [termsOf_of_some htext, ← (h text htext).accepts_iff]
      simp

theorem toList_join (text value : String) :
    (text ++ String.ofList MatchText.andSeparator ++ value).toList =
      text.toList ++ (MatchText.andSeparator ++ value.toList) := by
  simp [String.toList_append]

/-- The text with a value joined to it is one alternative, of all terms and the value. -/
theorem Joins.parse_joinTerm (h : q.Joins category)
    (hvalue : MatchText.parse (MatchText.escape value) = [[⟨value, false⟩]]) :
    MatchText.parse (joinTerm q.texts[category]? value) =
      [q.termsOf category ++ [⟨value, false⟩]] := by
  cases htext : q.texts[category]? with
  | none =>
      rw [termsOf_of_none htext]
      exact hvalue
  | some text =>
      rw [termsOf_of_some htext, joinTerm]
      split
      next hblank =>
        rw [MatchText.parse_of_isBlankText hblank]
        exact hvalue
      next =>
        rw [MatchText.parse, toList_join, MatchText.escape, String.toList_ofList]
        exact (h text htext).parseChars_join (MatchText.isTerm_escapeChars hvalue)

theorem Joins.joins_joinTerm (h : q.Joins category)
    (hvalue : MatchText.parse (MatchText.escape value) = [[⟨value, false⟩]]) :
    MatchText.Joins (joinTerm q.texts[category]? value).toList := by
  have hterm := MatchText.isTerm_escapeChars hvalue
  have hescaped : MatchText.Joins (MatchText.escape value).toList := by
    rw [MatchText.escape, String.toList_ofList]
    exact hterm.joins
  cases htext : q.texts[category]? with
  | none => exact hescaped
  | some text =>
      rw [joinTerm]
      split
      next => exact hescaped
      next =>
        rw [toList_join, MatchText.escape, String.toList_ofList]
        exact (h text htext).join hterm

theorem Joins.termsOf_addAnd (h : q.Joins category)
    (hvalue : MatchText.parse (MatchText.escape value) = [[⟨value, false⟩]]) :
    (q.addAnd category value).termsOf category =
      q.termsOf category ++ [⟨value, false⟩] := by
  have htext : (q.addAnd category value).texts[category]? =
      some (joinTerm q.texts[category]? value) := by
    simp [addAnd]
  rw [termsOf_of_some htext, h.parse_joinTerm hvalue]
  simp

/-- Values can be added one after the other. -/
theorem Conjunctive.addAnd (h : q.Conjunctive category) (hmarker : value ≠ noneMarker)
    (hvalue : MatchText.parse (MatchText.escape value) = [[⟨value, false⟩]]) :
    (q.addAnd category value).Conjunctive category where
  joins := by
    intro text htext
    have hjoined : text = joinTerm q.texts[category]? value := by
      simpa [SearchQuery.addAnd, eq_comm] using htext
    rw [hjoined]
    exact h.joins.joins_joinTerm hvalue
  no_marker := by
    rw [h.joins.termsOf_addAnd hvalue]
    intro t ht
    rcases List.mem_append.mp ht with ht | ht
    · exact h.no_marker t ht
    · rw [List.mem_singleton.mp ht]
      exact hmarker

/-- With a value added, a query accepts those of its records that hold the value. -/
theorem Conjunctive.evaluate_addAnd {q' : SearchQuery} (h : q.Conjunctive category)
    (hmarker : value ≠ noneMarker)
    (hvalue : MatchText.parse (MatchText.escape value) = [[⟨value, false⟩]])
    (hfilters : q'.filters = (q.addAnd category value).filters)
    (htexts : q'.texts = (q.addAnd category value).texts) (store : RecordStore)
    (stamp : ℕ) (r : Record) :
    (q'.compile store stamp).evaluate r = true ↔
      (q.compile store stamp).evaluate r = true ∧
        r.Holds store.hierarchy category value := by
  have hparse := h.joins.parse_joinTerm hvalue
  rw [h.joins.evaluate_iff, evaluate_insert (q := q) category _ store stamp r
    hfilters htexts, MatchText.accepts_of_parse_eq hparse,
    MatchText.branchAccepts_concat h.no_marker hmarker, and_assoc]

/-- Of several alternatives, only the last one is asked to hold the added value. -/
theorem evaluate_addAnd_last {q' : SearchQuery} {text : String}
    (htext : q.texts[category]? = some text) (hblank : Text.isBlankText text = false)
    (hcomplete : MatchText.Complete text.toList)
    (hvalue : MatchText.parse (MatchText.escape value) = [[⟨value, false⟩]])
    (hfilters : q'.filters = (q.addAnd category value).filters)
    (htexts : q'.texts = (q.addAnd category value).texts) (store : RecordStore)
    (stamp : ℕ) (r : Record) :
    (q'.compile store stamp).evaluate r = true ↔ q.AcceptsBeside category store r ∧
      ((∃ terms ∈ MatchText.earlierBranches text.toList,
          MatchText.BranchAccepts store.hierarchy category r terms) ∨
        MatchText.BranchAccepts store.hierarchy category r
          (MatchText.lastTerms text.toList ++ [⟨value, false⟩])) := by
  have hparse : MatchText.parse (joinTerm q.texts[category]? value) =
      MatchText.earlierBranches text.toList ++
        [MatchText.lastTerms text.toList ++ [⟨value, false⟩]] := by
    rw [htext, joinTerm, hblank, if_neg Bool.false_ne_true, MatchText.parse,
      toList_join, MatchText.escape, String.toList_ofList]
    exact MatchText.parseChars_join hcomplete (MatchText.isTerm_escapeChars hvalue)
  rw [evaluate_insert (q := q) category _ store stamp r hfilters htexts, MatchText.Accepts,
    hparse]
  simp only [List.append_eq_nil_iff, List.cons_ne_nil, and_false, false_or, List.mem_append,
    List.mem_singleton, or_and_right, exists_or, exists_eq_left]

end SearchQuery

/-! ## Narrowing in a session -/

/-- The record has a value, or something that its groups lead to. -/
def Record.Reaches (r : Record) (groups : TagTable) (category value : String) : Prop :=
  value ∈ r.tagsOf category ∨
    ∃ member, Relation.TransGen groups.Leads value member ∧ member ∈ r.tagsOf category

theorem Hierarchy.Sound.reaches_iff {h : Hierarchy} (hs : h.Sound) {r : Record}
    {category value : String} :
    r.Reaches (h.groups category) category value ↔ r.Holds h category value := by
  simp only [Record.Reaches, Record.Holds, hs.mem_membersOf_iff]

instance (r : Record) (groups : Hierarchy) (category value : String) :
    Decidable (r.Holds groups category value) :=
  decidable_of_iff ((⟨category, value, groups.membersOf category value⟩ :
    ValueMatcher).accepts r = true) ValueMatcher.accepts_iff

namespace Session

/-- Of two answers, the later one is yes where the earlier one was and something else
holds. -/
def Narrowed (earlier later : Option Bool) (more : Prop) : Prop :=
  ∃ before after, earlier = some before ∧ later = some after ∧
    (after = true ↔ before = true ∧ more)

variable {place source : ℕ} {held : HeldQuery} {store : RecordStore}
  {category value : String}

/-- Adding a value leaves stores as they are and puts at the place of the query one that
accepts fewer records: those that hold the value. -/
theorem exists_after_addAnd (actions : List Action)
    (hheld : (start.run actions).queries[place]? = some held)
    (hstore : (start.run actions).stores[source]? = some store)
    (hasked : held.query.Conjunctive category) (hmarker : value ≠ noneMarker)
    (hvalue : MatchText.parse (MatchText.escape value) = [[⟨value, false⟩]]) :
    let after := start.run (actions ++ [.editQuery place (.addAnd category value)])
    after.stamp = (start.run actions).stamp ∧ ∃ held' store',
      after.queries[place]? = some held' ∧ after.stores[source]? = some store' ∧
        store'.records = store.records ∧ held'.query.Conjunctive category ∧
        ∀ (stamp : ℕ) (r : Record), (held'.query.compile store' stamp).evaluate r = true ↔
          (held.query.compile store stamp).evaluate r = true ∧
            r.Holds store.hierarchy category value := by
  intro after
  have hchange : held.query.change (.addAnd category value) =
      .ok (held.query.addAnd category value) := rfl
  obtain ⟨hstamp, hkeeps, generation, hheld'⟩ :=
    perform_editQuery (coherent_run actions).homed hheld hchange
  obtain ⟨store', hstore', hrecords, hhierarchy⟩ := hkeeps source store hstore
  have hafter : after = (start.run actions).perform
      (.editQuery place (.addAnd category value)) :=
    run_append start actions _
  rw [← hafter] at hstamp hheld' hstore'
  refine ⟨hstamp, _, store', hheld', hstore', hrecords, ?_, ?_⟩
  · have hagain := hasked.addAnd hmarker hvalue
    constructor
    · exact hagain.joins
    · exact hagain.no_marker
  · intro stamp r
    rw [SearchQuery.evaluate_congr _ hrecords hhierarchy stamp stamp]
    exact hasked.evaluate_addAnd hmarker hvalue rfl rfl store stamp r

/-- After a value was added to one alternative without the marker, a query matches the
records that it matched before and that have the value or something its groups lead to:
any record that has no cache, and those of the store whose groups are used.  What is
asked is again one alternative without the marker. -/
theorem addAnd_narrows (actions : List Action)
    (hheld : (start.run actions).queries[place]? = some held)
    (hstore : (start.run actions).stores[source]? = some store)
    (hasked : held.query.Conjunctive category) (hmarker : value ≠ noneMarker)
    (hvalue : MatchText.parse (MatchText.escape value) = [[⟨value, false⟩]]) :
    let before := start.run actions
    let after := start.run (actions ++ [.editQuery place (.addAnd category value)])
    let groups := store.hierarchy.groups category
    (∃ held', after.queries[place]? = some held' ∧ held'.query.Conjunctive category) ∧
      (∀ r : Record, Narrowed ((before.matchBare place source r).map (·.1))
        ((after.matchBare place source r).map (·.1)) (r.Reaches groups category value)) ∧
      (before.stamp < 2 ^ 63 → ∀ (record : ℕ) (e : Entry),
        store.entries[record]? = some e →
        Narrowed ((before.matchRecord place source record source).map (·.1))
          ((after.matchRecord place source record source).map (·.1))
          (e.record.Reaches groups category value)) := by
  intro before after groups
  have hsound := grouped_run actions store (List.mem_of_getElem? hstore)
  have hbefore : before.Coherent := coherent_run actions
  have hafter : after.Coherent := coherent_run _
  obtain ⟨hstamp, held', store', hheld', hstore', hrecords, hagain, hevaluate⟩ :=
    exists_after_addAnd actions hheld hstore hasked hmarker hvalue
  have hnarrows : ∀ r : Record, (held'.query.compile store' 0).evaluate r = true ↔
      (held.query.compile store 0).evaluate r = true ∧ r.Reaches groups category value := by
    intro r
    rw [hevaluate, hsound.reaches_iff]
  refine ⟨⟨held', hheld', hagain⟩, ?_, ?_⟩
  · intro r
    exact ⟨_, _, hbefore.matchBare_eq hheld hstore 0 r,
      hafter.matchBare_eq hheld' hstore' 0 r, hnarrows r⟩
  · intro hbound record e he
    obtain ⟨e', he', hrecord⟩ : ∃ e', store'.entries[record]? = some e' ∧
        e'.record = e.record := by
      have hat := congrArg (·[record]?) hrecords
      simp only [RecordStore.records, List.getElem?_map, he, Option.map_some,
        Option.map_eq_some_iff] at hat
      exact hat
    have hbound' : after.stamp < 2 ^ 63 := by
      rw [hstamp]
      exact hbound
    have hearlier := hbefore.matchRecord_eq (dated_run actions) hbound hheld hstore he 0
    have hlater := hafter.matchRecord_eq (dated_run _) hbound' hheld' hstore' he' 0
    rw [hrecord] at hlater
    exact ⟨_, _, hearlier, hlater, hnarrows e.record⟩

/-- A group is added to a text with a negated term. -/
theorem addAnd_narrows_of_group :
    let fixture : Fixture :=
      { records := [Record.addTag (.addTag { fileName := "a.jpg" } "People" "Anne") "People"
            "Jim", .addTag { fileName := "b.jpg" } "People" "Anne"]
        groups := (∅ : GroupTables).insert "People"
          ((∅ : TagTable).insert "Family" {"Jim"}) }
    let actions := [Action.openStore fixture, .newQuery 0,
      .editQuery 0 (.text "People" "Anne & !Bob")]
    let after := start.run (actions ++ [.editQuery 0 (.addAnd "People" "Family")])
    (∃ held, (start.run actions).queries[0]? = some held ∧
        held.query.Conjunctive "People") ∧
      (after.matchRecord 0 0 0 0).map (·.1) = some true ∧
      (after.matchRecord 0 0 1 0).map (·.1) = some false := by
  intro fixture actions after
  obtain ⟨held, hheld, htext⟩ : ∃ held, (start.run actions).queries[0]? = some held ∧
      held.query.texts["People"]? = some "Anne & !Bob" := ⟨_, rfl, by decide +kernel⟩
  have hasked : held.query.Conjunctive "People" :=
    SearchQuery.conjunctive_of_text htext (by decide) (by decide +kernel)
  obtain ⟨store, hstore, hentries, hgroups⟩ : ∃ store,
      (start.run actions).stores[0]? = some store ∧
      store.entries = fixture.records.map Entry.fresh ∧
      store.hierarchy = (fixture.store 1).hierarchy := ⟨_, rfl, rfl, rfl⟩
  have hreaches : ∀ r : Record, r.Reaches (store.hierarchy.groups "People") "People"
      "Family" ↔ r.Holds (fixture.store 1).hierarchy "People" "Family" := by
    intro r
    rw [← hgroups]
    exact (grouped_run actions store (List.mem_of_getElem? hstore)).reaches_iff
  have hmarker : "Family" ≠ noneMarker := by decide
  have hnarrows := (addAnd_narrows actions hheld hstore hasked hmarker
    (by decide +kernel)).2.2 (by decide)
  refine ⟨⟨held, hheld, hasked⟩, ?_, ?_⟩
  · obtain ⟨first, later, hfirst, hlater, hiff⟩ := hnarrows 0 _ (by rw [hentries]; rfl)
    have hanswer : ((start.run actions).matchRecord 0 0 0 0).map (·.1) = some true := by
      decide +kernel
    rw [hanswer, Option.some.injEq] at hfirst
    rw [hlater, hiff.mpr ⟨hfirst.symm, (hreaches _).mpr (by decide +kernel)⟩]
  · obtain ⟨first, later, -, hlater, hiff⟩ := hnarrows 1 _ (by rw [hentries]; rfl)
    have hnot : ¬later = true := fun htrue =>
      absurd ((hreaches _).mp (hiff.mp htrue).2) (by decide +kernel)
    rw [hlater, Bool.eq_false_iff.mpr hnot]

/-- A value is added to the last of two alternatives only, and a record that satisfies
the first is matched without the value. -/
theorem not_narrowed_of_alternatives :
    let record := Record.addTag { fileName := "a.jpg" } "People" "Anne"
    let fixture : Fixture := { records := [record], groups := ∅ }
    let actions := [Action.openStore fixture, .newQuery 0,
      .editQuery 0 (.text "People" "Anne | Jesper")]
    let after := start.run (actions ++ [.editQuery 0 (.addAnd "People" "Jim")])
    MatchText.parse (MatchText.escape "Jim") = [[⟨"Jim", false⟩]] ∧
      ¬Narrowed (((start.run actions).matchRecord 0 0 0 0).map (·.1))
        ((after.matchRecord 0 0 0 0).map (·.1))
        (record.Reaches ((fixture.store 1).hierarchy.groups "People") "People" "Jim") := by
  intro record fixture actions after
  refine ⟨by decide +kernel, ?_⟩
  rintro ⟨first, later, -, hlater, hiff⟩
  have hanswer : (after.matchRecord 0 0 0 0).map (·.1) = some true := by decide +kernel
  rw [hanswer, Option.some.injEq] at hlater
  have hsound : (fixture.store 1).hierarchy.Sound := Hierarchy.sound_ofGroups _ _
  have hholds := hsound.reaches_iff.mp (hiff.mp hlater.symm).2
  exact absurd hholds (by decide +kernel)

end Session

end TagQuery
