import TagQuery.Proofs.Query.Narrowing

/-!
# Values that a query already requires

The plain values of a text that is one alternative are taken to be required, and a
classifier shows no buckets for them.  They are required indeed as long as the reserved
marker is not negated: all terms have to hold, with a plain marker or without any.

A negated marker turns this around.  The terms then only describe what a record must not
be, and a record that has nothing in the category is accepted because it does not hold the
values.
-/

namespace TagQuery

variable {groups : Hierarchy} {category value : String} {r : Record} {terms : List Term}

theorem Record.not_holds_of_untagged (h : ∀ tag, tag ∉ r.tagsOf category) :
    ¬r.Holds groups category value := by
  rintro (hvalue | ⟨member, -, hmember⟩)
  · exact h value hvalue
  · exact h member hmember

namespace MatchText

/-- A negated marker asks that the record differ from what the other terms say. -/
theorem branchAccepts_of_negated_marker (hmarker : ⟨noneMarker, true⟩ ∈ terms) :
    BranchAccepts groups category r terms ↔
      ¬Exactly groups category r (terms.filter (·.value ≠ noneMarker)) := by
  have hmem : ⟨noneMarker, true⟩ ∈ terms.filter (·.value = noneMarker) :=
    List.mem_filter.mpr ⟨hmarker, decide_eq_true rfl⟩
  have hnegated : ∃ marker ∈ terms.filter (·.value = noneMarker), marker.negated = true :=
    ⟨_, hmem, rfl⟩
  simp only [BranchAccepts, if_neg (List.ne_nil_of_mem hmem), if_pos hnegated]

/-- Beside a negated marker and a plain value, what has nothing in the category is
accepted. -/
theorem branchAccepts_of_untagged (hmarker : ⟨noneMarker, true⟩ ∈ terms)
    (hterm : ⟨value, false⟩ ∈ terms) (hvalue : value ≠ noneMarker)
    (h : ∀ tag, tag ∉ r.tagsOf category) : BranchAccepts groups category r terms := by
  rw [branchAccepts_of_negated_marker hmarker]
  intro hexactly
  have hwanted : ⟨value, false⟩ ∈ terms.filter (·.value ≠ noneMarker) :=
    List.mem_filter.mpr ⟨hterm, by simpa using hvalue⟩
  have hholds := hexactly.holds _ hwanted
  rw [Term.Holds, if_neg Bool.false_ne_true] at hholds
  exact Record.not_holds_of_untagged h hholds

/-- Where no marker is negated, an alternative accepts only what holds its plain values. -/
theorem BranchAccepts.holds_value (haccepts : BranchAccepts groups category r terms)
    (hmarker : ⟨noneMarker, true⟩ ∉ terms) (hterm : ⟨value, false⟩ ∈ terms)
    (hvalue : value ≠ noneMarker) : r.Holds groups category value := by
  have hplain : ∀ t ∈ terms, t.value = noneMarker → t.negated = false := by
    rintro ⟨name, negated⟩ ht rfl
    rw [Bool.eq_false_iff]
    rintro rfl
    exact hmarker ht
  have hholds := haccepts.holds hplain ⟨value, false⟩
    (List.mem_filter.mpr ⟨hterm, by simpa using hvalue⟩)
  rw [Term.Holds, if_neg Bool.false_ne_true] at hholds
  exact hholds

end MatchText

namespace SearchQuery

variable {q : SearchQuery}

/-- The values found are the plain terms of a text that is one alternative. -/
theorem mem_alreadyMatched_iff : value ∈ q.alreadyMatched category ↔
    ∃ text terms, q.texts[category]? = some text ∧ MatchText.parse text = [terms] ∧
      ⟨value, false⟩ ∈ terms ∧ value ≠ noneMarker := by
  unfold alreadyMatched
  cases htext : q.texts[category]? with
  | none => simp
  | some text =>
      dsimp only
      split
      next terms hparse =>
        simp only [Std.ExtTreeSet.mem_ofList, List.contains_iff_mem, List.mem_map,
          List.mem_filter, Bool.and_eq_true, Bool.not_eq_true', bne_iff_ne]
        constructor
        · rintro ⟨⟨name, negated⟩, ⟨hterm, rfl, hname⟩, rfl⟩
          exact ⟨text, terms, rfl, hparse, hterm, hname⟩
        · rintro ⟨_, _, ⟨⟩, hparse', hterm, hname⟩
          rw [hparse, List.singleton_inj] at hparse'
          subst hparse'
          exact ⟨_, ⟨hterm, rfl, hname⟩, rfl⟩
      next hparse =>
        constructor
        · exact fun h => absurd h Std.ExtTreeSet.not_mem_empty
        · rintro ⟨_, terms, ⟨⟩, hparse', -⟩
          exact absurd hparse' (hparse terms)

/-- A query accepts only records that hold the values it is said to require, whatever it
is compiled for, unless the marker is negated in the text.  If it is, a record that has
nothing in the category is accepted as soon as the rest of the query accepts it. -/
theorem holds_of_mem_alreadyMatched (q : SearchQuery) (category value : String)
    (hvalue : value ∈ q.alreadyMatched category) :
    (⟨noneMarker, true⟩ ∉ q.termsOf category →
      ∀ (store : RecordStore) (stamp : ℕ) (r : Record),
        (q.compile store stamp).evaluate r = true →
          r.Holds store.hierarchy category value) ∧
      (⟨noneMarker, true⟩ ∈ q.termsOf category →
        ∀ (store : RecordStore) (stamp : ℕ) (r : Record),
          (∀ tag, tag ∉ r.tagsOf category) →
            ((q.compile store stamp).evaluate r = true ↔
                q.AcceptsBeside category store r) ∧
              ¬r.Holds store.hierarchy category value) := by
  obtain ⟨text, terms, htext, hparse, hterm, hname⟩ := mem_alreadyMatched_iff.mp hvalue
  have hterms : q.termsOf category = terms := by
    rw [termsOf_of_some htext, hparse, List.flatten_singleton]
  have hevaluate : ∀ (store : RecordStore) (stamp : ℕ) (r : Record),
      (q.compile store stamp).evaluate r = true ↔ q.AcceptsBeside category store r ∧
        MatchText.BranchAccepts store.hierarchy category r terms := by
    intro store stamp r
    rw [evaluate_iff_beside q category, htext, ← MatchText.accepts_of_parse_eq hparse]
    simp
  rw [hterms]
  constructor
  · intro hmarker store stamp r haccepts
    exact ((hevaluate store stamp r).mp haccepts).2.holds_value hmarker hterm hname
  · intro hmarker store stamp r huntagged
    refine ⟨?_, Record.not_holds_of_untagged huntagged⟩
    rw [hevaluate]
    exact and_iff_left (MatchText.branchAccepts_of_untagged hmarker hterm hname huntagged)

/-- A record holds a group that is required beside a marker through a member of it. -/
theorem holds_of_mem_alreadyMatched_through_member :
    let groups : GroupTables := (∅ : GroupTables).insert "People"
      ((∅ : TagTable).insert "Family" {"Jim"})
    let r := Record.addTag { fileName := "a.jpg" } "People" "Jim"
    let store := ({ records := [r], groups } : Fixture).store 1
    let q : SearchQuery :=
      { new 1 with texts := (∅ : TextTable).insert "People" "Family & Jim & **NONE**" }
    "Family" ∈ q.alreadyMatched "People" ∧ ⟨noneMarker, true⟩ ∉ q.termsOf "People" ∧
      (q.compile store 9).evaluate r = true ∧
      r.Holds store.hierarchy "People" "Family" := by
  intro groups r store q
  have hvalue : "Family" ∈ q.alreadyMatched "People" := by decide +kernel
  have hmarker : ⟨noneMarker, true⟩ ∉ q.termsOf "People" := by decide +kernel
  have haccepts : (q.compile store 9).evaluate r = true := by decide +kernel
  exact ⟨hvalue, hmarker, haccepts,
    (holds_of_mem_alreadyMatched q "People" "Family" hvalue).1 hmarker store 9 r haccepts⟩

/-- Beside a negated marker a value is said to be required, and a record is accepted that
has another one instead. -/
theorem accepts_without_alreadyMatched :
    let r := Record.addTag { fileName := "a.jpg" } "People" "Jim"
    let store := ({ records := [r], groups := ∅ } : Fixture).store 1
    let q : SearchQuery :=
      { new 1 with texts := (∅ : TextTable).insert "People" "Jesper & !**NONE**" }
    "Jesper" ∈ q.alreadyMatched "People" ∧ (q.compile store 9).evaluate r = true ∧
      ¬r.Holds store.hierarchy "People" "Jesper" := by
  intro r store q
  have htag : "Jesper" ∉ r.tagsOf "People" := by decide +kernel
  have hmembers : ∀ tag ∈ (r.tagsOf "People").toList,
      tag ∉ store.hierarchy.membersOf "People" "Jesper" := by
    decide +kernel
  refine ⟨by decide +kernel, by decide +kernel, ?_⟩
  rintro (hvalue | ⟨member, hmember, hheld⟩)
  · exact htag hvalue
  · exact hmembers member (Std.ExtTreeSet.mem_toList.mpr hheld) hmember

end SearchQuery

end TagQuery
