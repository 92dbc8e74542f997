import TagQuery.Proofs.MatchText.Values
import TagQuery.Proofs.Query.Narrowing

/-!
# Texts made of added values

A query that is asked for one value after the other writes them into one text.  Joining
keeps the terms that are there and puts the new one behind them, whatever ampersands the
values have at their ends, so that reading the text gives back the values in their order.
-/

namespace TagQuery.SearchQuery

variable {q : SearchQuery} {category value : String}

theorem joins_of_none (h : q.texts[category]? = none) : q.Joins category := by
  intro text htext
  rw [h] at htext
  contradiction

/-- More can be added behind an added value. -/
theorem Joins.addAnd (h : q.Joins category)
    (hvalue : MatchText.parse (MatchText.escape value) = [[⟨value, false⟩]]) :
    (q.addAnd category value).Joins category := by
  intro text htext
  have hjoined : text = joinTerm q.texts[category]? value := by
    simpa [SearchQuery.addAnd, eq_comm] using htext
  rw [hjoined]
  exact h.joins_joinTerm hvalue

/-- A query that asks for terms has a text for them, of one alternative. -/
theorem Joins.exists_text (h : q.Joins category) (hterms : q.termsOf category ≠ []) :
    ∃ text, q.texts[category]? = some text ∧ MatchText.parse text = [q.termsOf category] := by
  cases htext : q.texts[category]? with
  | none => exact absurd (termsOf_of_none htext) hterms
  | some text =>
      refine ⟨text, rfl, ?_⟩
      rw [termsOf_of_some htext] at hterms ⊢
      apply (h text htext).parseChars_cases.resolve_left
      intro hnil
      apply hterms
      rw [MatchText.parse, hnil]
      rfl

/-- Each value is added behind the terms that are there. -/
theorem Joins.exists_editAll_addAnd (h : q.Joins category) {values : List String}
    (hvalues : ∀ value ∈ values, MatchText.IsPlain value) (drawn : ℕ) :
    ∃ q', (q.editAll drawn (values.map (.addAnd category))).1 = .ok q' ∧
      q'.Joins category ∧
      q'.termsOf category = q.termsOf category ++ values.map (⟨·, false⟩) := by
  induction values generalizing q drawn with
  | nil => exact ⟨q, rfl, h, (List.append_nil _).symm⟩
  | cons value values ih =>
      rw [List.forall_mem_cons] at hvalues
      have hvalue := MatchText.parse_escape_iff.mpr hvalues.1
      -- The terms of a query do not depend on its generation.
      have hjoins : Joins { q.addAnd category value with generation := drawn + 1 } category :=
        h.addAnd hvalue
      obtain ⟨q', hq', hjoins', hterms⟩ := ih hjoins hvalues.2 (drawn + 1)
      refine ⟨q', hq', hjoins', ?_⟩
      calc q'.termsOf category
          = (q.addAnd category value).termsOf category ++ values.map (⟨·, false⟩) := hterms
        _ = q.termsOf category ++ [⟨value, false⟩] ++ values.map (⟨·, false⟩) := by
            rw [h.termsOf_addAnd hvalue]
        _ = q.termsOf category ++ (value :: values).map (⟨·, false⟩) :=
            List.append_assoc _ _ _

/-- Values that are added to a query without a text for the category are read back from the
text in their order.  That holds for the plain values and for no others. -/
theorem parse_addedValues (hnone : q.texts[category]? = none) {values : List String}
    (hne : values ≠ []) (hvalues : ∀ value ∈ values, MatchText.IsPlain value) (drawn : ℕ) :
    (∃ q' text, (q.editAll drawn (values.map (.addAnd category))).1 = .ok q' ∧
      q'.texts[category]? = some text ∧
      MatchText.parse text = [values.map (⟨·, false⟩)]) ∧
    ∀ value : String, MatchText.parse (MatchText.escape value) = [[⟨value, false⟩]] ↔
      MatchText.IsPlain value := by
  refine ⟨?_, fun value => MatchText.parse_escape_iff⟩
  obtain ⟨q', hq', hjoins, hterms⟩ :=
    (joins_of_none hnone).exists_editAll_addAnd hvalues drawn
  rw [termsOf_of_none hnone, List.nil_append] at hterms
  have hsome : q'.termsOf category ≠ [] := by
    rw [hterms]
    simpa using hne
  obtain ⟨text, htext, hparse⟩ := hjoins.exists_text hsome
  rw [hterms] at hparse
  exact ⟨q', text, hq', htext, hparse⟩

theorem parse_addedValues_of_ampersands :
    (∃ q' text, ((new 1).editAll 1 (["A&B", "& C", "D &&"].map (.addAnd "Music"))).1 = .ok q' ∧
      q'.texts["Music"]? = some text ∧
      MatchText.parse text = [["A&B", "& C", "D &&"].map (⟨·, false⟩)]) ∧
    ∀ value : String, MatchText.parse (MatchText.escape value) = [[⟨value, false⟩]] ↔
      MatchText.IsPlain value :=
  parse_addedValues (q := new 1) (by simp [new]) (by decide) (by decide) 1

end TagQuery.SearchQuery
