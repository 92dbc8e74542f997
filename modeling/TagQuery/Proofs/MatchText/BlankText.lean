import Mathlib.Data.List.TakeWhile
import TagQuery.Proofs.MatchText.Splitting

/-!
# Blank match texts

No separator starts in white space, so a blank text is one alternative with one term at
most, and that term has no value.  The text asks for nothing.
-/

namespace TagQuery.MatchText

open Text

theorem termOfChars?_of_blank {text : List Char}
    (h : ∀ c ∈ text, isBlank c = true) : termOfChars? text = none := by
  have hrest : ∀ c ∈ text.dropWhile isMargin, isBlank c = true := by
    intro c hc
    exact h c (List.dropWhile_subset _ hc)
  have hstrip : stripNegation text = (false, text.dropWhile isMargin) := by
    unfold stripNegation
    cases hdrop : text.dropWhile isMargin with
    | nil => rfl
    | cons c rest =>
        have hc : isBlank c = true := hrest c (by simp [hdrop])
        have hbang : c ≠ '!' := by
          rintro rfl
          exact absurd hc (by decide)
        simp [hbang]
  have hstart : trimStart (text.dropWhile isMargin) = [] := by
    rw [trimStart, List.dropWhile_eq_nil_iff]
    exact hrest
  have htrim : trim (text.dropWhile isMargin) = [] := by
    rw [trim, hstart]
    rfl
  simp [termOfChars?, hstrip, htrim]

/-- White space asks for nothing. -/
theorem parse_of_isBlankText {text : String} (h : isBlankText text = true) :
    parse text = [] := by
  have hblank : ∀ c ∈ text.toList, isBlank c = true := by
    simpa [isBlankText] using h
  have hbar : '|' ∉ text.toList := fun hmem =>
    absurd (hblank _ hmem) (by decide)
  have hampersand : '&' ∉ text.toList := fun hmem =>
    absurd (hblank _ hmem) (by decide)
  have hbranches : pieces orSeparator text.toList = [text.toList] :=
    pieces_of_not_mem (c := '|') (by decide) hbar
  have hterms : branchTerms text.toList = [] := by
    rw [branchTerms_eq_filterMap, pieces_of_not_mem (c := '&') (by decide) hampersand,
      List.filterMap_cons_none (termOfChars?_of_blank hblank), List.filterMap_nil]
  rw [parse, parseChars_eq_filter, hbranches, List.map_singleton, hterms]
  rfl

end TagQuery.MatchText
