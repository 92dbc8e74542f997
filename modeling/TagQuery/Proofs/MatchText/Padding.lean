import TagQuery.Proofs.Lists
import TagQuery.Proofs.MatchText.Values

/-!
# White space around terms

A term is read without the white space around it.  In front of a negation mark, however,
only spaces, tabs and line ends are passed over; after any other blank the mark is read as
the beginning of a value.  White space is therefore of no matter for a term exactly if it
does not come in front of a mark, or is all of the kind that is passed over there.

A match text is read piece by piece, and white space around its terms is of no matter as
long as this holds of each of them.
-/

namespace TagQuery.MatchText

open Text

variable {text text' front back : List Char}

/-! ## Negation marks -/

/-- A negation mark stands in front of the value. -/
def Marked (text : List Char) : Prop :=
  (text.dropWhile isMargin).head? = some '!'

instance : DecidablePred Marked :=
  fun text => inferInstanceAs (Decidable ((text.dropWhile isMargin).head? = some '!'))

theorem ne_mark_of_isBlank {c : Char} (hc : isBlank c = true) : c ≠ '!' := by
  rintro rfl
  exact absurd hc (by decide)

theorem marked_append_right (hback : ∀ c ∈ back, isBlank c = true) (text : List Char) :
    Marked (text ++ back) ↔ Marked text := by
  unfold Marked
  rw [List.dropWhile_append]
  split
  next hmargin =>
    rw [List.isEmpty_iff] at hmargin
    rw [hmargin]
    refine iff_of_false ?_ nofun
    intro hhead
    have hmem := List.dropWhile_subset isMargin (List.mem_of_mem_head? hhead)
    exact ne_mark_of_isBlank (hback _ hmem) rfl
  next hmore =>
    rw [List.isEmpty_iff] at hmore
    obtain ⟨c, rest, hrest⟩ := List.exists_cons_of_ne_nil hmore
    rw [hrest, List.cons_append, List.head?_cons, List.head?_cons]

/-- Only what is passed over may stand in front of a mark. -/
theorem marked_append_left (hfront : ∀ c ∈ front, isBlank c = true) (text : List Char) :
    Marked (front ++ text) ↔ (∀ c ∈ front, isMargin c = true) ∧ Marked text := by
  unfold Marked
  rw [List.dropWhile_append]
  split
  next hmargin =>
    rw [List.isEmpty_iff, List.dropWhile_eq_nil_iff] at hmargin
    exact (and_iff_right hmargin).symm
  next hmore =>
    rw [List.isEmpty_iff] at hmore
    refine iff_of_false ?_ fun h => hmore (List.dropWhile_eq_nil_iff.mpr h.1)
    intro hhead
    obtain ⟨c, rest, hrest⟩ := List.exists_cons_of_ne_nil hmore
    have hmem : c ∈ front :=
      List.dropWhile_subset isMargin (by rw [hrest]; exact List.mem_cons_self)
    rw [hrest, List.cons_append, List.head?_cons] at hhead
    exact ne_mark_of_isBlank (hfront c hmem) (Option.some.inj hhead)

/-! ## One term -/

theorem termOfChars?_congr (hmark : (stripNegation text).1 = (stripNegation text').1)
    (hvalue : trim (stripNegation text).2 = trim (stripNegation text').2) :
    termOfChars? text = termOfChars? text' := by
  unfold termOfChars?
  dsimp only
  rw [hmark, hvalue]

/-- Without a mark, only what is left between the blanks matters. -/
theorem termOfChars?_eq_of_not_marked (h : ¬Marked text) (h' : ¬Marked text')
    (htrim : trim text = trim text') : termOfChars? text = termOfChars? text' := by
  apply termOfChars?_congr
  · rw [stripNegation_of_no_mark h, stripNegation_of_no_mark h']
  · rw [stripNegation_of_no_mark h, stripNegation_of_no_mark h',
      trim_dropWhile isBlank_of_isMargin, trim_dropWhile isBlank_of_isMargin, htrim]

theorem trim_padded (hfront : ∀ c ∈ front, isBlank c = true)
    (hback : ∀ c ∈ back, isBlank c = true) (text : List Char) :
    trim (front ++ (text ++ back)) = trim text := by
  rw [trim_append_left hfront, trim_append_right hback]

theorem marked_padded_iff (hfront : ∀ c ∈ front, isBlank c = true)
    (hback : ∀ c ∈ back, isBlank c = true) (text : List Char) :
    Marked (front ++ (text ++ back)) ↔ (∀ c ∈ front, isMargin c = true) ∧ Marked text := by
  rw [marked_append_left hfront, marked_append_right hback]

/-- A margin in front of a term and blanks behind it do not matter, mark or not. -/
theorem termOfChars?_padded_of_margin (hfront : ∀ c ∈ front, isMargin c = true)
    (hback : ∀ c ∈ back, isBlank c = true) (text : List Char) :
    termOfChars? (front ++ (text ++ back)) = termOfChars? text := by
  have hblank : ∀ c ∈ front, isBlank c = true := fun c hc => isBlank_of_isMargin c (hfront c hc)
  by_cases hmarked : Marked text
  · obtain ⟨rest, hrest⟩ := List.head?_eq_some_iff.mp hmarked
    have hpadded : (front ++ (text ++ back)).dropWhile isMargin = '!' :: (rest ++ back) := by
      rw [List.dropWhile_append_of_pos hfront, List.dropWhile_append, hrest]
      rfl
    apply termOfChars?_congr
    · rw [stripNegation_of_mark hpadded, stripNegation_of_mark hrest]
    · rw [stripNegation_of_mark hpadded, stripNegation_of_mark hrest, trim_append_right hback]
  · have hpadded := (marked_padded_iff hblank hback text).not.mpr fun h => hmarked h.2
    exact termOfChars?_eq_of_not_marked hpadded hmarked (trim_padded hblank hback text)

/-- A mark that is not read as one is part of the value. -/
theorem termOfChars?_padded_ne (hfront : ∀ c ∈ front, isBlank c = true)
    (hback : ∀ c ∈ back, isBlank c = true) (hmargin : ¬∀ c ∈ front, isMargin c = true)
    (hmarked : Marked text) :
    termOfChars? (front ++ (text ++ back)) ≠ termOfChars? text := by
  have hpadded := (marked_padded_iff hfront hback text).not.mpr fun h => hmargin h.1
  have hstrip := stripNegation_of_no_mark hpadded
  obtain ⟨rest, hrest⟩ := List.head?_eq_some_iff.mp hmarked
  have hleft : trim text ≠ [] := by
    intro hnil
    have hmem : '!' ∈ text :=
      List.dropWhile_subset isMargin (by rw [hrest]; exact List.mem_cons_self)
    exact ne_mark_of_isBlank (trim_eq_nil_iff.mp hnil _ hmem) rfl
  have hvalue : termOfChars? (front ++ (text ++ back)) =
      some ⟨String.ofList (unescapeChars (trim text)), false⟩ := by
    rw [termOfChars?_eq_some_iff, hstrip, trim_dropWhile isBlank_of_isMargin,
      trim_padded hfront hback]
    exact ⟨hleft, rfl⟩
  rw [hvalue]
  intro hsame
  have hnegated := congrArg Term.negated (termOfChars?_eq_some_iff.mp hsame.symm).2
  rw [stripNegation_of_mark hrest] at hnegated
  exact Bool.false_ne_true hnegated

/-- White space around a term leaves it as it is, unless it keeps a mark from being read. -/
theorem termOfChars?_padded_iff (hfront : ∀ c ∈ front, isBlank c = true)
    (hback : ∀ c ∈ back, isBlank c = true) (text : List Char) :
    termOfChars? (front ++ (text ++ back)) = termOfChars? text ↔
      (∀ c ∈ front, isMargin c = true) ∨ ¬Marked text := by
  constructor
  · intro hsame
    by_contra hnot
    rw [not_or, not_not] at hnot
    exact termOfChars?_padded_ne hfront hback hnot.1 hnot.2 hsame
  · rintro (hmargin | hmarked)
    · exact termOfChars?_padded_of_margin hmargin hback text
    · have hpadded := (marked_padded_iff hfront hback text).not.mpr fun h => hmarked h.2
      exact termOfChars?_eq_of_not_marked hpadded hmarked (trim_padded hfront hback text)

/-! ## Whole texts -/

/-- A piece of match text with white space around it, which in front of a mark is a margin. -/
def PaddedPiece (piece padded : List Char) : Prop :=
  ∃ front back, padded = front ++ (piece ++ back) ∧ (∀ c ∈ front, isBlank c = true) ∧
    (∀ c ∈ back, isBlank c = true) ∧ ((∀ c ∈ front, isMargin c = true) ∨ ¬Marked piece)

/-- A match text with white space around its terms: it is cut into as many pieces, and each
of them is the old one with white space around it. -/
def Padded (text padded : List Char) : Prop :=
  List.Forall₂ (fun branch branch' =>
      List.Forall₂ PaddedPiece (pieces andSeparator branch) (pieces andSeparator branch'))
    (pieces orSeparator text) (pieces orSeparator padded)

theorem PaddedPiece.termOfChars?_eq {piece padded : List Char} (h : PaddedPiece piece padded) :
    termOfChars? padded = termOfChars? piece := by
  obtain ⟨front, back, rfl, hfront, hback, hmark⟩ := h
  exact (termOfChars?_padded_iff hfront hback piece).mpr hmark

theorem branchTerms_eq_of_padded {branch branch' : List Char}
    (h : List.Forall₂ PaddedPiece (pieces andSeparator branch) (pieces andSeparator branch')) :
    branchTerms branch' = branchTerms branch := by
  have hterms := map_eq_of_forall₂ (h.imp fun _ _ hpiece => hpiece.termOfChars?_eq.symm)
  have hread := congrArg (List.filterMap id) hterms.symm
  rwa [List.filterMap_map, List.filterMap_map, Function.id_comp, ← branchTerms_eq_filterMap,
    ← branchTerms_eq_filterMap] at hread

/-- White space around its terms does not change what a match text asks for. -/
theorem Padded.parseChars_eq {padded : List Char} (h : Padded text padded) :
    parseChars padded = parseChars text := by
  have hbranches := map_eq_of_forall₂
    (h.imp fun _ _ hbranch => (branchTerms_eq_of_padded hbranch).symm)
  rw [parseChars_eq_filter, parseChars_eq_filter, hbranches]

end TagQuery.MatchText
