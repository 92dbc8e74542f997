import TagQuery.MatchText.Check
import TagQuery.Proofs.Lists
import TagQuery.Proofs.MatchText.Values

/-!
# Texts without flaws

The check of a match text and its reader look at a term in different ways: the one counts
ampersands and takes away all exclamation marks, the other makes one ampersand of two and
takes away one mark.  Still the check accepts exactly the texts that lose nothing when
they are read: writing the terms again gives back the text of each, and each of them stands
at its place.
-/

namespace TagQuery.MatchText

open Text

variable {text piece branch : List Char} {term : Term}

/-! ## Runs of ampersands -/

/-- A run ends before any other character. -/
theorem hasOddRun_cons_of_ne {c : Char} (hc : c ≠ '&') (odd : Bool) (text : List Char) :
    hasOddRun odd (c :: text) = (odd || hasOddRun false text) :=
  if_neg (by simpa using hc)

theorem hasOddRun_append_left {front : List Char} (hfront : ∀ c ∈ front, c ≠ '&')
    (text : List Char) : hasOddRun false (front ++ text) = hasOddRun false text := by
  induction front with
  | nil => rfl
  | cons c front ih =>
      rw [List.forall_mem_cons] at hfront
      rw [List.cons_append, hasOddRun_cons_of_ne hfront.1, Bool.false_or, ih hfront.2]

theorem hasOddRun_append_right {back : List Char} (hback : ∀ c ∈ back, c ≠ '&') (odd : Bool)
    (text : List Char) : hasOddRun odd (text ++ back) = hasOddRun odd text := by
  induction text generalizing odd with
  | nil =>
      rw [List.nil_append]
      cases back with
      | nil => rfl
      | cons c back =>
          have hnone := hasOddRun_append_left hback []
          rw [List.append_nil, hasOddRun_cons_of_ne (hback c List.mem_cons_self),
            Bool.false_or] at hnone
          rw [hasOddRun_cons_of_ne (hback c List.mem_cons_self), hnone]
          exact Bool.or_false odd
  | cons c text ih => rw [List.cons_append, hasOddRun, hasOddRun, ih, ih]

theorem ne_ampersand_of_isBlank {c : Char} (hc : isBlank c = true) : c ≠ '&' := by
  rintro rfl
  exact absurd hc (by decide)

/-- Blanks at the ends are of no matter for the runs of ampersands. -/
theorem hasOddRun_trim (text : List Char) :
    hasOddRun false (trim text) = hasOddRun false text := by
  obtain ⟨front, back, htext, hfront, hback⟩ := exists_eq_append_trim text
  conv_rhs => rw [htext]
  rw [hasOddRun_append_left fun c hc => ne_ampersand_of_isBlank (hfront c hc),
    hasOddRun_append_right fun c hc => ne_ampersand_of_isBlank (hback c hc)]

/-- Neither the margin nor the mark of a term has an ampersand. -/
theorem hasOddRun_stripNegation (piece : List Char) :
    hasOddRun false (stripNegation piece).2 = hasOddRun false piece := by
  have hmargin : hasOddRun false (piece.dropWhile isMargin) = hasOddRun false piece := by
    conv_rhs => rw [← List.takeWhile_append_dropWhile (p := isMargin) (l := piece)]
    rw [hasOddRun_append_left]
    intro c hc
    exact ne_ampersand_of_isBlank (isBlank_of_isMargin c (List.mem_takeWhile_imp hc))
  rw [← hmargin]
  unfold stripNegation
  split
  next rest hmark =>
    rw [hmark, hasOddRun_cons_of_ne (by decide), Bool.false_or]
  next => rfl

/-- A text is what is written for a value exactly if its ampersands come in pairs. -/
theorem escapeChars_unescapeChars_iff (text : List Char) :
    escapeChars (unescapeChars text) = text ↔ hasOddRun false text = false := by
  induction text using unescapeChars.induct with
  | case1 rest ih =>
      have hpair : hasOddRun false ('&' :: '&' :: rest) = hasOddRun false rest := rfl
      rw [unescapeChars, escapeChars_cons, hpair, ← ih]
      simp
  | case2 c rest hno ih =>
      rw [unescapeChars]
      · rw [escapeChars_cons]
        by_cases hc : c = '&'
        · -- A single ampersand is written twice, and what follows it is no ampersand.
          subst hc
          have hodd : hasOddRun true rest = true := by
            cases rest with
            | nil => rfl
            | cons d rest =>
                have hd : d ≠ '&' := by
                  rintro rfl
                  exact hno rest rfl rfl
                rw [hasOddRun_cons_of_ne hd, Bool.true_or]
          refine iff_of_false ?_ ?_
          · intro h
            have hrest := (List.cons.inj h).2
            exact hno _ rfl hrest.symm
          · rw [hasOddRun, if_pos (by decide), Bool.not_false, hodd]
            exact Bool.false_ne_true.symm
        · rw [if_neg (by simpa using hc), hasOddRun_cons_of_ne hc, Bool.false_or, ← ih]
          simp
      · exact hno
  | case3 => exact iff_of_true rfl rfl

/-! ## One term -/

/-- What is written for the value of a term: all of it but the margin, a mark and blanks. -/
def valueText (negated : Bool) (piece : List Char) : List Char :=
  let text := piece.dropWhile isMargin
  trim (if negated then text.tail else text)

/-- A text of one mark or more and nothing else. -/
def OnlyMarks (text : List Char) : Prop :=
  text ≠ [] ∧ ∀ c ∈ text, c = '!'

/-- A piece of match text that is read as a term from which it can be written again. -/
structure Lossless (piece : List Char) : Prop where
  read : ∃ term, termOfChars? piece = some term ∧
    escape term.value = String.ofList (valueText term.negated piece)
  not_marks : ¬OnlyMarks (trim piece)

theorem trim_stripNegation (piece : List Char) :
    trim (stripNegation piece).2 = valueText (stripNegation piece).1 piece := by
  unfold stripNegation
  split
  next rest hmark =>
    rw [valueText, hmark]
    rfl
  next => rfl

/-- Something is left of a term only if the piece is not blank. -/
theorem trim_ne_nil_of_trim_stripNegation (h : trim (stripNegation piece).2 ≠ []) :
    trim piece ≠ [] := by
  intro hnil
  rw [trim_eq_nil_iff] at hnil
  apply h
  rw [trim_eq_nil_iff]
  intro c hc
  exact hnil c (mem_of_mem_stripNegation hc)

/-- Something is left of what is more than marks. -/
theorem trim_stripNegation_ne_nil (hne : trim piece ≠ [])
    (hmarks : ¬∀ c ∈ trim piece, c = '!') : trim (stripNegation piece).2 ≠ [] := by
  rw [← trim_dropWhile isBlank_of_isMargin piece] at hne hmarks
  by_cases hmark : (piece.dropWhile isMargin).head? = some '!'
  · obtain ⟨rest, hrest⟩ := List.head?_eq_some_iff.mp hmark
    rw [stripNegation_of_mark hrest]
    intro hnil
    have hend : trimEnd rest = [] := by
      rw [trimEnd_eq_nil_iff]
      exact trim_eq_nil_iff.mp hnil
    apply hmarks
    rw [hrest, trim_cons_of_not_blank (by decide), hend]
    simp
  · rwa [stripNegation_of_no_mark hmark]

/-- Behind the marks of a trimmed text there is nothing, or more than blanks. -/
theorem trim_dropWhile_mark_eq_nil_iff (text : List Char) :
    trim ((trim text).dropWhile (· == '!')) = [] ↔ ∀ c ∈ trim text, c = '!' := by
  rw [trim_eq_nil_iff]
  constructor
  · intro hblank
    rcases List.eq_nil_or_concat ((trim text).dropWhile (· == '!')) with hnil | ⟨front, c, hend⟩
    · simpa [List.dropWhile_eq_nil_iff] using hnil
    · -- The last character behind the marks is the last one of the trimmed text.
      exfalso
      rw [hend] at hblank
      obtain ⟨marks, hmarks⟩ := List.dropWhile_suffix (l := trim text) (· == '!')
      rw [hend, List.concat_eq_append] at hmarks
      have hlast : c ∈ (trim text).getLast? := by
        rw [← hmarks, ← List.append_assoc, List.getLast?_concat]
        rfl
      have hc := hblank c (by simp)
      rw [isBlank_of_mem_getLast?_trim hlast] at hc
      exact Bool.false_ne_true hc
  · intro hmarks
    have hnil : (trim text).dropWhile (· == '!') = [] := by
      rw [List.dropWhile_eq_nil_iff]
      simpa using hmarks
    rw [hnil]
    exact nofun

theorem lossless_iff :
    Lossless piece ↔
      trim piece ≠ [] ∧ (¬∀ c ∈ trim piece, c = '!') ∧ hasOddRun false piece = false := by
  constructor
  · rintro ⟨⟨term, hterm, hescape⟩, hmarks⟩
    obtain ⟨hleft, rfl⟩ := termOfChars?_eq_some_iff.mp hterm
    have hne := trim_ne_nil_of_trim_stripNegation hleft
    refine ⟨hne, fun h => hmarks ⟨hne, h⟩, ?_⟩
    dsimp only at hescape
    rw [escape, String.toList_ofList, ← trim_stripNegation, String.ofList_inj,
      escapeChars_unescapeChars_iff, hasOddRun_trim, hasOddRun_stripNegation] at hescape
    exact hescape
  · rintro ⟨hne, hmarks, hpairs⟩
    have hleft := trim_stripNegation_ne_nil hne hmarks
    constructor
    · refine ⟨_, termOfChars?_eq_some_iff.mpr ⟨hleft, rfl⟩, ?_⟩
      dsimp only
      rw [escape, String.toList_ofList, ← trim_stripNegation, String.ofList_inj,
        escapeChars_unescapeChars_iff, hasOddRun_trim, hasOddRun_stripNegation]
      exact hpairs
    · intro honly
      exact hmarks honly.2

theorem termFlaw?_eq_none_iff (branch piece : List Char) :
    termFlaw? branch piece = none ↔ Lossless piece := by
  rw [lossless_iff, ← trim_dropWhile_mark_eq_nil_iff, ← hasOddRun_trim piece]
  unfold termFlaw?
  simp only [List.isEmpty_iff]
  split
  next hblank => simp [hblank]
  next hne =>
    split
    next hmarks => simp [hmarks]
    next hmarks =>
      split
      next hodd => simp [hodd]
      next hpairs => simp [hne, hmarks, hpairs]

/-! ## One alternative -/

/-- Blanks are one piece, and no term. -/
theorem exists_not_lossless_of_blank (hblank : branch.all isBlank = true) :
    ∃ piece ∈ pieces andSeparator branch, ¬Lossless piece := by
  rw [List.all_eq_true] at hblank
  obtain ⟨piece, hpiece⟩ := List.exists_mem_of_ne_nil _ (pieces_ne_nil andSeparator branch)
  refine ⟨piece, hpiece, ?_⟩
  intro hlossless
  apply (lossless_iff.mp hlossless).1
  rw [trim_eq_nil_iff]
  intro c hc
  exact hblank c (mem_of_mem_pieces (by decide) hpiece hc)

theorem branchFlaw?_eq_none_iff (text branch : List Char) :
    branchFlaw? text branch = none ↔ ∀ piece ∈ pieces andSeparator branch, Lossless piece := by
  unfold branchFlaw?
  split
  next hblank =>
    obtain ⟨piece, hpiece, hnot⟩ := exists_not_lossless_of_blank hblank
    exact iff_of_false (Option.some_ne_none _) fun h => hnot (h piece hpiece)
  next =>
    rw [List.findSome?_eq_none_iff]
    simp only [termFlaw?_eq_none_iff]

/-- A piece without loss is a term, and all terms of the alternative stand at their places. -/
theorem forall₂_branchTerms (h : ∀ piece ∈ pieces andSeparator branch, Lossless piece) :
    List.Forall₂ (fun piece term => termOfChars? piece = some term)
      (pieces andSeparator branch) (branchTerms branch) := by
  rw [branchTerms_eq_filterMap]
  apply forall₂_filterMap
  intro piece hpiece
  obtain ⟨term, hterm, -⟩ := (h piece hpiece).read
  exact ⟨term, hterm⟩

/-! ## The whole text -/

/-- An alternative without loss is left in the text that is read. -/
theorem parseChars_of_lossless
    (h : ∀ branch ∈ pieces orSeparator text, ∀ piece ∈ pieces andSeparator branch,
      Lossless piece) :
    parseChars text = (pieces orSeparator text).map branchTerms := by
  rw [parseChars_eq_filter, List.filter_eq_self]
  intro terms hterms
  obtain ⟨branch, hbranch, rfl⟩ := List.mem_map.mp hterms
  have hlength := (forall₂_branchTerms (h branch hbranch)).length_eq
  have hpos := List.length_pos_of_ne_nil (pieces_ne_nil andSeparator branch)
  rw [hlength] at hpos
  simpa using List.ne_nil_of_length_pos hpos

/-- The check accepts the blank texts and those of which no piece loses anything when it is
read, and what it accepts is read piece by piece. -/
theorem flaw?_eq_none_iff (text : String) :
    (flaw? text = none ↔ isBlankText text = true ∨
      ∀ branch ∈ pieces orSeparator text.toList, ∀ piece ∈ pieces andSeparator branch,
        Lossless piece) ∧
    (flaw? text = none → isBlankText text = false →
      List.Forall₂ (fun branch terms =>
          List.Forall₂ (fun piece term => termOfChars? piece = some term)
            (pieces andSeparator branch) terms)
        (pieces orSeparator text.toList) (parse text)) := by
  have haccepts : flaw? text = none ↔ isBlankText text = true ∨
      ∀ branch ∈ pieces orSeparator text.toList, ∀ piece ∈ pieces andSeparator branch,
        Lossless piece := by
    unfold flaw?
    split
    next hblank => exact iff_of_true rfl (Or.inl hblank)
    next hblank =>
      rw [scanParts_eq_pieces (by decide), Option.getD_some, List.findSome?_eq_none_iff]
      simp only [branchFlaw?_eq_none_iff, hblank, Bool.false_eq_true, false_or]
  refine ⟨haccepts, ?_⟩
  intro hnone hblank
  rw [haccepts, hblank] at hnone
  have hlossless := hnone.resolve_left Bool.false_ne_true
  rw [parse, parseChars_of_lossless hlossless, List.forall₂_map_right_iff]
  rw [List.forall₂_same]
  intro branch hbranch
  exact forall₂_branchTerms (hlossless branch hbranch)

example : flaw? "A&&B & !Jim | C" = none := by decide +kernel

end TagQuery.MatchText
