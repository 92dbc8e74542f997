import TagQuery.Proofs.MatchText.Joining
import TagQuery.Proofs.Text.Trim

/-!
# Values that are read as they were written

Escaping doubles the ampersands of a value and leaves everything else to the reader, who
takes blanks from the ends of a term, takes an exclamation mark for a negation and cuts at
bars.  So a value comes back as it was exactly if it has nothing that the reader takes.
-/

namespace TagQuery.MatchText

open Text

variable {text : List Char} {term : Term}

/-! ## What a term says -/

theorem isBlank_of_isMargin (c : Char) (hc : isMargin c = true) : isBlank c = true := by
  simp only [isMargin, Bool.or_eq_true, beq_iff_eq] at hc
  rcases hc with ((rfl | rfl) | rfl) | rfl
  · decide
  · decide
  · decide
  · decide

/-- A piece of match text is a term if something is left of it, and says what is left. -/
theorem termOfChars?_eq_some_iff :
    termOfChars? text = some term ↔ trim (stripNegation text).2 ≠ [] ∧
      term = ⟨String.ofList (unescapeChars (trim (stripNegation text).2)),
        (stripNegation text).1⟩ := by
  unfold termOfChars?
  dsimp only
  split
  next hnil => exact iff_of_false (Option.some_ne_none term).symm fun h => h.1 hnil
  next hleft =>
    rw [Option.some.injEq, eq_comm]
    constructor
    · intro hterm
      exact ⟨hleft, hterm⟩
    · intro h
      exact h.2

theorem stripNegation_of_mark {rest : List Char} (h : text.dropWhile isMargin = '!' :: rest) :
    stripNegation text = (true, rest) := by
  rw [stripNegation, h]
  rfl

theorem stripNegation_of_no_mark (h : (text.dropWhile isMargin).head? ≠ some '!') :
    stripNegation text = (false, text.dropWhile isMargin) := by
  unfold stripNegation
  split
  next rest hmark =>
    rw [hmark] at h
    exact absurd rfl h
  next => rfl

/-! ## Escaped values -/

theorem unescapeChars_escapeChars (value : List Char) :
    unescapeChars (escapeChars value) = value := by
  induction value with
  | nil => rfl
  | cons c value ih =>
      rw [escapeChars_cons]
      by_cases hc : c = '&'
      · subst hc
        exact congrArg _ ih
      · rw [if_neg (by simpa using hc), List.singleton_append, unescapeChars, ih]
        intro rest hpair
        exact absurd hpair hc

theorem escapeChars_eq_nil_iff {value : List Char} : escapeChars value = [] ↔ value = [] := by
  constructor
  · intro h
    rw [← unescapeChars_escapeChars value, h]
    rfl
  · rintro rfl
    rfl

/-- Characters that are no ampersands are taken from the front of a value as from the
front of what is written for it. -/
theorem dropWhile_escapeChars {kind : Char → Bool} (hkind : kind '&' = false)
    (value : List Char) :
    (escapeChars value).dropWhile kind = escapeChars (value.dropWhile kind) := by
  induction value with
  | nil => rfl
  | cons c value ih =>
      by_cases hc : kind c = true
      · have hne : c ≠ '&' := by
          rintro rfl
          exact Bool.false_ne_true (hkind.symm.trans hc)
        rw [List.dropWhile_cons_of_pos hc, escapeChars_cons, if_neg (by simpa using hne),
          List.singleton_append, List.dropWhile_cons_of_pos hc, ih]
      · rw [List.dropWhile_cons_of_neg hc, escapeChars_cons]
        by_cases hamp : c = '&'
        · rw [if_pos (by simpa using hamp), List.cons_append]
          exact List.dropWhile_cons_of_neg (Bool.eq_false_iff.mp hkind)
        · rw [if_neg (by simpa using hamp), List.singleton_append]
          exact List.dropWhile_cons_of_neg hc

theorem reverse_escapeChars (value : List Char) :
    (escapeChars value).reverse = escapeChars value.reverse := by
  rw [escapeChars, List.reverse_flatMap, escapeChars]
  refine List.flatMap_congr fun c _ => ?_
  simp only [Function.comp_apply]
  split
  · rfl
  · rfl

theorem trim_escapeChars (value : List Char) :
    trim (escapeChars value) = escapeChars (trim value) := by
  have hblank : isBlank '&' = false := by decide
  rw [trim, trimStart, dropWhile_escapeChars hblank, trimEnd, reverse_escapeChars,
    dropWhile_escapeChars hblank, reverse_escapeChars, trim, trimEnd, trimStart]

/-- The mark before a value is read as one before what is written for it. -/
theorem stripNegation_escapeChars (value : List Char) :
    stripNegation (escapeChars value) =
      ((stripNegation value).1, escapeChars (stripNegation value).2) := by
  have hampersand : isMargin '&' = false := by decide
  have hdrop := dropWhile_escapeChars hampersand value
  cases hrest : value.dropWhile isMargin with
  | nil =>
      rw [hrest] at hdrop
      have hnone : ((escapeChars value).dropWhile isMargin).head? ≠ some '!' := by
        rw [hdrop]
        exact nofun
      rw [stripNegation_of_no_mark hnone, stripNegation_of_no_mark (by simp [hrest]), hdrop,
        hrest]
  | cons c rest =>
      rw [hrest, escapeChars_cons] at hdrop
      by_cases hmark : c = '!'
      · subst hmark
        rw [stripNegation_of_mark hrest]
        exact stripNegation_of_mark hdrop
      · have hhead : ((escapeChars value).dropWhile isMargin).head? ≠ some '!' := by
          rw [hdrop]
          split
          · simp
          · simpa using hmark
        rw [stripNegation_of_no_mark hhead, stripNegation_of_no_mark (by simpa [hrest] using hmark),
          hdrop, hrest, escapeChars_cons]

/-! ## Plain values -/

/-- A value that has nothing in it which is read as something else. -/
structure IsPlain (value : String) : Prop where
  ne_empty : value ≠ ""
  trimmed : trim value.toList = value.toList
  no_bar : '|' ∉ value.toList
  no_mark : value.toList.head? ≠ some '!'

instance : DecidablePred IsPlain := fun value =>
  decidable_of_iff (value ≠ "" ∧ trim value.toList = value.toList ∧ '|' ∉ value.toList ∧
      value.toList.head? ≠ some '!')
    ⟨fun h => ⟨h.1, h.2.1, h.2.2.1, h.2.2.2⟩,
      fun h => ⟨h.ne_empty, h.trimmed, h.no_bar, h.no_mark⟩⟩

/-- No margin stands before a text that has no blank ends. -/
theorem dropWhile_isMargin_of_trim_eq (h : trim (text.dropWhile isMargin) = text) :
    text.dropWhile isMargin = text := by
  apply (List.dropWhile_suffix isMargin).eq_of_length_le
  calc text.length = (trim (text.dropWhile isMargin)).length := by rw [h]
    _ ≤ (text.dropWhile isMargin).length := length_trim_le _

theorem termOfChars?_escapeChars_iff {value : String} :
    termOfChars? (escapeChars value.toList) = some ⟨value, false⟩ ↔
      value ≠ "" ∧ trim value.toList = value.toList ∧ value.toList.head? ≠ some '!' := by
  rw [termOfChars?_eq_some_iff, stripNegation_escapeChars, trim_escapeChars,
    unescapeChars_escapeChars, ne_eq, escapeChars_eq_nil_iff, Term.mk.injEq]
  dsimp only
  constructor
  · rintro ⟨hne, hvalue, hmark⟩
    have hread := congrArg String.toList hvalue
    rw [String.toList_ofList] at hread
    have hhead : (value.toList.dropWhile isMargin).head? ≠ some '!' := by
      intro hhead
      obtain ⟨rest, hrest⟩ := List.head?_eq_some_iff.mp hhead
      rw [stripNegation_of_mark hrest] at hmark
      contradiction
    rw [stripNegation_of_no_mark hhead] at hne hread
    have hdrop := dropWhile_isMargin_of_trim_eq hread.symm
    rw [hdrop] at hne hread hhead
    refine ⟨?_, hread.symm, hhead⟩
    rintro rfl
    exact hne rfl
  · rintro ⟨hne, htrim, hhead⟩
    have hdrop : value.toList.dropWhile isMargin = value.toList := by
      apply dropWhile_isMargin_of_trim_eq
      rw [trim_dropWhile isBlank_of_isMargin, htrim]
    have hstrip : stripNegation value.toList = (false, value.toList) := by
      rw [stripNegation_of_no_mark (by rwa [hdrop]), hdrop]
    rw [hstrip, htrim, String.ofList_toList]
    refine ⟨?_, rfl, rfl⟩
    rwa [String.toList_eq_nil_iff]

/-- Exactly the plain values are read as they were written. -/
theorem parse_escape_iff {value : String} :
    parse (escape value) = [[⟨value, false⟩]] ↔ IsPlain value := by
  constructor
  · intro h
    have hterm := isTerm_escapeChars h
    obtain ⟨hne, htrim, hhead⟩ := termOfChars?_escapeChars_iff.mp hterm.termOfChars?_eq
    constructor
    · exact hne
    · exact htrim
    · rw [← mem_escapeChars]
      exact hterm.no_bar
    · exact hhead
  · intro h
    have hterm := termOfChars?_escapeChars_iff.mpr ⟨h.ne_empty, h.trimmed, h.no_mark⟩
    have hbar : '|' ∉ escapeChars value.toList := by
      rw [mem_escapeChars]
      exact h.no_bar
    have hone : pieces orSeparator (escapeChars value.toList) = [escapeChars value.toList] :=
      pieces_of_not_mem List.mem_cons_self hbar
    have hterms : branchTerms (escapeChars value.toList) = [⟨value, false⟩] := by
      rw [branchTerms_eq_filterMap, pieces_escapeChars, List.filterMap_cons, hterm]
      rfl
    rw [parse, escape, String.toList_ofList, parseChars_eq_filter, hone, List.map_singleton,
      hterms]
    rfl

end TagQuery.MatchText
