import TagQuery.Proofs.MatchText.Splitting

/-!
# Joining a term to a match text

A term is joined to a text by writing an ampersand between two spaces and the term
behind it.  What is written there belongs to the last alternative and to no other, so
that the term is asked for beside all the rest only where there is nothing else than
the last alternative.  A text may also end in such a way that its end and the ampersand are
read as something else.  `Joins` says that neither is the case.
-/

namespace TagQuery.MatchText

open Text

variable {text more : List Char} {term : Term}

/-! ## The last alternative -/

/-- The terms of all alternatives but the last one. -/
def earlierBranches (text : List Char) : List (List Term) :=
  ((pieces orSeparator text).dropLast.map branchTerms).filter (!·.isEmpty)

/-- The terms behind the last bar. -/
def lastTerms (text : List Char) : List Term :=
  branchTerms (lastPiece orSeparator text)

theorem parseChars_eq_append (text : List Char) :
    parseChars text =
      earlierBranches text ++ [lastTerms text].filter (!·.isEmpty) := by
  rw [parseChars_eq_filter, pieces_eq_dropLast_append, List.map_append, List.filter_append]
  rfl

/-- A text whose end is not read together with what is joined to it. -/
def Complete (text : List Char) : Prop :=
  ¬[' ', '&'] <:+ lastPiece andSeparator (lastPiece orSeparator text)

instance : DecidablePred Complete :=
  fun text => inferInstanceAs
    (Decidable ¬[' ', '&'] <:+ lastPiece andSeparator (lastPiece orSeparator text))

/-- A text that can be written as a term, alone or behind an ampersand. -/
structure IsTerm (text : List Char) (term : Term) : Prop where
  no_bar : '|' ∉ text
  whole : pieces andSeparator text = [text]
  complete : ¬[' ', '&'] <:+ text
  termOfChars?_eq : termOfChars? text = some term

/-- The pieces of two texts that are joined are those of both, if the ampersand is not
taken for another one. -/
theorem pieces_join (hcomplete : ¬[' ', '&'] <:+ lastPiece andSeparator text) :
    pieces andSeparator (text ++ (andSeparator ++ more)) =
      pieces andSeparator text ++ pieces andSeparator more := by
  have hne : andSeparator ≠ [] := List.cons_ne_nil _ _
  induction text using pieces_induction hne with
  | hnil => exact pieces_separator_append hne more
  | hseparator text ih =>
      rw [lastPiece_separator_append hne] at hcomplete
      rw [List.append_assoc, pieces_separator_append hne, pieces_separator_append hne,
        ih hcomplete, List.cons_append]
  | hcons c text hprefix ih =>
      have hlast := lastPiece_suffix_lastPiece_cons hprefix
      have hjoined := ih fun hsuffix => hcomplete (hsuffix.trans hlast)
      -- Only a space and an ampersand at the end are completed by the space that follows.
      have hno : ¬andSeparator <+: c :: (text ++ (andSeparator ++ more)) := by
        intro h
        obtain ⟨rfl, hrest⟩ := List.cons_prefix_cons.mp h
        cases text with
        | nil => exact absurd (List.cons_prefix_cons.mp hrest).1 (by decide)
        | cons d text =>
            obtain ⟨rfl, hsecond⟩ := List.cons_prefix_cons.mp hrest
            cases text with
            | nil => exact hcomplete (List.suffix_refl _)
            | cons e text =>
                obtain ⟨rfl, -⟩ := List.cons_prefix_cons.mp hsecond
                exact hprefix (List.prefix_append andSeparator text)
      obtain ⟨piece, others, hpieces, hcons⟩ := exists_pieces_cons hprefix
      obtain ⟨piece', others', hpieces', hcons'⟩ := exists_pieces_cons hno
      rw [hjoined, hpieces, List.cons_append] at hpieces'
      obtain ⟨rfl, rfl⟩ := List.cons.inj hpieces'
      rw [List.cons_append, hcons, hcons', List.cons_append]

/-! ## Joined terms -/

theorem IsTerm.bar_not_mem_join (h : IsTerm more term) : '|' ∉ andSeparator ++ more := by
  rw [List.mem_append, not_or]
  exact ⟨by decide, h.no_bar⟩

theorem lastPiece_join (hterm : IsTerm more term) (text : List Char) :
    lastPiece orSeparator (text ++ (andSeparator ++ more)) =
      lastPiece orSeparator text ++ (andSeparator ++ more) :=
  lastPiece_append_of_not_mem hterm.bar_not_mem_join text

/-- The last alternative gets the term that is joined. -/
theorem lastTerms_join (hcomplete : Complete text) (hterm : IsTerm more term) :
    lastTerms (text ++ (andSeparator ++ more)) = lastTerms text ++ [term] := by
  rw [lastTerms, lastPiece_join hterm, branchTerms_eq_filterMap, pieces_join hcomplete,
    List.filterMap_append, ← branchTerms_eq_filterMap, hterm.whole]
  simp only [List.filterMap_cons, List.filterMap_nil, hterm.termOfChars?_eq]
  rfl

theorem earlierBranches_join (hterm : IsTerm more term) (text : List Char) :
    earlierBranches (text ++ (andSeparator ++ more)) = earlierBranches text := by
  rw [earlierBranches, orSeparator, pieces_append_of_not_mem hterm.bar_not_mem_join,
    List.dropLast_concat]
  rfl

theorem parseChars_join (hcomplete : Complete text) (hterm : IsTerm more term) :
    parseChars (text ++ (andSeparator ++ more)) =
      earlierBranches text ++ [lastTerms text ++ [term]] := by
  rw [parseChars_eq_append, earlierBranches_join hterm, lastTerms_join hcomplete hterm]
  simp

/-- More can be joined behind a joined term. -/
theorem complete_join (hcomplete : Complete text) (hterm : IsTerm more term) :
    Complete (text ++ (andSeparator ++ more)) := by
  have hpieces : pieces andSeparator (lastPiece orSeparator (text ++ (andSeparator ++ more))) =
      pieces andSeparator (lastPiece orSeparator text) ++ [more] := by
    rw [lastPiece_join hterm, pieces_join hcomplete, hterm.whole]
  rw [Complete, lastPiece_eq_of_pieces hpieces]
  exact hterm.complete

/-! ## Texts of one alternative -/

/-- A text to which terms can be joined: all of its terms are behind the last bar, and
its end stands for itself. -/
structure Joins (text : List Char) : Prop where
  single : earlierBranches text = []
  complete : Complete text

instance : DecidablePred Joins := fun text =>
  decidable_of_iff (earlierBranches text = [] ∧ Complete text)
    ⟨fun h => ⟨h.1, h.2⟩, fun h => ⟨h.single, h.complete⟩⟩

/-- A joined term is asked for beside all others. -/
theorem Joins.parseChars_join (h : Joins text) (hterm : IsTerm more term) :
    parseChars (text ++ (andSeparator ++ more)) = [(parseChars text).flatten ++ [term]] := by
  have hflatten : (parseChars text).flatten = lastTerms text := by
    rw [parseChars_eq_append, h.single, List.nil_append]
    cases lastTerms text with
    | nil => rfl
    | cons first terms => simp
  rw [MatchText.parseChars_join h.complete hterm, h.single, hflatten, List.nil_append]

theorem Joins.join (h : Joins text) (hterm : IsTerm more term) :
    Joins (text ++ (andSeparator ++ more)) where
  single := by
    rw [earlierBranches_join hterm]
    exact h.single
  complete := complete_join h.complete hterm

/-- A text that no separator cuts is one alternative of one term at most. -/
theorem joins_of_whole (hbar : '|' ∉ text) (hwhole : pieces andSeparator text = [text])
    (hend : ¬[' ', '&'] <:+ text) : Joins text := by
  have hpieces : pieces orSeparator text = [text] :=
    pieces_of_not_mem List.mem_cons_self hbar
  constructor
  · rw [earlierBranches, hpieces]
    rfl
  · simp only [Complete, lastPiece, hpieces, hwhole, List.getLast_singleton]
    exact hend

theorem IsTerm.joins (h : IsTerm text term) : Joins text :=
  joins_of_whole h.no_bar h.whole h.complete

theorem Joins.parseChars_cases (h : Joins text) :
    parseChars text = [] ∨ parseChars text = [(parseChars text).flatten] := by
  rw [parseChars_eq_append, h.single, List.nil_append]
  cases lastTerms text with
  | nil => exact Or.inl rfl
  | cons first terms => exact Or.inr (by simp)

theorem joins_of_isBlankText {text : String} (h : isBlankText text = true) :
    Joins text.toList := by
  have hblank : ∀ c ∈ text.toList, isBlank c = true := by
    simpa [isBlankText] using h
  have hbar : '|' ∉ text.toList := by
    intro hmem
    exact absurd (hblank _ hmem) (by decide)
  have hampersand : '&' ∉ text.toList := by
    intro hmem
    exact absurd (hblank _ hmem) (by decide)
  apply joins_of_whole hbar
  · exact pieces_of_not_mem (c := '&') (by decide) hampersand
  · intro hsuffix
    exact hampersand (hsuffix.subset (by decide))

/-! ## Escaped values -/

theorem escapeChars_cons (c : Char) (value : List Char) :
    escapeChars (c :: value) = (if c == '&' then ['&', '&'] else [c]) ++ escapeChars value :=
  List.flatMap_cons

theorem mem_escapeChars {value : List Char} {c : Char} :
    c ∈ escapeChars value ↔ c ∈ value := by
  induction value with
  | nil => exact Iff.rfl
  | cons d value ih =>
      rw [escapeChars_cons, List.mem_append, ih, List.mem_cons]
      by_cases hd : d = '&'
      · simp [hd]
      · simp [hd]

/-- An ampersand at the front of an escaped value is followed by another one. -/
theorem not_prefix_escapeChars (value : List Char) : ¬['&', ' '] <+: escapeChars value := by
  intro h
  cases value with
  | nil => exact absurd h.length_le (by decide)
  | cons c value =>
      rw [escapeChars_cons] at h
      by_cases hc : c = '&'
      · rw [if_pos (by simpa using hc)] at h
        have hrest := (List.cons_prefix_cons.mp h).2
        exact absurd (List.cons_prefix_cons.mp hrest).1 (by decide)
      · rw [if_neg (by simpa using hc)] at h
        exact hc (List.cons_prefix_cons.mp h).1.symm

theorem pieces_escapeChars (value : List Char) :
    pieces andSeparator (escapeChars value) = [escapeChars value] := by
  have hampersand : ∀ rest : List Char, ¬andSeparator <+: '&' :: rest := by
    intro rest h
    exact absurd (List.cons_prefix_cons.mp h).1 (by decide)
  induction value with
  | nil => rfl
  | cons c value ih =>
      rw [escapeChars_cons]
      by_cases hc : c = '&'
      · rw [if_pos (by simpa using hc)]
        have hone := pieces_cons_of_whole (hampersand _) ih
        exact pieces_cons_of_whole (hampersand _) hone
      · rw [if_neg (by simpa using hc)]
        apply pieces_cons_of_whole _ ih
        intro h
        exact not_prefix_escapeChars value (List.cons_prefix_cons.mp h).2

/-- An escaped value does not end in a single ampersand. -/
theorem complete_escapeChars (value : List Char) : ¬[' ', '&'] <:+ escapeChars value := by
  rintro ⟨before, hbefore⟩
  rcases List.eq_nil_or_concat value with rfl | ⟨front, c, rfl⟩
  · exact absurd (congrArg List.length hbefore) (by simp [escapeChars])
  · have hend : escapeChars (front.concat c) =
        escapeChars front ++ (if c == '&' then ['&', '&'] else [c]) := by
      rw [List.concat_eq_append, escapeChars, List.flatMap_append, List.flatMap_singleton]
      rfl
    by_cases hc : c = '&'
    · rw [hend, if_pos (by simpa using hc)] at hbefore
      exact absurd (List.append_inj' hbefore rfl).2 (by decide)
    · have hsingle : before ++ [' '] ++ ['&'] = escapeChars front ++ [c] := by
        rw [hend, if_neg (by simpa using hc)] at hbefore
        rw [List.append_assoc]
        exact hbefore
      exact hc (List.cons.inj (List.append_inj' hsingle rfl).2).1.symm

/-! ## Values of terms -/

theorem mem_of_mem_unescapeChars {value : List Char} {c : Char}
    (h : c ∈ unescapeChars value) : c ∈ value := by
  induction value using unescapeChars.induct with
  | case1 rest ih =>
      rw [unescapeChars] at h
      rcases List.mem_cons.mp h with rfl | h
      · exact List.mem_cons_self
      · exact List.mem_cons_of_mem _ (List.mem_cons_of_mem _ (ih h))
  | case2 d rest hno ih =>
      rw [unescapeChars] at h
      · rcases List.mem_cons.mp h with rfl | h
        · exact List.mem_cons_self
        · exact List.mem_cons_of_mem _ (ih h)
      · exact hno
  | case3 => exact h

theorem mem_of_mem_trim {c : Char} (h : c ∈ trim text) : c ∈ text := by
  rw [trim, trimEnd, List.mem_reverse] at h
  have hstart := List.mem_reverse.mp (List.dropWhile_subset _ h)
  exact List.dropWhile_subset _ hstart

theorem mem_of_mem_stripNegation {c : Char} (h : c ∈ (stripNegation text).2) :
    c ∈ text := by
  refine List.dropWhile_subset isMargin ?_
  unfold stripNegation at h
  split at h
  next rest hdrop =>
    rw [hdrop]
    exact List.mem_cons_of_mem _ h
  next => exact h

theorem mem_of_mem_value (h : termOfChars? text = some term) {c : Char}
    (hc : c ∈ term.value.toList) : c ∈ text := by
  unfold termOfChars? at h
  dsimp only at h
  split at h
  next => contradiction
  next =>
    cases h
    rw [String.toList_ofList] at hc
    exact mem_of_mem_stripNegation (mem_of_mem_trim (mem_of_mem_unescapeChars hc))

/-- No value holds a bar. -/
theorem bar_not_mem_value {terms : List Term} (hterms : terms ∈ parseChars text)
    (hterm : term ∈ terms) : '|' ∉ term.value.toList := by
  rw [parseChars_eq_filter] at hterms
  obtain ⟨branch, hbranch, rfl⟩ := List.mem_map.mp (List.mem_filter.mp hterms).1
  rw [branchTerms_eq_filterMap] at hterm
  obtain ⟨piece, hpiece, hvalue⟩ := List.mem_filterMap.mp hterm
  intro hbar
  exact not_mem_of_mem_pieces hbranch
    (mem_of_mem_pieces (by decide) hpiece (mem_of_mem_value hvalue hbar))

/-- An escaped value that is read as itself can be joined. -/
theorem isTerm_escapeChars {value : String}
    (h : parse (escape value) = [[⟨value, false⟩]]) :
    IsTerm (escapeChars value.toList) ⟨value, false⟩ := by
  rw [parse, escape, String.toList_ofList] at h
  have hmem : [⟨value, false⟩] ∈ parseChars (escapeChars value.toList) := by
    rw [h]
    exact List.mem_cons_self
  have hbar : '|' ∉ escapeChars value.toList := by
    rw [mem_escapeChars]
    exact bar_not_mem_value hmem List.mem_cons_self
  refine ⟨hbar, pieces_escapeChars _, complete_escapeChars _, ?_⟩
  have hone : pieces orSeparator (escapeChars value.toList) =
      [escapeChars value.toList] :=
    pieces_of_not_mem List.mem_cons_self hbar
  have hbranch : [⟨value, false⟩] ∈
      (pieces orSeparator (escapeChars value.toList)).map branchTerms := by
    refine List.mem_of_mem_filter (p := (!·.isEmpty)) ?_
    rw [← parseChars_eq_filter]
    exact hmem
  rw [hone, List.map_singleton, List.mem_singleton, branchTerms_eq_filterMap,
    pieces_escapeChars] at hbranch
  cases hterm : termOfChars? (escapeChars value.toList) with
  | none => simp [hterm] at hbranch
  | some term =>
      simp only [List.filterMap_cons, hterm, List.filterMap_nil, List.cons.injEq,
        and_true] at hbranch
      rw [hbranch]

theorem isTerm_noneMarker : IsTerm noneMarker.toList ⟨noneMarker, false⟩ where
  no_bar := by decide
  whole := pieces_of_not_mem (c := '&') (by decide) (by decide)
  complete := by decide
  termOfChars?_eq := by decide

end TagQuery.MatchText
