import TagQuery.Proofs.Matcher.OfText
import TagQuery.Proofs.Query.Matching

/-!
# What a query asks of each category

A query accepts a record if its filters do and the match text of every category does.
What is asked of one category can therefore be looked at apart from the rest, which
stays as it is when only the text of that category changes.
-/

namespace TagQuery

/-! ## Match texts -/

/-- A text asks for nothing, or one of its alternatives accepts the record. -/
def MatchText.Accepts (groups : Hierarchy) (category text : String) (r : Record) : Prop :=
  parse text = [] ∨ ∃ terms ∈ parse text, BranchAccepts groups category r terms

namespace Matcher

variable {groups : Hierarchy} {category : String} {r : Record}

/-- The matchers of alternatives, none of which is empty, accept what these accept. -/
theorem accepts_branches (branches : List (List Term)) (hne : ∀ terms ∈ branches, terms ≠ []) :
    (branches.filterMap (ofBranch? groups category) = [] ↔ branches = []) ∧
      ((branches.filterMap (ofBranch? groups category)).any (·.accepts r) = true ↔
        ∃ terms ∈ branches, MatchText.BranchAccepts groups category r terms) := by
  induction branches with
  | nil => simp
  | cons terms branches ih =>
      rw [List.forall_mem_cons] at hne
      obtain ⟨m, hm, haccepts⟩ := accepts_ofBranch? (r := r) hne.1
      rw [List.filterMap_cons_some hm]
      constructor
      · simp
      · rw [List.any_cons, Bool.or_eq_true, haccepts, (ih hne.2).2,
          List.exists_mem_cons_iff]

theorem all_accepts_ofText? (text : String) :
    (ofText? groups category text).all (·.accepts r) = true ↔
      MatchText.Accepts groups category text r := by
  obtain ⟨hnone, hany⟩ := @accepts_branches groups category r (MatchText.parse text)
    fun _ => MatchText.ne_nil_of_mem_parse
  rw [MatchText.Accepts, ← hnone, ← hany, ← accepts_container_or, ofText?,
    ← @container?_eq_none_iff Matcher.or]
  cases container? .or ((MatchText.parse text).filterMap (ofBranch? groups category)) with
  | none => simp
  | some m => simp

end Matcher

/-! ## Queries -/

/-- The filters accept a record; the free text may also be found among the values that
a store knows. -/
def Filters.accept (f : Filters) (store : RecordStore) (r : Record) : Bool :=
  f.acceptsBefore r && f.acceptsAfter r &&
    (f.freeform.isNone || f.freeformHits r ||
      (f.freeform.map (Wildcard.ofPattern · store)).any (·.accepts r))

namespace SearchQuery

variable {q q' : SearchQuery} {store : RecordStore} {category : String} {r : Record}

theorem evaluate_compile_iff (q : SearchQuery) (store : RecordStore) (stamp : ℕ)
    (r : Record) :
    (q.compile store stamp).evaluate r = true ↔
      q.filters.accept store r = true ∧ ∀ category text : String,
        q.texts[category]? = some text →
          MatchText.Accepts store.hierarchy category text r := by
  have hroots : (Matcher.ofTexts store.hierarchy q.texts).all (·.accepts r) = true ↔
      ∀ category text : String, q.texts[category]? = some text →
        MatchText.Accepts store.hierarchy category text r := by
    rw [Matcher.ofTexts, List.all_eq_true, List.forall_mem_filterMap, Prod.forall]
    refine forall₂_congr fun category text => ?_
    rw [← Matcher.all_accepts_ofText?, Option.all_eq_true,
      Std.ExtTreeMap.mem_toList_iff_getElem?_eq_some]
  rw [CompiledQuery.evaluate, Matcher.evalAll_fst, ← hroots, Filters.accept]
  simp only [compile, Bool.and_eq_true]
  constructor
  · rintro ⟨⟨⟨hbefore, hroots⟩, hafter⟩, hfreeform⟩
    exact ⟨⟨⟨hbefore, hafter⟩, hfreeform⟩, hroots⟩
  · rintro ⟨⟨⟨hbefore, hafter⟩, hfreeform⟩, hroots⟩
    exact ⟨⟨⟨hbefore, hroots⟩, hafter⟩, hfreeform⟩

theorem getElem?_setText (texts : TextTable) (category value other : String) :
    (setText texts category value)[other]? =
      if category = other then
        if Text.isBlankText value then none else some value
      else texts[other]? := by
  unfold setText
  split
  next => simp only [Std.ExtTreeMap.getElem?_erase, Std.LawfulEqCmp.compare_eq_iff_eq]
  next => simp only [Std.ExtTreeMap.getElem?_insert, Std.LawfulEqCmp.compare_eq_iff_eq]

/-- The record satisfies what the query asks beside the text of a category. -/
def AcceptsBeside (q : SearchQuery) (category : String) (store : RecordStore) (r : Record) :
    Prop :=
  q.filters.accept store r = true ∧ ∀ other text : String, other ≠ category →
    q.texts[other]? = some text → MatchText.Accepts store.hierarchy other text r

theorem evaluate_iff_beside (q : SearchQuery) (category : String) (store : RecordStore)
    (stamp : ℕ) (r : Record) :
    (q.compile store stamp).evaluate r = true ↔
      q.AcceptsBeside category store r ∧ ∀ text, q.texts[category]? = some text →
        MatchText.Accepts store.hierarchy category text r := by
  rw [evaluate_compile_iff, AcceptsBeside, and_assoc]
  refine and_congr_right fun _ => ?_
  constructor
  · intro h
    exact ⟨fun other text _ => h other text, h category⟩
  · rintro ⟨hothers, hcategory⟩ other text
    by_cases hother : other = category
    · rw [hother]
      exact hcategory text
    · exact hothers other text hother

/-- The text of a category is not looked at beside it. -/
theorem acceptsBeside_congr (hfilters : q'.filters = q.filters)
    (htexts : ∀ other, other ≠ category → q'.texts[other]? = q.texts[other]?) :
    q'.AcceptsBeside category store r ↔ q.AcceptsBeside category store r := by
  unfold AcceptsBeside
  rw [hfilters]
  refine and_congr_right fun _ => forall₃_congr fun other _ hother => ?_
  rw [htexts other hother]

/-- A query with another text for a category still asks all that it asks beside. -/
theorem evaluate_insert (category text : String) (store : RecordStore) (stamp : ℕ)
    (r : Record) (hfilters : q'.filters = q.filters)
    (htexts : q'.texts = q.texts.insert category text) :
    (q'.compile store stamp).evaluate r = true ↔
      q.AcceptsBeside category store r ∧
        MatchText.Accepts store.hierarchy category text r := by
  rw [evaluate_iff_beside q' category, acceptsBeside_congr (q := q) hfilters, htexts]
  · simp
  · intro other hother
    rw [htexts, Std.ExtTreeMap.getElem?_insert, if_neg]
    rw [Std.LawfulEqCmp.compare_eq_iff_eq]
    exact Ne.symm hother

/-- The same for a text that is set, which is left out if it is blank. -/
theorem evaluate_setText (category text : String) (store : RecordStore) (stamp : ℕ)
    (r : Record) (hfilters : q'.filters = q.filters)
    (htexts : q'.texts = setText q.texts category text) :
    (q'.compile store stamp).evaluate r = true ↔
      q.AcceptsBeside category store r ∧
        MatchText.Accepts store.hierarchy category text r := by
  rw [evaluate_iff_beside q' category, acceptsBeside_congr (q := q) hfilters]
  · refine and_congr_right fun _ => ?_
    rw [htexts, getElem?_setText, if_pos rfl]
    cases hblank : Text.isBlankText text with
    | true => exact iff_of_true nofun (Or.inl (MatchText.parse_of_isBlankText hblank))
    | false => simp
  · intro other hother
    rw [htexts, getElem?_setText, if_neg (Ne.symm hother)]

end SearchQuery

end TagQuery
