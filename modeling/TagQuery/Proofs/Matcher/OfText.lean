import TagQuery.Matcher.OfText
import TagQuery.Proofs.Matcher.Evaluation

/-!
# Match text keeps its meaning

What a match text means for a record is stated on its alternatives as they are
read, without matchers: `Term.Holds` for a term, `MatchText.Exactly` for the reserved
marker and `MatchText.BranchAccepts` for an alternative.  The matcher of the text
accepts a record if one of the alternatives does.
-/

namespace TagQuery

/-! ## The meaning of alternatives -/

/-- The record has the value or something that the value holds as a group. -/
def Record.Holds (r : Record) (groups : Hierarchy) (category value : String) : Prop :=
  value ∈ r.tagsOf category ∨
    ∃ member ∈ groups.membersOf category value, member ∈ r.tagsOf category

/-- The record holds the value of the term, or does not if the term is negated. -/
def Term.Holds (term : Term) (groups : Hierarchy) (category : String) (r : Record) :
    Prop :=
  if term.negated then ¬r.Holds groups category term.value
  else r.Holds groups category term.value

namespace MatchText

/-- The terms hold and their values are all that the record has in the category;
without any term, the record has nothing there. -/
def Exactly (groups : Hierarchy) (category : String) (r : Record) (wanted : List Term) :
    Prop :=
  if wanted = [] then ∀ tag, tag ∉ r.tagsOf category
  else
    (∀ t ∈ wanted, t.Holds groups category r) ∧
      ∀ tag ∈ r.tagsOf category, ∃ t ∈ wanted, t.value = tag

/-- An alternative accepts a record.  The reserved marker asks for the values of
the other terms and no more, and negates all of that if it is negated once. -/
def BranchAccepts (groups : Hierarchy) (category : String) (r : Record)
    (terms : List Term) : Prop :=
  let wanted := terms.filter (·.value ≠ noneMarker)
  let markers := terms.filter (·.value = noneMarker)
  if markers = [] then ∀ t ∈ wanted, t.Holds groups category r
  else if ∃ marker ∈ markers, marker.negated = true then
    ¬Exactly groups category r wanted
  else Exactly groups category r wanted

variable {groups : Hierarchy} {category : String} {r : Record} {terms : List Term}

theorem Exactly.holds (h : Exactly groups category r terms) :
    ∀ t ∈ terms, t.Holds groups category r := by
  unfold Exactly at h
  split at h
  next hnil =>
    subst hnil
    exact fun t ht => absurd ht List.not_mem_nil
  next => exact h.1

/-- A marker that is not negated asks for the values of the other terms and no more. -/
theorem branchAccepts_of_marker (hmarker : terms.filter (·.value = noneMarker) ≠ [])
    (hplain : ∀ t ∈ terms, t.value = noneMarker → t.negated = false) :
    BranchAccepts groups category r terms ↔
      Exactly groups category r (terms.filter (·.value ≠ noneMarker)) := by
  have hnone : ¬∃ marker ∈ terms.filter (·.value = noneMarker), marker.negated = true := by
    rintro ⟨marker, hmem, hnegated⟩
    rw [List.mem_filter, decide_eq_true_eq] at hmem
    rw [hplain marker hmem.1 hmem.2] at hnegated
    contradiction
  simp only [BranchAccepts, if_neg hmarker, if_neg hnone]

/-- Terms beside markers that are not negated hold in every record that is accepted. -/
theorem BranchAccepts.holds (h : BranchAccepts groups category r terms)
    (hplain : ∀ t ∈ terms, t.value = noneMarker → t.negated = false) :
    ∀ t ∈ terms.filter (·.value ≠ noneMarker), t.Holds groups category r := by
  by_cases hmarker : terms.filter (·.value = noneMarker) = []
  · simp only [BranchAccepts, if_pos hmarker] at h
    exact h
  · exact ((branchAccepts_of_marker hmarker hplain).mp h).holds

/-- No alternative is empty. -/
theorem ne_nil_of_mem_parse {text : String} {terms : List Term} (h : terms ∈ parse text) :
    terms ≠ [] := by
  obtain ⟨-, hne⟩ := List.mem_filter.mp h
  simpa using hne

end MatchText

/-! ## Matchers of alternatives -/

namespace Matcher

variable {groups : Hierarchy} {category : String} {r : Record}

theorem holds_expand (term : Term) :
    (expand groups category term).holds r = true ↔ term.Holds groups category r := by
  have hvalue : (expand groups category term).value.accepts r = true ↔
      r.Holds groups category term.value :=
    ValueMatcher.accepts_iff
  rw [ExactTerm.holds, Term.Holds, ← hvalue]
  cases hnegated : term.negated with
  | true => simp [expand, hnegated]
  | false => simp [expand, hnegated]

theorem forall_holds_expand (terms : List Term) :
    (∀ t ∈ terms.map (expand groups category), t.holds r = true) ↔
      ∀ t ∈ terms, t.Holds groups category r := by
  rw [List.forall_mem_map]
  exact forall₂_congr fun t _ => holds_expand t

theorem accepts_ofTerm (term : ExactTerm) : (ofTerm term).accepts r = term.holds r := by
  unfold ofTerm ExactTerm.holds
  cases term.negated with
  | true => simp [accepts, eval, ValueMatcher.eval]
  | false => simp [accepts, eval, ValueMatcher.eval]

theorem container?_eq_none_iff {make : List Matcher → Matcher} {children : List Matcher} :
    container? make children = none ↔ children = [] := by
  unfold container?
  split <;> simp_all

theorem accepts_container_and {children : List Matcher} (hne : children ≠ []) :
    ∃ m, container? .and children = some m ∧
      m.accepts r = children.all (·.accepts r) := by
  unfold container?
  split
  next => contradiction
  next child => exact ⟨child, rfl, by simp⟩
  next => exact ⟨_, rfl, accepts_and _⟩

theorem accepts_container_or (children : List Matcher) :
    (container? .or children).any (·.accepts r) = children.any (·.accepts r) := by
  unfold container?
  split
  next => rfl
  next child => simp
  next => exact accepts_or _

/-- The matcher of the terms beside a marker. -/
theorem accepts_constraint (wanted : List Term) :
    (if (wanted.map (expand groups category)).isEmpty then Matcher.noTag category
      else .exact category (wanted.map (expand groups category))).accepts r = true ↔
      MatchText.Exactly groups category r wanted := by
  cases wanted with
  | nil =>
      simp only [List.map_nil, List.isEmpty_nil, if_true, accepts, eval,
        MatchText.Exactly]
      exact TagSet.isEmpty_iff
  | cons term terms =>
      have hexact := @exactAccepts_iff category
        ((term :: terms).map (expand groups category)) r (by simp) (by simp [expand])
      simp only [List.map_cons, List.isEmpty_cons, if_neg Bool.false_ne_true, accepts, eval]
      rw [MatchText.Exactly, if_neg (List.cons_ne_nil term terms), ← forall_holds_expand]
      simp only [← List.map_cons, hexact]
      refine and_congr_right fun _ => forall₂_congr fun tag _ => ?_
      simp only [List.mem_map, exists_exists_and_eq_and]
      rfl

/-- An alternative that is not empty has a matcher, which accepts what it accepts. -/
theorem accepts_ofBranch? {terms : List Term} (hne : terms ≠ []) :
    ∃ m, ofBranch? groups category terms = some m ∧
      (m.accepts r = true ↔ MatchText.BranchAccepts groups category r terms) := by
  unfold ofBranch? MatchText.BranchAccepts
  dsimp only
  by_cases hmarkers : terms.filter (·.value = noneMarker) = []
  · have hwanted : terms.filter (·.value ≠ noneMarker) = terms := by
      rw [List.filter_eq_nil_iff] at hmarkers
      rw [List.filter_eq_self]
      intro t ht
      simpa using hmarkers t ht
    have hleaves : (terms.map (expand groups category)).map ofTerm ≠ [] := by
      simpa using hne
    obtain ⟨m, hm, haccepts⟩ := accepts_container_and (r := r) hleaves
    rw [hwanted, if_pos (by simpa using hmarkers), if_pos hmarkers, ← forall_holds_expand]
    refine ⟨m, hm, ?_⟩
    rw [haccepts, List.all_map, List.all_eq_true]
    simp only [Function.comp_apply, accepts_ofTerm]
  · rw [if_neg (by simpa using hmarkers), if_neg hmarkers]
    refine ⟨_, rfl, ?_⟩
    have hconstraint := @accepts_constraint groups category r
      (terms.filter (·.value ≠ noneMarker))
    by_cases hnegated : ∃ marker ∈ terms.filter (·.value = noneMarker),
        marker.negated = true
    · rw [if_pos (List.any_eq_true.mpr hnegated), if_pos hnegated, accepts_not,
        ← hconstraint, Bool.not_eq_true', Bool.not_eq_true]
    · rw [if_neg (fun h => hnegated (List.any_eq_true.mp h)), if_neg hnegated]
      exact hconstraint

/-! ## The matcher of a text -/

/-- There is a matcher exactly if the text has an alternative, and it accepts the
records that one of the alternatives accepts. -/
theorem accepts_iff_exists_branch (groups : Hierarchy) (category text : String) (r : Record) :
    (ofText? groups category text = none ↔ MatchText.parse text = []) ∧
      ((ofText? groups category text).any (·.accepts r) = true ↔
        ∃ terms ∈ MatchText.parse text,
          MatchText.BranchAccepts groups category r terms) := by
  have hbranch : ∀ terms ∈ MatchText.parse text,
      ∃ m, ofBranch? groups category terms = some m ∧
        (m.accepts r = true ↔ MatchText.BranchAccepts groups category r terms) :=
    fun terms hterms => accepts_ofBranch? (MatchText.ne_nil_of_mem_parse hterms)
  constructor
  · rw [ofText?, container?_eq_none_iff, List.filterMap_eq_nil_iff]
    constructor
    · intro hnone
      refine List.eq_nil_iff_forall_not_mem.mpr fun terms hterms => ?_
      obtain ⟨m, hm, -⟩ := hbranch terms hterms
      rw [hnone terms hterms] at hm
      contradiction
    · intro hnil
      simp [hnil]
  · rw [ofText?, accepts_container_or, List.any_eq_true]
    constructor
    · rintro ⟨m, hm, haccepts⟩
      obtain ⟨terms, hterms, hsome⟩ := List.mem_filterMap.mp hm
      obtain ⟨m', hm', hiff⟩ := hbranch terms hterms
      rw [hsome] at hm'
      cases hm'
      exact ⟨terms, hterms, hiff.mp haccepts⟩
    · rintro ⟨terms, hterms, haccepts⟩
      obtain ⟨m, hm, hiff⟩ := hbranch terms hterms
      exact ⟨m, List.mem_filterMap.mpr ⟨terms, hterms, hm⟩, hiff.mpr haccepts⟩

end Matcher

end TagQuery
