import TagQuery.Proofs.Query.Narrowing
import TagQuery.Query.NormalForm

/-!
# The normal form says what the matchers say

The normal form is read off matchers, from which containers with a single child have
gone.  It is compared here with the alternatives of the match texts as they are read:
a query has a normal form unless the reserved marker stands in one of its texts, and
the conjunctions of the normal form are the ways to choose an alternative of every
category that has some.
-/

namespace TagQuery

/-! ## Choices -/

/-- Every way to take one item of each list; the last choice changes fastest. -/
def choices {α : Type} : List (List α) → List (List α)
  | [] => [[]]
  | options :: rest => options.flatMap fun first => (choices rest).map (first :: ·)

theorem exists_mem_choices {α : Type} {P : α → Prop} (lists : List (List α)) :
    (∃ chosen ∈ choices lists, ∀ x ∈ chosen, P x) ↔
      ∀ options ∈ lists, ∃ x ∈ options, P x := by
  induction lists with
  | nil => simp [choices]
  | cons options rest ih =>
      rw [List.forall_mem_cons, ← ih]
      simp only [choices, List.mem_flatMap, List.mem_map]
      constructor
      · rintro ⟨chosen, ⟨first, hfirst, others, hothers, rfl⟩, hall⟩
        rw [List.forall_mem_cons] at hall
        exact ⟨⟨first, hfirst, hall.1⟩, others, hothers, hall.2⟩
      · rintro ⟨⟨first, hfirst, hP⟩, others, hothers, hall⟩
        refine ⟨first :: others, ⟨first, hfirst, others, hothers, rfl⟩, ?_⟩
        exact List.forall_mem_cons.mpr ⟨hP, hall⟩

/-- A list can be translated unless one of its items is refused. -/
theorem mapM_refusing {α β : Type} (p : α → Prop) [DecidablePred p] (f : α → β)
    (l : List α) :
    l.mapM (fun x => if p x then none else some (f x)) =
      if ∃ x ∈ l, p x then none else some (l.map f) := by
  induction l with
  | nil => simp
  | cons x l ih =>
      rw [List.mapM_cons, ih]
      by_cases hx : p x
      · simp [hx]
      · by_cases hl : ∃ y ∈ l, p y
        · simp [hx, hl]
        · simp [hx, hl]

/-! ## What a normal form is made of -/

/-- A term of a match text, with its category. -/
def Term.inCategory (category : String) (term : Term) : SimpleTerm :=
  ⟨category, term.value, term.negated⟩

/-- The record has the value or something that the value holds as a group, or has
not if the term is negated. -/
def SimpleTerm.Holds (term : SimpleTerm) (groups : Hierarchy) (r : Record) : Prop :=
  if term.negated then ¬r.Holds groups term.category term.value
  else r.Holds groups term.category term.value

namespace MatchText

def MentionsMarker (text : String) : Prop :=
  ∃ terms ∈ parse text, ∃ t ∈ terms, t.value = noneMarker

instance (text : String) : Decidable (MentionsMarker text) :=
  inferInstanceAs (Decidable (∃ terms ∈ parse text, ∃ t ∈ terms, t.value = noneMarker))

/-- The alternatives of the text of a category. -/
def conjunctions (category text : String) : List (List SimpleTerm) :=
  (parse text).map (·.map (Term.inCategory category))

end MatchText

namespace SearchQuery

/-- The texts that ask for something, with their categories, in the order of these. -/
def asking (q : SearchQuery) : List (String × String) :=
  q.texts.toList.filter fun (_, text) => !(MatchText.parse text).isEmpty

def MentionsMarker (q : SearchQuery) : Prop :=
  ∃ category text : String,
    q.texts[category]? = some text ∧ MatchText.MentionsMarker text

/-- The ways to choose one alternative of every category that has some. -/
def conjunctions (q : SearchQuery) : List (List SimpleTerm) :=
  (choices (q.asking.map fun (category, text) =>
    MatchText.conjunctions category text)).map List.flatten

end SearchQuery

/-! ## Matchers of alternatives -/

namespace Matcher

variable {groups : Hierarchy} {category : String}

theorem simpleTerm?_ofTerm (term : Term) :
    simpleTerm? (ofTerm (expand groups category term)) =
      some (term.inCategory category) := by
  cases hnegated : term.negated with
  | true => simp [ofTerm, expand, hnegated, simpleTerm?, Term.inCategory]
  | false => simp [ofTerm, expand, hnegated, simpleTerm?, Term.inCategory]

theorem mapM_simpleTerm? (terms : List Term) :
    ((terms.map (expand groups category)).map ofTerm).mapM simpleTerm? =
      some (terms.map (Term.inCategory category)) := by
  induction terms with
  | nil => rfl
  | cons term terms ih =>
      simp only [List.map_cons, List.mapM_cons, simpleTerm?_ofTerm, ih]
      rfl

theorem conjunction?_ofTerm (term : Term) :
    (ofTerm (expand groups category term)).conjunction? =
        some [term.inCategory category] ∧
      (ofTerm (expand groups category term)).alternatives? =
        some [[term.inCategory category]] := by
  have hterm := @simpleTerm?_ofTerm groups category term
  cases hnegated : term.negated with
  | true => simp_all [ofTerm, expand, conjunction?, alternatives?]
  | false => simp_all [ofTerm, expand, conjunction?, alternatives?]

/-- Terms without the reserved marker make a conjunction. -/
theorem conjunction?_ofTerms {terms : List Term} (hne : terms ≠ []) :
    ∃ m, container? .and ((terms.map (expand groups category)).map ofTerm) = some m ∧
      m.conjunction? = some (terms.map (Term.inCategory category)) ∧
      m.alternatives? = some [terms.map (Term.inCategory category)] := by
  match terms with
  | [] => contradiction
  | [term] => exact ⟨_, rfl, conjunction?_ofTerm term⟩
  | first :: second :: rest =>
      have hall := @mapM_simpleTerm? groups category (first :: second :: rest)
      refine ⟨_, rfl, hall, ?_⟩
      rw [alternatives?]
      · exact congrArg (Option.map ([·])) hall
      · exact fun children h => Matcher.noConfusion h

/-- What an alternative with the reserved marker asks for is no conjunction. -/
theorem conjunction?_constraint (leaves : List ExactTerm) (negated : Bool) :
    let constraint := if leaves.isEmpty then Matcher.noTag category
      else .exact category leaves
    let m := if negated then Matcher.not constraint else constraint
    m.conjunction? = none ∧ m.alternatives? = none := by
  cases leaves with
  | nil =>
      cases negated with
      | true => exact ⟨rfl, rfl⟩
      | false => exact ⟨rfl, rfl⟩
  | cons leaf leaves =>
      cases negated with
      | true => exact ⟨rfl, rfl⟩
      | false => exact ⟨rfl, rfl⟩

theorem conjunction?_ofBranch? {terms : List Term} (hne : terms ≠ []) :
    ∃ m, ofBranch? groups category terms = some m ∧
      m.conjunction? = (if ∃ t ∈ terms, t.value = noneMarker then none
        else some (terms.map (Term.inCategory category))) ∧
      m.alternatives? = m.conjunction?.map ([·]) := by
  unfold ofBranch?
  dsimp only
  by_cases hmarker : ∃ t ∈ terms, t.value = noneMarker
  · have hmarkers : terms.filter (·.value = noneMarker) ≠ [] := by
      obtain ⟨t, ht, hvalue⟩ := hmarker
      exact List.ne_nil_of_mem (List.mem_filter.mpr ⟨ht, by simpa using hvalue⟩)
    obtain ⟨hconjunction, halternatives⟩ := @conjunction?_constraint category
      ((terms.filter (·.value ≠ noneMarker)).map (expand groups category))
      ((terms.filter (·.value = noneMarker)).any (·.negated))
    rw [if_neg (by simpa using hmarkers), if_pos hmarker]
    refine ⟨_, rfl, hconjunction, ?_⟩
    rw [hconjunction]
    exact halternatives
  · have hmarkers : terms.filter (·.value = noneMarker) = [] := by
      rw [List.filter_eq_nil_iff]
      exact fun t ht hvalue => hmarker ⟨t, ht, by simpa using hvalue⟩
    have hleaves : terms.filter (·.value ≠ noneMarker) = terms := by
      rw [List.filter_eq_self]
      exact fun t ht => by simpa using fun hvalue => hmarker ⟨t, ht, hvalue⟩
    obtain ⟨m, hm, hconjunction, halternatives⟩ :=
      @conjunction?_ofTerms groups category terms hne
    rw [hleaves, if_pos (by simpa using hmarkers), if_neg hmarker]
    exact ⟨m, hm, hconjunction, by rw [hconjunction, halternatives, Option.map_some]⟩

/-! ## Matchers of texts -/

/-- The matchers of alternatives, none of which is empty, are conjunctions as these are. -/
theorem mapM_conjunction? (branches : List (List Term))
    (hne : ∀ terms ∈ branches, terms ≠ []) :
    (∀ m ∈ branches.filterMap (ofBranch? groups category),
        m.alternatives? = m.conjunction?.map ([·])) ∧
      (branches.filterMap (ofBranch? groups category)).mapM conjunction? =
        branches.mapM fun terms =>
          if ∃ t ∈ terms, t.value = noneMarker then none
          else some (terms.map (Term.inCategory category)) := by
  induction branches with
  | nil => simp
  | cons terms branches ih =>
      rw [List.forall_mem_cons] at hne
      obtain ⟨m, hm, hconjunction, hsole⟩ := @conjunction?_ofBranch? groups category terms hne.1
      obtain ⟨hsoles, hrest⟩ := ih hne.2
      rw [List.filterMap_cons_some hm]
      constructor
      · exact List.forall_mem_cons.mpr ⟨hsole, hsoles⟩
      · rw [List.mapM_cons, List.mapM_cons, hconjunction, hrest]

/-- A container of several matchers lets choose among them; a sole one stands for itself. -/
theorem alternatives?_container {children : List Matcher} (hne : children ≠ [])
    (hsole : ∀ m ∈ children, m.alternatives? = m.conjunction?.map ([·])) :
    ∃ root, container? .or children = some root ∧
      root.alternatives? = children.mapM conjunction? := by
  match children with
  | [] => contradiction
  | [m] =>
      refine ⟨m, rfl, ?_⟩
      rw [hsole m List.mem_cons_self]
      cases h : m.conjunction? with
      | none => simp [h]
      | some conjunction => simp [h]
  | first :: second :: rest => exact ⟨_, rfl, rfl⟩

theorem alternatives?_ofText? {text : String} (hne : MatchText.parse text ≠ []) :
    ∃ root, ofText? groups category text = some root ∧
      root.alternatives? = if MatchText.MentionsMarker text then none
        else some (MatchText.conjunctions category text) := by
  have hbranches : ∀ terms ∈ MatchText.parse text, terms ≠ [] :=
    fun _ => MatchText.ne_nil_of_mem_parse
  obtain ⟨hsole, hall⟩ :=
    @mapM_conjunction? groups category (MatchText.parse text) hbranches
  have hchildren : (MatchText.parse text).filterMap (ofBranch? groups category) ≠ [] := by
    obtain ⟨terms, hterms⟩ := List.exists_mem_of_ne_nil _ hne
    obtain ⟨m, hm, -⟩ :=
      @conjunction?_ofBranch? groups category terms (hbranches terms hterms)
    exact List.ne_nil_of_mem (List.mem_filterMap.mpr ⟨terms, hterms, hm⟩)
  obtain ⟨root, hroot, halternatives⟩ := alternatives?_container hchildren hsole
  refine ⟨root, hroot, ?_⟩
  rw [halternatives, hall, mapM_refusing]
  rfl

end Matcher

/-! ## The product -/

theorem joinChoices_nil_left (right : List (List SimpleTerm)) :
    joinChoices [[]] right = right := by
  simp [joinChoices]

theorem joinChoices_nil_right (left : List (List SimpleTerm)) :
    joinChoices left [[]] = left := by
  simp [joinChoices]

theorem joinChoices_assoc (left middle right : List (List SimpleTerm)) :
    joinChoices (joinChoices left middle) right =
      joinChoices left (joinChoices middle right) := by
  simp only [joinChoices, List.flatMap_assoc, List.flatMap_map, List.map_flatMap,
    List.map_map, Function.comp_def, List.append_assoc]

theorem flatten_choices_cons (options : List (List SimpleTerm))
    (rest : List (List (List SimpleTerm))) :
    (choices (options :: rest)).map List.flatten =
      joinChoices options ((choices rest).map List.flatten) := by
  simp only [choices, joinChoices, List.map_flatMap, List.map_map, Function.comp_def,
    List.flatten_cons]

/-- Going through the matchers of texts multiplies out the alternatives of those that
ask for something. -/
theorem normalFormFrom_filterMap (groups : Hierarchy) (texts : List (String × String))
    (sofar : List (List SimpleTerm)) :
    normalFormFrom sofar
        (texts.filterMap fun (category, text) => Matcher.ofText? groups category text) =
      if ∃ entry ∈ texts, MatchText.MentionsMarker entry.2 then none
      else some (joinChoices sofar ((choices
        ((texts.filter fun (_, text) => !(MatchText.parse text).isEmpty).map
          fun (category, text) => MatchText.conjunctions category text)).map
            List.flatten)) := by
  induction texts generalizing sofar with
  | nil => simp [normalFormFrom, choices, joinChoices_nil_right]
  | cons entry texts ih =>
      obtain ⟨category, text⟩ := entry
      by_cases hasks : MatchText.parse text = []
      · -- A text that asks for nothing has neither a matcher nor alternatives.
        have hnone : Matcher.ofText? groups category text = none := by
          simp [Matcher.ofText?, Matcher.container?, hasks]
        have hmarker : ¬MatchText.MentionsMarker text := by
          simp [MatchText.MentionsMarker, hasks]
        rw [List.filter_cons_of_neg (by simp [hasks])]
        simp only [List.filterMap_cons, hnone, ih, List.exists_mem_cons_iff, hmarker,
          false_or]
      · obtain ⟨root, hroot, halternatives⟩ :=
          @Matcher.alternatives?_ofText? groups category text hasks
        rw [List.filter_cons_of_pos (by simp [hasks]), List.map_cons, flatten_choices_cons]
        simp only [List.filterMap_cons, hroot, normalFormFrom, halternatives,
          List.exists_mem_cons_iff]
        by_cases hmarker : MatchText.MentionsMarker text
        · simp [hmarker]
        · simp only [hmarker, if_false, Option.bind_eq_bind, Option.bind_some, ih,
            joinChoices_assoc, false_or]

/-! ## The normal form of a query -/

namespace SearchQuery

theorem asking_sorted (q : SearchQuery) : q.asking.Pairwise (·.1 < ·.1) := by
  refine List.Pairwise.filter _ (Std.ExtTreeMap.ordered_keys_toList.imp ?_)
  exact fun hcompare => compareOfLessAndEq_eq_lt.mp hcompare

theorem mem_asking (q : SearchQuery) {category text : String} :
    (category, text) ∈ q.asking ↔
      q.texts[category]? = some text ∧ MatchText.parse text ≠ [] := by
  rw [asking, List.mem_filter, Std.ExtTreeMap.mem_toList_iff_getElem?_eq_some]
  simp

theorem normalForm?_compile (q : SearchQuery) (store : RecordStore) (stamp : ℕ) :
    ((q.compile store stamp).normalForm? = none ↔ q.MentionsMarker) ∧
      (¬q.MentionsMarker → (q.compile store stamp).normalForm? = some q.conjunctions) := by
  have hform := normalFormFrom_filterMap store.hierarchy q.texts.toList [[]]
  rw [joinChoices_nil_left] at hform
  have hmarker : (∃ entry ∈ q.texts.toList, MatchText.MentionsMarker entry.2) ↔
      q.MentionsMarker := by
    simp only [Prod.exists, Std.ExtTreeMap.mem_toList_iff_getElem?_eq_some]
    rfl
  have hcompile : (q.compile store stamp).normalForm? =
      if ∃ entry ∈ q.texts.toList, MatchText.MentionsMarker entry.2 then none
      else some q.conjunctions := hform
  rw [hcompile, ← hmarker]
  constructor
  · split
    next h => exact iff_of_true rfl h
    next h => exact iff_of_false (Option.some_ne_none _) h
  · exact fun h => if_neg h

/-- Without the marker, the matchers accept what satisfies a conjunction. -/
theorem evalAll_roots_iff {q : SearchQuery} (hmarker : ¬q.MentionsMarker)
    (store : RecordStore) (stamp : ℕ) (r : Record) (notes : Notes) :
    (Matcher.evalAll r (q.compile store stamp).roots notes).1 = true ↔
      ∃ conjunction ∈ q.conjunctions, ∀ term ∈ conjunction,
        term.Holds store.hierarchy r := by
  have hbranch : ∀ category text : String, q.texts[category]? = some text →
      ∀ terms ∈ MatchText.parse text,
        (MatchText.BranchAccepts store.hierarchy category r terms ↔
          ∀ t ∈ terms, (t.inCategory category).Holds store.hierarchy r) := by
    intro category text htext terms hterms
    rw [MatchText.branchAccepts_iff_forall]
    · rfl
    · exact fun t ht hvalue => hmarker ⟨category, text, htext, terms, hterms, t, ht, hvalue⟩
  have hchosen : (∃ conjunction ∈ q.conjunctions, ∀ term ∈ conjunction,
        term.Holds store.hierarchy r) ↔
      ∀ category text : String, q.texts[category]? = some text →
        MatchText.parse text ≠ [] →
          ∃ conjunction ∈ MatchText.conjunctions category text,
            ∀ term ∈ conjunction, term.Holds store.hierarchy r := by
    have hflatten : ∀ chosen : List (List SimpleTerm),
        (∀ term ∈ chosen.flatten, term.Holds store.hierarchy r) ↔
          ∀ conjunction ∈ chosen, ∀ term ∈ conjunction, term.Holds store.hierarchy r :=
      fun chosen => List.forall_mem_flatten
    simp only [conjunctions, List.mem_map, exists_exists_and_eq_and, hflatten]
    rw [exists_mem_choices]
    simp only [List.forall_mem_map, Prod.forall, mem_asking, and_imp]
  rw [Matcher.evalAll_fst, hchosen, compile, Matcher.ofTexts, List.all_eq_true,
    List.forall_mem_filterMap, Prod.forall]
  refine forall₂_congr fun category text => ?_
  rw [← Option.all_eq_true, Matcher.all_accepts_ofText?,
    Std.ExtTreeMap.mem_toList_iff_getElem?_eq_some]
  refine forall_congr' fun htext => ?_
  rw [MatchText.Accepts, MatchText.conjunctions, or_iff_not_imp_left]
  simp only [exists_exists_and_eq_and, List.mem_map, forall_exists_index, and_imp,
    forall_apply_eq_imp_iff₂]
  refine imp_congr_right fun _ => exists_congr fun terms => and_congr_right fun hterms => ?_
  exact hbranch category text htext terms hterms

/-- A query has a normal form unless its texts mention the reserved marker.  It is the
product of the alternatives of all categories that have some, in the order of their
names, and all matchers accept a record exactly if one of its conjunctions holds. -/
theorem normalForm?_exact (q : SearchQuery) (store : RecordStore) (stamp : ℕ) :
    ((q.compile store stamp).normalForm? = none ↔ q.MentionsMarker) ∧
      (q.asking = [] → (q.compile store stamp).normalForm? = some [[]]) ∧
      q.asking.Pairwise (·.1 < ·.1) ∧
      ∀ forms, (q.compile store stamp).normalForm? = some forms →
        forms = (choices (q.asking.map fun (category, text) =>
            MatchText.conjunctions category text)).map List.flatten ∧
          ∀ (r : Record) (notes : Notes),
            (Matcher.evalAll r (q.compile store stamp).roots notes).1 = true ↔
              ∃ conjunction ∈ forms, ∀ term ∈ conjunction,
                term.Holds store.hierarchy r := by
  obtain ⟨hnone, hsome⟩ := normalForm?_compile q store stamp
  refine ⟨hnone, ?_, asking_sorted q, ?_⟩
  · intro hasking
    have hmarker : ¬q.MentionsMarker := by
      rintro ⟨category, text, htext, terms, hterms, -⟩
      have hmem := (mem_asking q).mpr ⟨htext, List.ne_nil_of_mem hterms⟩
      rw [hasking] at hmem
      contradiction
    rw [hsome hmarker, conjunctions, hasking]
    rfl
  · intro forms hforms
    have hmarker : ¬q.MentionsMarker := by
      rw [← hnone, hforms]
      exact Option.some_ne_none forms
    obtain rfl : q.conjunctions = forms := Option.some.inj ((hsome hmarker).symm.trans hforms)
    exact ⟨rfl, fun r notes => evalAll_roots_iff hmarker store stamp r notes⟩

end SearchQuery

end TagQuery
