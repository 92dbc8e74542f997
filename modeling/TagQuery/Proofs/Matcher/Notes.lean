import TagQuery.Proofs.Matcher.Evaluation
import TagQuery.Query.Compiled

/-!
# Answers apart from notes

One set of notes goes through a whole evaluation, past every child that is asked, and the
children behind the first one that settles the matter are not asked.  Which leaves are come
by is therefore a matter of the record and of the order of the children, and so are the
notes.  The answer is not: it is worked out from the tags of the record alone.

An evaluation is taken apart into these two, the answer and the leaves it comes by, neither
of which looks at the notes.
-/

namespace TagQuery

namespace Notes

/-- The notes after several values, if values are noted. -/
def addAll (notes : Notes) (values : List ValueMatcher) : Notes :=
  values.foldl (fun notes v => notes.add v.category v.value) notes

variable {notes : Notes}

theorem addAll_nil (notes : Notes) : notes.addAll [] = notes :=
  rfl

theorem addAll_singleton (notes : Notes) (v : ValueMatcher) :
    notes.addAll [v] = notes.add v.category v.value :=
  rfl

theorem addAll_append (notes : Notes) (values more : List ValueMatcher) :
    notes.addAll (values ++ more) = (notes.addAll values).addAll more :=
  List.foldl_append

theorem add_of_not_tracking (h : notes.tracking = false) (category value : String) :
    notes.add category value = notes := by
  rw [add, h, if_neg Bool.false_ne_true]

/-- Notes that are not wanted stay as they are. -/
theorem addAll_of_not_tracking (h : notes.tracking = false) (values : List ValueMatcher) :
    notes.addAll values = notes := by
  induction values with
  | nil => rfl
  | cons v values ih =>
      rw [addAll, List.foldl_cons, add_of_not_tracking h]
      exact ih

theorem tracking_addAll (notes : Notes) (values : List ValueMatcher) :
    (notes.addAll values).tracking = notes.tracking := by
  induction values generalizing notes with
  | nil => rfl
  | cons v values ih => exact (ih _).trans (tracking_add notes v.category v.value)

theorem mem_valuesOf_add (h : notes.tracking = true) {category value name tag : String} :
    tag ∈ (notes.add category value).mentioned.valuesOf name ↔
      (category = name ∧ value = tag) ∨ tag ∈ notes.mentioned.valuesOf name := by
  by_cases hname : category = name
  · subst hname
    rw [mem_mentioned_add h, eq_comm]
    simp
  · rw [add, if_pos h, TagTable.valuesOf_insert, if_neg hname]
    simp [hname]

/-- What is noted after several values is what was noted before and these values, each under
its own category. -/
theorem mem_valuesOf_addAll (h : notes.tracking = true) {values : List ValueMatcher}
    {name tag : String} :
    tag ∈ (notes.addAll values).mentioned.valuesOf name ↔
      (∃ v ∈ values, v.category = name ∧ v.value = tag) ∨
        tag ∈ notes.mentioned.valuesOf name := by
  induction values generalizing notes with
  | nil => simp [addAll]
  | cons v values ih =>
      have hcons : notes.addAll (v :: values) =
          (notes.add v.category v.value).addAll values := rfl
      rw [hcons, ih ((tracking_add _ _ _).trans h), mem_valuesOf_add h, ← or_assoc,
        or_comm (a := ∃ v ∈ values, _)]
      simp

end Notes

namespace Matcher

/-! ## Leaves -/

mutual

/-- The value leaves of a matcher, from left to right.  The terms of exact matchers are not
among them. -/
def leaves : Matcher → List ValueMatcher
  | .and children => leavesOfAll children
  | .or children => leavesOfAll children
  | .not child => leaves child
  | .value v => [v]
  | .exact _ _ => []
  | .noTag _ => []
  | .wildcard _ => []

def leavesOfAll : List Matcher → List ValueMatcher
  | [] => []
  | child :: children => leaves child ++ leavesOfAll children

end

mutual

/-- The value leaves that an evaluation comes by, in that order. -/
def visited (r : Record) : Matcher → List ValueMatcher
  | .and children => visitedByAll r children
  | .or children => visitedByAny r children
  | .not child => visited r child
  | .value v => [v]
  | .exact _ _ => []
  | .noTag _ => []
  | .wildcard _ => []

def visitedByAll (r : Record) : List Matcher → List ValueMatcher
  | [] => []
  | child :: children =>
    visited r child ++ if child.accepts r then visitedByAll r children else []

def visitedByAny (r : Record) : List Matcher → List ValueMatcher
  | [] => []
  | child :: children =>
    visited r child ++ if child.accepts r then [] else visitedByAny r children

end

mutual

/-- An evaluation leaves out leaves, but does not come by any twice or in another order. -/
theorem visited_sublist (r : Record) (m : Matcher) : (m.visited r).Sublist m.leaves := by
  cases m with
  | and children =>
      simp only [visited, leaves]
      exact visitedByAll_sublist r children
  | or children =>
      simp only [visited, leaves]
      exact visitedByAny_sublist r children
  | not child =>
      simp only [visited, leaves]
      exact visited_sublist r child
  | _ =>
      simp only [visited, leaves]
      exact List.Sublist.refl _

theorem visitedByAll_sublist (r : Record) (children : List Matcher) :
    (visitedByAll r children).Sublist (leavesOfAll children) := by
  cases children with
  | nil =>
      simp only [visitedByAll]
      exact List.nil_sublist _
  | cons child children =>
      simp only [visitedByAll, leavesOfAll]
      refine (visited_sublist r child).append ?_
      split
      · exact visitedByAll_sublist r children
      · exact List.nil_sublist _

theorem visitedByAny_sublist (r : Record) (children : List Matcher) :
    (visitedByAny r children).Sublist (leavesOfAll children) := by
  cases children with
  | nil =>
      simp only [visitedByAny]
      exact List.nil_sublist _
  | cons child children =>
      simp only [visitedByAny, leavesOfAll]
      refine (visited_sublist r child).append ?_
      split
      · exact List.nil_sublist _
      · exact visitedByAny_sublist r children

end

/-! ## Evaluations taken apart -/

mutual

/-- The notes after an evaluation are those before it and the leaves that it came by. -/
theorem eval_snd (r : Record) (m : Matcher) (notes : Notes) :
    (m.eval r notes).2 = notes.addAll (m.visited r) := by
  cases m with
  | and children =>
      simp only [eval, visited]
      exact evalAll_snd r children notes
  | or children =>
      simp only [eval, visited]
      exact evalAny_snd r children notes
  | not child =>
      simp only [eval, visited]
      exact eval_snd r child notes
  | value v => simp only [eval, visited, ValueMatcher.eval, Notes.addAll_singleton]
  | _ => simp only [eval, visited, Notes.addAll_nil]

theorem evalAll_snd (r : Record) (children : List Matcher) (notes : Notes) :
    (evalAll r children notes).2 = notes.addAll (visitedByAll r children) := by
  cases children with
  | nil => simp only [evalAll, visitedByAll, Notes.addAll_nil]
  | cons child children =>
      have hchild := eval_snd r child notes
      simp only [evalAll, visitedByAll, eval_fst, Notes.addAll_append, ← hchild]
      cases child.accepts r with
      | true => exact evalAll_snd r children _
      | false => rfl

theorem evalAny_snd (r : Record) (children : List Matcher) (notes : Notes) :
    (evalAny r children notes).2 = notes.addAll (visitedByAny r children) := by
  cases children with
  | nil => simp only [evalAny, visitedByAny, Notes.addAll_nil]
  | cons child children =>
      have hchild := eval_snd r child notes
      simp only [evalAny, visitedByAny, eval_fst, Notes.addAll_append, ← hchild]
      cases child.accepts r with
      | true => rfl
      | false => exact evalAny_snd r children _

end

/-! ## Other orders -/

/-- A matcher and the same one with the children of conjunctions and of alternatives in
another order, anywhere in it. -/
inductive Reordered : Matcher → Matcher → Prop
  | refl (m : Matcher) : Reordered m m
  | trans {m m' m'' : Matcher} (h : Reordered m m') (h' : Reordered m' m'') : Reordered m m''
  | and {children children' : List Matcher} (h : children.Perm children') :
      Reordered (.and children) (.and children')
  | or {children children' : List Matcher} (h : children.Perm children') :
      Reordered (.or children) (.or children')
  | inAnd (before after : List Matcher) {child child' : Matcher} (h : Reordered child child') :
      Reordered (.and (before ++ child :: after)) (.and (before ++ child' :: after))
  | inOr (before after : List Matcher) {child child' : Matcher} (h : Reordered child child') :
      Reordered (.or (before ++ child :: after)) (.or (before ++ child' :: after))
  | inNot {child child' : Matcher} (h : Reordered child child') :
      Reordered (.not child) (.not child')

/-- The order of children has no say in the answer. -/
theorem Reordered.accepts_eq {m m' : Matcher} (h : m.Reordered m') (r : Record) :
    m'.accepts r = m.accepts r := by
  induction h with
  | refl => rfl
  | trans _ _ ih ih' => exact ih'.trans ih
  | and h => rw [accepts_and, accepts_and, h.all_eq]
  | or h => rw [accepts_or, accepts_or, h.any_eq]
  | inAnd before after _ ih =>
      simp only [accepts_and, List.all_append, List.all_cons, ih]
  | inOr before after _ ih =>
      simp only [accepts_or, List.any_append, List.any_cons, ih]
  | inNot _ ih => rw [accepts_not, accepts_not, ih]

end Matcher

theorem CompiledQuery.evaluate_perm {c : CompiledQuery} {roots : List Matcher}
    (h : c.roots.Perm roots) (r : Record) :
    { c with roots }.evaluate r = c.evaluate r := by
  simp only [evaluate, Matcher.evalAll_fst, h.all_eq]

namespace Matcher

/-- The answer depends neither on the notes nor on the order of children and roots.  Notes
that are not wanted stay as they are.  Where they are wanted, nothing that was noted is lost,
and what is added are the values of the leaves that were come by, which are leaves outside
exact matchers, each under its own category. -/
theorem eval_apart_from_notes (r : Record) (m : Matcher) (notes : Notes) :
    (∀ other, (m.eval r other).1 = (m.eval r notes).1) ∧
      (∀ m', m.Reordered m' → (m'.eval r notes).1 = (m.eval r notes).1) ∧
      (∀ (c : CompiledQuery) (roots : List Matcher), c.roots.Perm roots →
        { c with roots }.evaluate r = c.evaluate r) ∧
      (notes.tracking = false → (m.eval r notes).2 = notes) ∧
      (notes.tracking = true →
        (m.eval r notes).2.tracking = true ∧ (m.visited r).Sublist m.leaves ∧
          ∀ category tag, tag ∈ (m.eval r notes).2.mentioned.valuesOf category ↔
            (∃ v ∈ m.visited r, v.category = category ∧ v.value = tag) ∨
              tag ∈ notes.mentioned.valuesOf category) := by
  refine ⟨?_, ?_, ?_, ?_, ?_⟩
  · intro other
    rw [eval_fst, eval_fst]
  · intro m' h
    rw [eval_fst, eval_fst, h.accepts_eq]
  · intro c roots h
    exact CompiledQuery.evaluate_perm h r
  · intro h
    rw [eval_snd, Notes.addAll_of_not_tracking h]
  · intro h
    rw [eval_snd]
    exact ⟨(Notes.tracking_addAll _ _).trans h, visited_sublist r m,
      fun category tag => Notes.mem_valuesOf_addAll h⟩

/-- The first alternative asks for one value and says with an exact matcher that another is
absent.  It fails, so the second is asked as well, and the values of both leaves are added
to what was noted. -/
theorem eval_apart_from_notes_of_exact :
    let anne : ValueMatcher := ⟨"People", "Anne", ∅⟩
    let tom : ValueMatcher := ⟨"People", "Tom", ∅⟩
    let noJim := Matcher.exact "People" [⟨⟨"People", "Jim", ∅⟩, true⟩]
    let m := Matcher.or [.and [.value anne, noJim], .not (.value tom)]
    let m' := Matcher.or [.not (.value tom), .and [noJim, .value anne]]
    let r := Record.addTag { fileName := "a.jpg" } "People" "Anne"
    let notes := Notes.on.add "Places" "Paris"
    let c : CompiledQuery := ⟨1, 1, 1, true, {}, [m, .value tom], none⟩
    m.Reordered m' ∧ c.roots.Perm [.value tom, m] ∧ Notes.off.tracking = false ∧
      notes.tracking = true ∧
      (m.eval r notes).1 = true ∧ (m.eval r .off).1 = true ∧ (m'.eval r notes).1 = true ∧
      { c with roots := [.value tom, m] }.evaluate r = c.evaluate r ∧
      (m.eval r .off).2 = .off ∧
      "Anne" ∈ (m.eval r notes).2.mentioned.valuesOf "People" ∧
      "Tom" ∈ (m.eval r notes).2.mentioned.valuesOf "People" ∧
      "Jim" ∉ (m.eval r notes).2.mentioned.valuesOf "People" ∧
      "Paris" ∈ (m.eval r notes).2.mentioned.valuesOf "Places" := by
  intro anne tom noJim m m' r notes c
  have hreordered : m.Reordered m' :=
    (Reordered.inOr [] [.not (.value tom)] (.and (.swap noJim (.value anne) []))).trans
      (.or (.swap _ _ []))
  have hroots : c.roots.Perm [.value tom, m] := .swap _ _ []
  have hanswer : (m.eval r notes).1 = true := by decide +kernel
  have hvisited : m.visited r = [anne, tom] := by decide +kernel
  obtain ⟨hother, horder, hperm, -, htracked⟩ := eval_apart_from_notes r m notes
  obtain ⟨-, -, -, huntracked, -⟩ := eval_apart_from_notes r m .off
  obtain ⟨-, -, hnoted⟩ := htracked rfl
  rw [hvisited] at hnoted
  refine ⟨hreordered, hroots, rfl, rfl, hanswer, (hother .off).trans hanswer,
    (horder m' hreordered).trans hanswer, hperm c _ hroots, huntracked rfl, ?_, ?_, ?_, ?_⟩
  · exact (hnoted _ _).mpr (Or.inl ⟨anne, by simp, rfl, rfl⟩)
  · exact (hnoted _ _).mpr (Or.inl ⟨tom, by simp, rfl, rfl⟩)
  · rw [hnoted]
    decide +kernel
  · exact (hnoted _ _).mpr (Or.inr (by decide +kernel))

end Matcher

end TagQuery
