import TagQuery.Matcher
import TagQuery.Proofs.Tags

/-!
# What matchers accept

Notes are taken along the way but have no say in the answer, so that a conjunction
accepts what all its children accept, in whatever order they are asked.  Only the
exact matcher looks at notes, and these are its own.
-/

namespace TagQuery

/-! ## Leaves -/

/-- A record carries the value or one of the members. -/
theorem ValueMatcher.accepts_iff {v : ValueMatcher} {r : Record} :
    v.accepts r = true ↔
      v.value ∈ r.tagsOf v.category ∨ ∃ member ∈ v.members, member ∈ r.tagsOf v.category := by
  have hmembers : (!v.members.isEmpty && r.hasAnyTag v.category v.members) = true ↔
      ∃ member ∈ v.members, member ∈ r.tagsOf v.category := by
    rw [Bool.and_eq_true, Record.hasAnyTag_iff, Bool.not_eq_true', Bool.eq_false_iff, ne_eq,
      TagSet.isEmpty_iff]
    constructor
    · exact fun h => h.2
    · rintro ⟨member, hmember, htag⟩
      exact ⟨fun hempty => hempty member hmember, member, hmember, htag⟩
  rw [accepts, Bool.or_eq_true, Record.hasTag_iff, hmembers]

namespace ExactTerm

/-- The term holds: its value is accepted, or it is not and the term is negated. -/
def holds (term : ExactTerm) (r : Record) : Bool :=
  term.value.accepts r != term.negated

theorem evalAll_cons (r : Record) (term : ExactTerm) (terms : List ExactTerm)
    (notes : Notes) :
    evalAll r (term :: terms) notes =
      if term.holds r then
        evalAll r terms (notes.add term.value.category term.value.value)
      else none := by
  by_cases h : term.value.accepts r = term.negated
  · simp [evalAll, ValueMatcher.eval, holds, h]
  · simp [evalAll, ValueMatcher.eval, holds, h]

theorem evalAll_isSome (r : Record) (terms : List ExactTerm) (notes : Notes) :
    (evalAll r terms notes).isSome = terms.all (·.holds r) := by
  induction terms generalizing notes with
  | nil => rfl
  | cons term terms ih =>
      rw [evalAll_cons, List.all_cons]
      cases term.holds r with
      | true => rw [if_pos rfl, ih, Bool.true_and]
      | false => rw [if_neg Bool.false_ne_true, Bool.false_and, Option.isSome_none]

end ExactTerm

namespace Notes

theorem tracking_add (notes : Notes) (category value : String) :
    (notes.add category value).tracking = notes.tracking := by
  unfold add
  split
  · rfl
  · rfl

theorem mem_mentioned_add {notes : Notes} (htracking : notes.tracking = true)
    {category value other : String} :
    other ∈ (notes.add category value).mentioned.valuesOf category ↔
      other = value ∨ other ∈ notes.mentioned.valuesOf category := by
  rw [add, if_pos htracking, TagTable.valuesOf_insert, if_pos rfl, TagSet.mem_insert]

end Notes

/-- Evaluating terms of one category mentions their values and no others. -/
theorem ExactTerm.mem_mentioned_evalAll {r : Record} {category : String}
    {terms : List ExactTerm} {notes notes' : Notes}
    (hterms : ∀ t ∈ terms, t.value.category = category) (htracking : notes.tracking = true)
    (h : evalAll r terms notes = some notes') (tag : String) :
    tag ∈ notes'.mentioned.valuesOf category ↔
      (∃ t ∈ terms, t.value.value = tag) ∨ tag ∈ notes.mentioned.valuesOf category := by
  induction terms generalizing notes with
  | nil =>
      cases h
      simp
  | cons term terms ih =>
      rw [List.forall_mem_cons] at hterms
      have hcons : (∃ t ∈ term :: terms, t.value.value = tag) ↔
          tag = term.value.value ∨ ∃ t ∈ terms, t.value.value = tag := by
        simp [eq_comm]
      rw [evalAll_cons] at h
      split at h
      next =>
        rw [ih hterms.2 ((Notes.tracking_add _ _ _).trans htracking) h, ← hterms.1,
          Notes.mem_mentioned_add htracking, hcons, or_assoc, or_left_comm]
      next => contradiction

namespace Matcher

/-- The exact matcher accepts a record if its terms hold and are all that the record
has in the category. -/
theorem exactAccepts_iff {category : String} {terms : List ExactTerm} {r : Record}
    (hne : terms ≠ []) (hterms : ∀ t ∈ terms, t.value.category = category) :
    exactAccepts category terms r = true ↔
      (∀ t ∈ terms, t.holds r = true) ∧
        ∀ tag ∈ r.tagsOf category, ∃ t ∈ terms, t.value.value = tag := by
  have hisSome := ExactTerm.evalAll_isSome r terms .on
  rw [exactAccepts, if_neg (by simpa using hne)]
  cases heval : ExactTerm.evalAll r terms .on with
  | none =>
      rw [heval, Option.isSome_none, eq_comm, ← Bool.not_eq_true, List.all_eq_true] at hisSome
      simp only [Bool.false_eq_true, false_iff]
      exact fun h => hisSome h.1
  | some notes =>
      rw [heval, Option.isSome_some, eq_comm, List.all_eq_true] at hisSome
      have hmentioned := ExactTerm.mem_mentioned_evalAll hterms rfl heval
      simp only [Notes.on, TagTable.valuesOf, Std.ExtTreeMap.getD_empty,
        Std.ExtTreeSet.not_mem_empty, or_false] at hmentioned
      simp only [List.all_eq_true, Std.ExtTreeSet.mem_toList,
        Std.ExtTreeSet.contains_iff_mem, TagTable.valuesOf, hmentioned]
      exact ⟨fun h => ⟨hisSome, h⟩, fun h => h.2⟩

/-! ## Trees -/

mutual

/-- Notes have no say in the answer. -/
theorem eval_fst (r : Record) (m : Matcher) (notes : Notes) :
    (m.eval r notes).1 = m.accepts r := by
  cases m with
  | and children =>
      simp only [accepts, eval]
      rw [evalAll_fst r children notes, evalAll_fst r children .off]
  | or children =>
      simp only [accepts, eval]
      rw [evalAny_fst r children notes, evalAny_fst r children .off]
  | not child =>
      simp only [accepts, eval]
      rw [eval_fst r child notes, eval_fst r child .off]
  | _ => simp only [accepts, eval, ValueMatcher.eval]

/-- All children accept the record. -/
theorem evalAll_fst (r : Record) (children : List Matcher) (notes : Notes) :
    (evalAll r children notes).1 = children.all (·.accepts r) := by
  cases children with
  | nil => simp only [evalAll, List.all_nil]
  | cons child children =>
      have hchild := eval_fst r child notes
      simp only [evalAll, List.all_cons, ← hchild]
      cases h : (eval r child notes).1 with
      | true => rw [if_pos rfl, evalAll_fst r children _, Bool.true_and]
      | false => rw [if_neg Bool.false_ne_true, Bool.false_and]

/-- Some child accepts the record. -/
theorem evalAny_fst (r : Record) (children : List Matcher) (notes : Notes) :
    (evalAny r children notes).1 = children.any (·.accepts r) := by
  cases children with
  | nil => simp only [evalAny, List.any_nil]
  | cons child children =>
      have hchild := eval_fst r child notes
      simp only [evalAny, List.any_cons, ← hchild]
      cases h : (eval r child notes).1 with
      | true => rw [if_pos rfl, Bool.true_or]
      | false => rw [if_neg Bool.false_ne_true, evalAny_fst r children _, Bool.false_or]

end

variable {r r' : Record}

theorem accepts_and (children : List Matcher) :
    (Matcher.and children).accepts r = children.all (·.accepts r) := by
  rw [accepts, eval, evalAll_fst]

theorem accepts_or (children : List Matcher) :
    (Matcher.or children).accepts r = children.any (·.accepts r) := by
  rw [accepts, eval, evalAny_fst]

theorem accepts_not (child : Matcher) :
    (Matcher.not child).accepts r = !child.accepts r := by
  rw [accepts, eval, accepts]

/-! ## Records with the same tags -/

section Tags

theorem tagsOf_congr (h : r'.tags = r.tags) (category : String) :
    r'.tagsOf category = r.tagsOf category := by
  rw [Record.tagsOf, h, Record.tagsOf]

theorem hasAnyTag_congr (h : r'.tags = r.tags) (category : String) (values : TagSet) :
    r'.hasAnyTag category values = r.hasAnyTag category values := by
  rw [Bool.eq_iff_iff, Record.hasAnyTag_iff, Record.hasAnyTag_iff, tagsOf_congr h]

theorem value_eval_congr (h : r'.tags = r.tags) (v : ValueMatcher) (notes : Notes) :
    v.eval r' notes = v.eval r notes := by
  simp only [ValueMatcher.eval, ValueMatcher.accepts, Record.hasTag, hasAnyTag_congr h,
    tagsOf_congr h]

theorem exact_evalAll_congr (h : r'.tags = r.tags) (terms : List ExactTerm) (notes : Notes) :
    ExactTerm.evalAll r' terms notes = ExactTerm.evalAll r terms notes := by
  induction terms generalizing notes with
  | nil => rfl
  | cons term terms ih =>
      simp only [ExactTerm.evalAll, value_eval_congr h]
      split
      · rfl
      · exact ih _

mutual

theorem eval_congr (h : r'.tags = r.tags) (m : Matcher) (notes : Notes) :
    m.eval r' notes = m.eval r notes := by
  cases m with
  | and children => simp only [eval, evalAll_congr h children notes]
  | or children => simp only [eval, evalAny_congr h children notes]
  | not child => simp only [eval, eval_congr h child notes]
  | value v => simp only [eval, value_eval_congr h]
  | exact category terms =>
      simp only [eval, exactAccepts, exact_evalAll_congr h, tagsOf_congr h]
  | noTag category => simp only [eval, tagsOf_congr h]
  | wildcard w => simp only [eval, Wildcard.accepts, hasAnyTag_congr h]

theorem evalAll_congr (h : r'.tags = r.tags) (children : List Matcher) (notes : Notes) :
    evalAll r' children notes = evalAll r children notes := by
  cases children with
  | nil => simp only [evalAll]
  | cons child children =>
      simp only [evalAll, eval_congr h child notes, evalAll_congr h children _]

theorem evalAny_congr (h : r'.tags = r.tags) (children : List Matcher) (notes : Notes) :
    evalAny r' children notes = evalAny r children notes := by
  cases children with
  | nil => simp only [evalAny]
  | cons child children =>
      simp only [evalAny, eval_congr h child notes, evalAny_congr h children _]

end

end Tags

end Matcher

end TagQuery
