import Mathlib.Tactic.Common
import TagQuery.Query.Lock
import TagQuery.Request

/-!
# Generations of queries

A change of a query gives it a generation that was not drawn before and leaves
alone what the query was compiled to.  A query that is made by several changes
was never compiled, and its generation is among those drawn for it.
-/

namespace TagQuery

namespace SearchQuery

/-- Reading a pattern can fail; otherwise the query is made of what was read. -/
theorem exists_eq_of_map_eq_ok {ε α : Type} {read : Except ε α} {make : α → SearchQuery}
    {q' : SearchQuery} (h : read.map make = .ok q') : ∃ x, q' = make x := by
  cases read with
  | error problem => contradiction
  | ok x => exact ⟨x, (Except.ok.inj h).symm⟩

theorem change_compiled {q q' : SearchQuery} {e : QueryEdit} (h : q.change e = .ok q') :
    q'.compiled = q.compiled := by
  cases e with
  | fileNamePattern source =>
      simp only [change] at h
      split at h
      · cases h
        rfl
      · obtain ⟨pattern, rfl⟩ := exists_eq_of_map_eq_ok h
        rfl
  | freeform source =>
      simp only [change] at h
      split at h
      · cases h
        rfl
      · obtain ⟨pattern, rfl⟩ := exists_eq_of_map_eq_ok h
        rfl
  | _ =>
      cases h
      rfl

theorem edit_eq_ok {q q' : SearchQuery} {e : QueryEdit} {generation : ℕ}
    (h : q.edit e generation = .ok q') :
    q'.generation = generation ∧ q'.compiled = q.compiled := by
  unfold edit at h
  cases hchange : q.change e with
  | error invalid =>
      rw [hchange] at h
      contradiction
  | ok changed =>
      have hcompiled := change_compiled hchange
      rw [hchange] at h
      cases h
      exact ⟨rfl, hcompiled⟩

theorem drawn_le_editAll (edits : List QueryEdit) (q : SearchQuery) (drawn : ℕ) :
    drawn ≤ (q.editAll drawn edits).2 := by
  induction edits generalizing q drawn with
  | nil => exact Nat.le_refl drawn
  | cons e edits ih =>
      unfold editAll
      split
      · have hrest := ih ‹SearchQuery› (drawn + 1)
        omega
      · exact Nat.le_refl drawn

theorem editAll_eq_ok {edits : List QueryEdit} {q q' : SearchQuery} {drawn : ℕ}
    (hq : q.generation ≤ drawn) (h : (q.editAll drawn edits).1 = .ok q') :
    q'.generation ≤ (q.editAll drawn edits).2 ∧ q'.compiled = q.compiled := by
  induction edits generalizing q drawn with
  | nil =>
      cases h
      exact ⟨hq, rfl⟩
  | cons e edits ih =>
      unfold editAll at h ⊢
      cases hedit : q.edit e (drawn + 1) with
      | error invalid =>
          rw [hedit] at h
          contradiction
      | ok edited =>
          rw [hedit] at h
          obtain ⟨hgeneration, hcompiled⟩ := edit_eq_ok hedit
          obtain ⟨hrest, hkept⟩ := ih (Nat.le_of_eq hgeneration) h
          exact ⟨hrest, hkept.trans hcompiled⟩

/-- What makes a query from the last generation drawn before gives back at least
that one, and a query that was never compiled and whose generation is drawn. -/
def Builds (build : ℕ → Except ε SearchQuery × ℕ) : Prop :=
  ∀ drawn, drawn ≤ (build drawn).2 ∧
    ∀ q, (build drawn).1 = .ok q →
      q.compiled = none ∧ q.generation ≤ (build drawn).2

theorem builds_ofLock (saved : TextTable) : Builds (ofLock saved) := by
  intro drawn
  unfold ofLock
  dsimp only
  split
  · refine ⟨by dsimp only; omega, ?_⟩
    intro q hq
    contradiction
  · refine ⟨by dsimp only; omega, ?_⟩
    intro q hq
    cases hq
    exact ⟨rfl, Nat.le_refl _⟩

end SearchQuery

theorem SearchRequest.builds_build (r : SearchRequest) : SearchQuery.Builds r.build := by
  intro drawn
  have hle := SearchQuery.drawn_le_editAll r.edits (.new (drawn + 1)) (drawn + 1)
  refine ⟨by unfold build; omega, ?_⟩
  intro q hq
  obtain ⟨hgeneration, hcompiled⟩ :=
    SearchQuery.editAll_eq_ok (q := .new (drawn + 1)) (Nat.le_refl _) hq
  exact ⟨hcompiled, hgeneration⟩

end TagQuery
