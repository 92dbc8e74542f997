import Mathlib.Order.Interval.Set.Basic
import TagQuery.Proofs.DateIndex

/-!
# The instants of a range

A range stands for the instants that it includes: those from its lower to its upper
bound.  Where no range ends before it starts, comparing the four bounds says how two sets
of instants lie to each other, whatever bounds are open.
-/

namespace TagQuery.DateRange

variable {r window : DateRange} {t : Timestamp}

/-- The instants that a range includes. -/
def instants (r : DateRange) : Set Timestamp :=
  {t | r.includes t = true}

theorem instant_eq (t : Timestamp) : instant t = ⟨some t, some t⟩ := by
  rw [instant, ordered, if_neg (lt_irrefl t)]

theorem fit_eq_contained_iff :
    r.fit window = .contained ↔ window.lower ≤ r.lower ∧ r.upper ≤ window.upper := by
  rw [fit]
  split
  next hin => exact iff_of_true rfl hin
  next hout =>
    refine iff_of_false ?_ hout
    split
    · exact Fit.noConfusion
    · exact Fit.noConfusion

/-- A range includes the instants between its bounds, these among them. -/
theorem instants_eq_Icc (r : DateRange) : r.instants = Set.Icc r.lower r.upper := by
  ext t
  rw [instants, Set.mem_ofPred_eq, includes, beq_iff_eq, fit_eq_contained_iff, instant_eq,
    Set.mem_Icc]
  rfl

theorem fit_eq_contained_iff_subset (hr : r.IsForward) :
    r.fit window = .contained ↔ r.instants ⊆ window.instants := by
  rw [fit_eq_contained_iff, instants_eq_Icc, instants_eq_Icc, Set.Icc_subset_Icc_iff hr]

/-- Two ranges have an instant in common unless one ends before the other begins: the
later of their lower bounds is one then. -/
theorem nonempty_inter_iff (hr : r.IsForward) (hwindow : window.IsForward) :
    (r.instants ∩ window.instants).Nonempty ↔
      window.lower ≤ r.upper ∧ r.lower ≤ window.upper := by
  rw [instants_eq_Icc, instants_eq_Icc, Set.Icc_inter_Icc, Set.nonempty_Icc, sup_le_iff,
    le_inf_iff, le_inf_iff]
  constructor
  · rintro ⟨⟨-, hbegins⟩, hends, -⟩
    exact ⟨hends, hbegins⟩
  · rintro ⟨hends, hbegins⟩
    exact ⟨⟨hr, hbegins⟩, hends, hwindow⟩

theorem overlaps_iff_nonempty (hr : r.IsForward) (hwindow : window.IsForward) :
    r.overlaps window = true ↔ (r.instants ∩ window.instants).Nonempty := by
  rw [hr.overlaps_iff, nonempty_inter_iff hr hwindow]

/-- Which of two ranges is the window does not matter for whether they overlap. -/
theorem overlaps_comm (hr : r.IsForward) (hwindow : window.IsForward) :
    r.overlaps window = window.overlaps r := by
  rw [Bool.eq_iff_iff, overlaps_iff_nonempty hr hwindow, overlaps_iff_nonempty hwindow hr,
    Set.inter_comm]

theorem fit_eq_apart_iff (hr : r.IsForward) (hwindow : window.IsForward) :
    r.fit window = .apart ↔ ¬(r.instants ∩ window.instants).Nonempty := by
  rw [← overlaps_iff_nonempty hr hwindow, overlaps, bne_iff_ne, not_not]

theorem fit_eq_partly_iff : r.fit window = .partly ↔
    r.fit window ≠ .contained ∧ r.fit window ≠ .apart := by
  cases r.fit window with
  | contained => simp
  | partly => simp
  | apart => simp

/-- How a range lies with respect to a window is how its instants lie with respect to those
of the window: all of them are there, none of them is, or some are and some are not. -/
theorem fit_classifies_instants (hr : r.IsForward) (hwindow : window.IsForward) :
    (r.fit window = .contained ↔
        ∀ t, r.includes t = true → window.includes t = true) ∧
      (r.fit window = .apart ↔
        ¬∃ t, r.includes t = true ∧ window.includes t = true) ∧
      (r.fit window = .partly ↔
        (∃ t, r.includes t = true ∧ window.includes t = true) ∧
          ∃ t, r.includes t = true ∧ window.includes t = false) ∧
      r.overlaps window = window.overlaps r := by
  have hcontained : r.fit window = .contained ↔
      ∀ t, r.includes t = true → window.includes t = true :=
    fit_eq_contained_iff_subset hr
  have hapart : r.fit window = .apart ↔
      ¬∃ t, r.includes t = true ∧ window.includes t = true :=
    fit_eq_apart_iff hr hwindow
  refine ⟨hcontained, hapart, ?_, overlaps_comm hr hwindow⟩
  rw [fit_eq_partly_iff, ne_eq, ne_eq, hcontained, hapart, not_not, and_comm, not_forall]
  simp only [Classical.not_imp, Bool.not_eq_true]

/-- A range without a start that touches a window without an end in one instant. -/
theorem fit_classifies_instants_of_touching :
    let r : DateRange := ⟨none, some (.midnight 2020 3 1)⟩
    let window : DateRange := ⟨some (.midnight 2020 3 1), none⟩
    (r.IsForward ∧ window.IsForward) ∧ r.fit window = .partly ∧
      (∃ t, r.includes t = true ∧ window.includes t = true) ∧
      (∃ t, r.includes t = true ∧ window.includes t = false) ∧
      r.overlaps window = window.overlaps r := by
  intro r window
  have hr : r.IsForward := by
    unfold IsForward
    decide
  have hwindow : window.IsForward := by
    unfold IsForward
    decide
  have hfit : r.fit window = .partly := by decide
  obtain ⟨-, -, hpartly, hcomm⟩ := fit_classifies_instants hr hwindow
  exact ⟨⟨hr, hwindow⟩, hfit, (hpartly.mp hfit).1, (hpartly.mp hfit).2, hcomm⟩

end TagQuery.DateRange
