import Mathlib.Order.MinMax
import TagQuery.DateRange
import TagQuery.Proofs.Timestamp

/-!
# Ranges whose bounds are in order

Whoever makes a range with the functions for it may give the bounds in either order: they
are exchanged if need be.  Widening takes the outer bounds of two ranges.  So a range does
not start after its end unless it was written down so, bound by bound.
-/

namespace TagQuery.DateRange

variable {r other : DateRange}

/-- A range with both bounds does not start after its end. -/
def InOrder (r : DateRange) : Prop :=
  ∀ a ∈ r.start, ∀ b ∈ r.stop, a ≤ b

instance : DecidablePred InOrder :=
  fun r => inferInstanceAs (Decidable (∀ a ∈ r.start, ∀ b ∈ r.stop, a ≤ b))

theorem inOrder_unbounded : unbounded.InOrder := by
  intro a ha
  contradiction

/-- Reversed bounds are exchanged. -/
theorem inOrder_ordered (start stop : Option Timestamp) : (ordered start stop).InOrder := by
  unfold ordered
  split
  next a b =>
    split
    next hreversed =>
      rintro _ ⟨⟩ _ ⟨⟩
      exact hreversed.le
    next hinorder =>
      rintro _ ⟨⟩ _ ⟨⟩
      exact not_lt.mp hinorder
  next hopen =>
    intro a ha b hb
    exact absurd hb (hopen a b ha)

theorem inOrder_between (a b : Timestamp) : (between a b).InOrder :=
  inOrder_ordered (some a) (some b)

theorem inOrder_instant (t : Timestamp) : (instant t).InOrder :=
  inOrder_ordered (some t) (some t)

theorem widerBound_eq_some_iff {further : Timestamp → Timestamp → Timestamp}
    {a b : Option Timestamp} {t : Timestamp} :
    widerBound further a b = some t ↔ ∃ x y, a = some x ∧ b = some y ∧ further x y = t := by
  cases a with
  | none => simp [widerBound]
  | some x => cases b with
    | none => simp [widerBound]
    | some y => simp [widerBound]

/-- The outer bounds of two ranges are in order if the bounds of each are. -/
theorem InOrder.extendTo (hr : r.InOrder) (hother : other.InOrder) :
    (r.extendTo other).InOrder := by
  unfold DateRange.extendTo
  split
  next => exact hother
  next =>
    split
    next => exact hr
    next =>
      intro a ha b hb
      obtain ⟨first, first', hfirst, -, rfl⟩ := widerBound_eq_some_iff.mp ha
      obtain ⟨last, last', hlast, -, rfl⟩ := widerBound_eq_some_iff.mp hb
      calc min first first' ≤ first := min_le_left first first'
        _ ≤ last := hr first hfirst last hlast
        _ ≤ max last last' := le_max_left last last'

end TagQuery.DateRange
