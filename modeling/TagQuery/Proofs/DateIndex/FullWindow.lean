import TagQuery.Proofs.DateIndex
import TagQuery.Proofs.DateRange

/-!
# The window over all that is known

Where no window is asked for, the one from the earliest known start to the latest known
end is taken.  A range with both bounds always reaches into it.  A range that is open at
the end need not: it adds nothing to the known ends, and may begin after all of them, and
in the same way a range without a start may end before all known starts.

Where every range is open on some side, the bounds, or the years that stand in for unknown
ones, may even come out reversed, and are exchanged.  The window then lies between the last
known end and the first known start, and only the ranges that end or begin exactly there
reach into it.
-/

namespace TagQuery

namespace DateRange

variable {r : DateRange} {a b : Timestamp}

theorem lower_eq_of_start (h : r.start = some a) : r.lower = a := by
  rw [lower, h, Option.getD_some]

theorem upper_eq_of_stop (h : r.stop = some b) : r.upper = b := by
  rw [upper, h, Option.getD_some]

end DateRange

namespace DateIndex

open DateRange (lower_eq_of_start upper_eq_of_stop)

variable {ranges : List DateRange} {capacity : ℕ}

/-! ## The known bounds -/

theorem size_build (ranges : List DateRange) (capacity : ℕ) :
    (build ranges capacity).size = ranges.length :=
  List.length_mergeSort ranges

/-- The earliest known start does not depend on the order of the ranges. -/
theorem firstStart_build (ranges : List DateRange) (capacity : ℕ) :
    (build ranges capacity).firstStart = (ranges.filterMap (·.start)).min? := by
  have hperm := (List.mergeSort_perm ranges startsNoLater).filterMap (·.start)
  refine Option.ext fun first => ?_
  simp only [build, List.min?_eq_some_iff, hperm.mem_iff]

/-- The latest known end does not depend on the order of the ranges. -/
theorem lastStop_build (ranges : List DateRange) (capacity : ℕ) :
    (build ranges capacity).lastStop = (ranges.filterMap (·.stop)).max? := by
  have hperm := (List.mergeSort_perm ranges startsNoLater).filterMap (·.stop)
  refine Option.ext fun last => ?_
  simp only [build, List.max?_eq_some_iff, hperm.mem_iff]

/-- An extreme of the known times, or a fallback where none is known, keeps to its side of
all of them, and is one of them or the fallback. -/
theorem getD_extreme (keeps : Timestamp → Timestamp → Prop)
    {known : DateRange → Option Timestamp} {extreme : Option Timestamp}
    (hnone : extreme = none ↔ ranges.filterMap known = [])
    (hsome : ∀ e, extreme = some e ↔
      e ∈ ranges.filterMap known ∧ ∀ a ∈ ranges.filterMap known, keeps e a)
    (fallback : Timestamp) :
    (∀ r ∈ ranges, ∀ a ∈ known r, keeps (extreme.getD fallback) a) ∧
      ((∃ r ∈ ranges, known r = some (extreme.getD fallback)) ∨
        (∀ r ∈ ranges, known r = none) ∧ extreme.getD fallback = fallback) := by
  cases extreme with
  | none =>
      have hunknown := List.filterMap_eq_nil_iff.mp (hnone.mp rfl)
      refine ⟨fun r hr a ha => ?_, Or.inr ⟨hunknown, rfl⟩⟩
      rw [hunknown r hr] at ha
      contradiction
  | some e =>
      obtain ⟨hmem, hkeeps⟩ := (hsome e).mp rfl
      obtain ⟨r, hr, hknown⟩ := List.mem_filterMap.mp hmem
      refine ⟨fun r hr a ha => ?_, Or.inl ⟨r, hr, hknown⟩⟩
      exact hkeeps a (List.mem_filterMap.mpr ⟨r, hr, ha⟩)

/-- No known start is before the lower bound, which is one of them if there is any. -/
theorem lowerBound_build (ranges : List DateRange) (capacity : ℕ) :
    (∀ r ∈ ranges, ∀ a ∈ r.start, (build ranges capacity).lowerBound ≤ a) ∧
      ((∃ r ∈ ranges, r.start = some (build ranges capacity).lowerBound) ∨
        (∀ r ∈ ranges, r.start = none) ∧
          (build ranges capacity).lowerBound = .midnight 1900 1 1) := by
  rw [lowerBound, firstStart_build]
  exact getD_extreme (· ≤ ·) List.min?_eq_none_iff (fun _ => List.min?_eq_some_iff) _

/-- No known end is after the upper bound, which is one of them if there is any. -/
theorem upperBound_build (ranges : List DateRange) (capacity : ℕ) :
    (∀ r ∈ ranges, ∀ b ∈ r.stop, b ≤ (build ranges capacity).upperBound) ∧
      ((∃ r ∈ ranges, r.stop = some (build ranges capacity).upperBound) ∨
        (∀ r ∈ ranges, r.stop = none) ∧
          (build ranges capacity).upperBound = .midnight 2100 1 1) := by
  rw [upperBound, lastStop_build]
  exact getD_extreme (fun last b => b ≤ last) List.max?_eq_none_iff
    (fun _ => List.max?_eq_some_iff) _

/-! ## What the window reaches -/

/-- The ranges that are open on one side reach the known bound on that side. -/
structure BoundsReached (index : DateIndex) (ranges : List DateRange) : Prop where
  /-- No range that is open at the end begins after the latest known end. -/
  begins : ∀ r ∈ ranges, r.stop = none → r.lower ≤ index.upperBound
  /-- No range that is open at the start ends before the earliest known start. -/
  ends : ∀ r ∈ ranges, r.start = none → index.lowerBound ≤ r.upper

/-- All known ends are the same and come before all known starts, which are the same. -/
structure BoundsReversed (index : DateIndex) (ranges : List DateRange) : Prop where
  reversed : index.upperBound < index.lowerBound
  start : ∀ r ∈ ranges, ∀ a ∈ r.start, a = index.lowerBound
  stop : ∀ r ∈ ranges, ∀ b ∈ r.stop, b = index.upperBound

section Forward

variable (hranges : ∀ r ∈ ranges, r.IsForward)

include hranges

/-- A range with the first of the known starts, or with the last of the known ends, keeps
the bounds in order. -/
theorem BoundsReached.lowerBound_le (h : (build ranges capacity).BoundsReached ranges) :
    (build ranges capacity).lowerBound ≤ (build ranges capacity).upperBound := by
  obtain ⟨-, hfirst⟩ := lowerBound_build ranges capacity
  obtain ⟨hends, hlast⟩ := upperBound_build ranges capacity
  rcases hfirst with ⟨r, hr, hstart⟩ | ⟨hstarts, hlower⟩
  · rw [← lower_eq_of_start hstart]
    cases hstop : r.stop with
    | none => exact h.begins r hr hstop
    | some b =>
        have hforward := hranges r hr
        rw [DateRange.IsForward, upper_eq_of_stop hstop] at hforward
        exact le_trans hforward (hends r hr b hstop)
  · rcases hlast with ⟨r, hr, hstop⟩ | ⟨-, hupper⟩
    · rw [← upper_eq_of_stop hstop]
      exact h.ends r hr (hstarts r hr)
    · rw [hlower, hupper]
      decide

/-- Ranges with both bounds lie between the known bounds, so that only the open ones need
to reach them. -/
theorem forall_between_iff :
    (∀ r ∈ ranges, (build ranges capacity).lowerBound ≤ r.upper ∧
        r.lower ≤ (build ranges capacity).upperBound) ↔
      (build ranges capacity).BoundsReached ranges := by
  obtain ⟨hstarts, -⟩ := lowerBound_build ranges capacity
  obtain ⟨hends, -⟩ := upperBound_build ranges capacity
  constructor
  · intro h
    exact ⟨fun r hr _ => (h r hr).2, fun r hr _ => (h r hr).1⟩
  · intro h r hr
    have hforward : r.lower ≤ r.upper := hranges r hr
    constructor
    · cases hstart : r.start with
      | none => exact h.ends r hr hstart
      | some a =>
          calc (build ranges capacity).lowerBound ≤ a := hstarts r hr a hstart
            _ = r.lower := (lower_eq_of_start hstart).symm
            _ ≤ r.upper := hforward
    · cases hstop : r.stop with
      | none => exact h.begins r hr hstop
      | some b =>
          calc r.lower ≤ r.upper := hforward
            _ = b := upper_eq_of_stop hstop
            _ ≤ (build ranges capacity).upperBound := hends r hr b hstop

/-- Reversed bounds come from ranges that are open, and none of these begins after the
latest timestamp. -/
theorem upperBound_lt_latest
    (hreversed : (build ranges capacity).upperBound < (build ranges capacity).lowerBound) :
    (build ranges capacity).upperBound < .latest := by
  obtain ⟨-, hfirst⟩ := lowerBound_build ranges capacity
  obtain ⟨hends, -⟩ := upperBound_build ranges capacity
  rcases hfirst with ⟨r, hr, hstart⟩ | ⟨-, hlower⟩
  · have hforward : r.lower ≤ r.upper := hranges r hr
    rw [lower_eq_of_start hstart] at hforward
    cases hstop : r.stop with
    | none =>
        rw [DateRange.upper, hstop, Option.getD_none] at hforward
        exact lt_of_lt_of_le hreversed hforward
    | some b =>
        rw [upper_eq_of_stop hstop] at hforward
        exact absurd (le_trans hforward (hends r hr b hstop)) (not_le.mpr hreversed)
  · rw [hlower] at hreversed
    exact lt_trans hreversed (by decide)

/-- Where the bounds are reversed, only what begins or ends at them lies across. -/
theorem forall_across_iff
    (hreversed : (build ranges capacity).upperBound < (build ranges capacity).lowerBound) :
    (∀ r ∈ ranges, (build ranges capacity).upperBound ≤ r.upper ∧
        r.lower ≤ (build ranges capacity).lowerBound) ↔
      (build ranges capacity).BoundsReversed ranges := by
  obtain ⟨hstarts, -⟩ := lowerBound_build ranges capacity
  obtain ⟨hends, -⟩ := upperBound_build ranges capacity
  constructor
  · intro h
    refine ⟨hreversed, fun r hr a ha => ?_, fun r hr b hb => ?_⟩
    · have hlower := (h r hr).2
      rw [lower_eq_of_start ha] at hlower
      exact le_antisymm hlower (hstarts r hr a ha)
    · have hupper := (h r hr).1
      rw [upper_eq_of_stop hb] at hupper
      exact le_antisymm (hends r hr b hb) hupper
  · intro h r hr
    constructor
    · cases hstop : r.stop with
      | none =>
          rw [DateRange.upper, hstop, Option.getD_none]
          exact (upperBound_lt_latest hranges hreversed).le
      | some b => rw [upper_eq_of_stop hstop, h.stop r hr b hstop]
    · cases hstart : r.start with
      | none =>
          rw [DateRange.lower, hstart, Option.getD_none]
          exact Timestamp.earliest_first _
      | some a => rw [lower_eq_of_start hstart, h.start r hr a hstart]

/-- All ranges reach into a window if it counts as many as there are. -/
theorem count_eq_size_iff (earlier : List DateRange) (window : DateRange) :
    (((build ranges capacity).countAll earlier).2.count window).1.exact +
        (((build ranges capacity).countAll earlier).2.count window).1.overlapping =
          (build ranges capacity).size ↔
      ∀ r ∈ ranges, window.lower ≤ r.upper ∧ r.lower ≤ window.upper := by
  rw [count_total hranges, size_build, List.countP_eq_length]
  exact forall₂_congr fun r hr => (hranges r hr).overlaps_iff window

end Forward

theorem fullWindow_of_le {index : DateIndex} (h : index.lowerBound ≤ index.upperBound) :
    index.fullWindow = ⟨some index.lowerBound, some index.upperBound⟩ :=
  if_neg (not_lt.mpr h)

theorem fullWindow_of_lt {index : DateIndex} (h : index.upperBound < index.lowerBound) :
    index.fullWindow = ⟨some index.upperBound, some index.lowerBound⟩ :=
  if_pos h

/-- The window from the earliest known start to the latest known end counts all ranges,
whatever the index was asked before, exactly if those that are open at the end begin by the
latest known end and those that are open at the start end no earlier than the earliest known
start, or if the two bounds come out reversed and all known starts are the same and all known
ends are. -/
theorem fullWindow_counts_all_iff (ranges : List DateRange)
    (hranges : ∀ r ∈ ranges, r.lower ≤ r.upper) (capacity : ℕ) (earlier : List DateRange) :
    let index := build ranges capacity
    let answer := ((index.countAll earlier).2.count index.fullWindow).1
    answer.exact + answer.overlapping = index.size ↔
      index.BoundsReached ranges ∨ index.BoundsReversed ranges := by
  intro index answer
  refine (count_eq_size_iff hranges earlier _).trans ?_
  rcases lt_or_ge index.upperBound index.lowerBound with hreversed | hordered
  · rw [fullWindow_of_lt hreversed]
    constructor
    · exact fun h => Or.inr ((forall_across_iff hranges hreversed).mp h)
    · rintro (h | h)
      · exact absurd (h.lowerBound_le hranges) (not_le.mpr hreversed)
      · exact (forall_across_iff hranges hreversed).mpr h
  · rw [fullWindow_of_le hordered]
    constructor
    · exact fun h => Or.inl ((forall_between_iff hranges).mp h)
    · rintro (h | h)
      · exact (forall_between_iff hranges).mpr h
      · exact absurd h.reversed (not_lt.mpr hordered)

/-- A range with both bounds, one open on each side, and one open on both. -/
theorem fullWindow_counts_all_of_mixed :
    let day := Timestamp.midnight 2000 1
    let ranges : List DateRange :=
      [.between (day 3) (day 9), ⟨some (day 5), none⟩, ⟨none, some (day 4)⟩, .unbounded]
    let index := build ranges 2
    let answer := ((index.countAll [.unbounded]).2.count index.fullWindow).1
    (∀ r ∈ ranges, r.lower ≤ r.upper) ∧ index.BoundsReached ranges ∧
      answer.exact + answer.overlapping = index.size := by
  intro day ranges index answer
  have hranges : ∀ r ∈ ranges, r.lower ≤ r.upper := by decide
  have hlower : index.lowerBound = day 3 := by
    rw [lowerBound, firstStart_build]
    decide
  have hupper : index.upperBound = day 9 := by
    rw [upperBound, lastStop_build]
    decide
  have hreached : index.BoundsReached ranges :=
    ⟨by rw [hupper]; decide, by rw [hlower]; decide⟩
  exact ⟨hranges, hreached,
    (fullWindow_counts_all_iff ranges hranges 2 [.unbounded]).mpr (Or.inl hreached)⟩

/-- A range that is open at the end begins after the latest known end, one that is open at
the start ends before the earliest known start, and where no end is known at all and the
bounds come out reversed, the later one of two open ranges begins after both. -/
theorem fullWindow_misses_open_ranges :
    let year := fun number => Timestamp.midnight number 1 1
    let counted (ranges : List DateRange) : ℕ × ℕ :=
      let index := build ranges 2
      let answer := (index.count index.fullWindow).1
      (answer.exact + answer.overlapping, index.size)
    let lists : List (List DateRange) :=
      [[.between (year 2000) (year 2010), ⟨some (year 2020), none⟩],
        [⟨none, some (year 1990)⟩, .between (year 2000) (year 2010)],
        [⟨some (year 2200), none⟩, ⟨some (year 2300), none⟩]]
    (∀ ranges ∈ lists, ∀ r ∈ ranges, r.lower ≤ r.upper) ∧
      lists.map counted = [(1, 2), (1, 2), (1, 2)] := by
  intro year counted lists
  have hranges : ∀ ranges ∈ lists, ∀ r ∈ ranges, r.lower ≤ r.upper := by decide
  -- Neither the bounds nor the count depend on the order the ranges are kept in.
  have hcounted : ∀ ranges ∈ lists, counted ranges =
      (ranges.countP (·.overlaps (.between
        ((ranges.filterMap (·.start)).min?.getD (.midnight 1900 1 1))
        ((ranges.filterMap (·.stop)).max?.getD (.midnight 2100 1 1)))), ranges.length) := by
    intro ranges hmem
    have htotal := count_total (hranges ranges hmem) 2 [] (build ranges 2).fullWindow
    simp only [counted, size_build, Prod.mk.injEq, and_true]
    rw [← firstStart_build ranges 2, ← lastStop_build ranges 2]
    exact htotal
  refine ⟨hranges, ?_⟩
  rw [List.map_congr_left hcounted]
  decide

end DateIndex

end TagQuery
