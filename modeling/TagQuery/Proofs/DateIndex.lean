import TagQuery.DateIndex
import TagQuery.Proofs.Timestamp

/-!
# The date index counts like a full scan

The index may jump over ranges because every one before the place it jumps to ends
before the window, and it may stop early because the ranges are ordered by their
starts.  The places need no order for this: `smallestPlaces` gives every end a
place from which on all ranges of its own and later ends are found.

A reversed range could pass for contained in a window that it ends before, so the
ranges are taken not to be reversed.  A window may be.
-/

namespace TagQuery

/-! ## Ranges outside of a window -/

namespace DateRange

/-- The range does not end before it starts. -/
def IsForward (r : DateRange) : Prop :=
  r.lower ≤ r.upper

variable {r window : DateRange}

theorem fit_of_upper_lt (hr : r.IsForward) (h : ¬window.lower ≤ r.upper) :
    r.fit window = .apart := by
  have hcontained : ¬(window.lower ≤ r.lower ∧ r.upper ≤ window.upper) :=
    fun hin => h (le_trans hin.1 hr)
  rw [fit, if_neg hcontained, if_neg fun hpart => h hpart.1]

theorem fit_of_lt_lower (hr : r.IsForward) (h : ¬r.lower ≤ window.upper) :
    r.fit window = .apart := by
  have hcontained : ¬(window.lower ≤ r.lower ∧ r.upper ≤ window.upper) :=
    fun hin => h (le_trans hr hin.2)
  rw [fit, if_neg hcontained, if_neg fun hpart => h hpart.2]

/-- A range reaches into a window unless it ends before or begins after it. -/
theorem IsForward.overlaps_iff (hr : r.IsForward) (window : DateRange) :
    r.overlaps window = true ↔ window.lower ≤ r.upper ∧ r.lower ≤ window.upper := by
  rw [overlaps, bne_iff_ne]
  constructor
  · intro hfit
    constructor
    · by_contra hearly
      exact hfit (fit_of_upper_lt hr hearly)
    · by_contra hlate
      exact hfit (fit_of_lt_lower hr hlate)
  · intro hpart
    rw [fit, if_pos hpart]
    split
    · exact Fit.noConfusion
    · exact Fit.noConfusion

end DateRange

namespace DateCount

variable {window : DateRange} {ranges ranges' : List DateRange}

theorem ofRanges_perm (h : ranges.Perm ranges') :
    ofRanges window ranges = ofRanges window ranges' := by
  rw [ofRanges, ofRanges, h.countP_eq, h.countP_eq]

theorem ofRanges_of_apart (h : ∀ r ∈ ranges, r.fit window = .apart) :
    ofRanges window ranges = ⟨0, 0⟩ := by
  have hexact : ranges.countP (·.fit window == .contained) = 0 := by
    rw [List.countP_eq_zero]
    intro r hr
    rw [h r hr]
    decide
  have hoverlapping : ranges.countP (·.fit window == .partly) = 0 := by
    rw [List.countP_eq_zero]
    intro r hr
    rw [h r hr]
    decide
  rw [ofRanges, hexact, hoverlapping]

/-- Ranges apart from the window may be left out at the beginning. -/
theorem ofRanges_append_left (h : ∀ r ∈ ranges, r.fit window = .apart) :
    ofRanges window (ranges ++ ranges') = ofRanges window ranges' := by
  have hzero := ofRanges_of_apart h
  simp only [ofRanges, DateCount.mk.injEq] at hzero
  simp only [ofRanges, List.countP_append, hzero.1, hzero.2, Nat.zero_add]

/-- Ranges apart from the window may be left out at the end. -/
theorem ofRanges_append_right (h : ∀ r ∈ ranges', r.fit window = .apart) :
    ofRanges window (ranges ++ ranges') = ofRanges window ranges := by
  have hzero := ofRanges_of_apart h
  simp only [ofRanges, DateCount.mk.injEq] at hzero
  simp only [ofRanges, List.countP_append, hzero.1, hzero.2, Nat.add_zero]

theorem exact_add_overlapping (window : DateRange) (ranges : List DateRange) :
    (ofRanges window ranges).exact + (ofRanges window ranges).overlapping =
      ranges.countP (·.overlaps window) := by
  induction ranges with
  | nil => rfl
  | cons r ranges ih =>
      have hsplit : ((if (r.fit window == .contained) = true then 1 else 0) +
          if (r.fit window == .partly) = true then 1 else 0) =
            if r.overlaps window = true then 1 else 0 := by
        rw [DateRange.overlaps]
        cases r.fit window <;> rfl
      simp only [ofRanges, List.countP_cons] at ih ⊢
      omega

end DateCount

namespace DateIndex

/-! ## The early stop -/

theorem lower_le_of_startsNoLater {a b : DateRange} (h : startsNoLater a b = true) :
    a.lower ≤ b.lower := by
  simp only [startsNoLater, Bool.or_eq_true, Bool.and_eq_true, decide_eq_true_eq] at h
  rcases h with h | h
  · exact le_of_lt h
  · exact h.1

theorem startsNoLater_trans (a b c : DateRange) (hab : startsNoLater a b = true)
    (hbc : startsNoLater b c = true) : startsNoLater a c = true := by
  simp only [startsNoLater, Bool.or_eq_true, Bool.and_eq_true, decide_eq_true_eq] at *
  rcases hab with hab | ⟨hab, habu⟩
  · rcases hbc with hbc | ⟨hbc, -⟩
    · exact Or.inl (lt_trans hab hbc)
    · exact Or.inl (lt_of_lt_of_le hab hbc)
  · rcases hbc with hbc | ⟨hbc, hbcu⟩
    · exact Or.inl (lt_of_le_of_lt hab hbc)
    · exact Or.inr ⟨le_trans hab hbc, le_trans habu hbcu⟩

theorem startsNoLater_total (a b : DateRange) :
    (startsNoLater a b || startsNoLater b a) = true := by
  simp only [startsNoLater, Bool.or_eq_true, Bool.and_eq_true, decide_eq_true_eq]
  rcases lt_trichotomy a.lower b.lower with h | h | h
  · exact Or.inl (Or.inl h)
  · rcases le_total a.upper b.upper with hu | hu
    · exact Or.inl (Or.inr ⟨le_of_eq h, hu⟩)
    · exact Or.inr (Or.inr ⟨le_of_eq h.symm, hu⟩)
  · exact Or.inr (Or.inl h)

/-- Behind the first range that starts after the window, all ranges do. -/
theorem ofRanges_takeWhile {window : DateRange} {ranges : List DateRange}
    (hranges : ∀ r ∈ ranges, r.IsForward)
    (hsorted : ranges.Pairwise fun a b => a.lower ≤ b.lower) :
    DateCount.ofRanges window (ranges.takeWhile fun r => r.lower ≤ window.upper) =
      DateCount.ofRanges window ranges := by
  have hlate : ∀ r ∈ ranges.dropWhile (fun r => r.lower ≤ window.upper),
      r.fit window = .apart := by
    intro r hr
    refine DateRange.fit_of_lt_lower
      (hranges r ((List.dropWhile_suffix _).subset hr)) fun hle => ?_
    have hrest := hsorted.sublist (List.dropWhile_sublist (fun r => r.lower ≤ window.upper))
    cases hdrop : ranges.dropWhile (fun r => r.lower ≤ window.upper) with
    | nil =>
        rw [hdrop] at hr
        contradiction
    | cons first rest =>
        have hfirst : ¬first.lower ≤ window.upper := by
          have hhead := List.head?_dropWhile_not (fun r : DateRange => r.lower ≤ window.upper)
            ranges
          rw [hdrop] at hhead
          simpa using hhead
        -- The first range left out starts late, and those behind it no earlier.
        rw [hdrop] at hr hrest
        rcases List.mem_cons.mp hr with rfl | hr
        · exact hfirst hle
        · exact hfirst (le_trans ((List.pairwise_cons.mp hrest).1 r hr) hle)
  conv_rhs => rw [← List.takeWhile_append_dropWhile (p := fun r => r.lower ≤ window.upper)
    (l := ranges)]
  rw [DateCount.ofRanges_append_right hlate]

/-! ## The jump -/

theorem smallestPlaces_cons (stop : Timestamp) (place : ℕ) (rest : List (Timestamp × ℕ)) :
    ∃ smallest, smallestPlaces ((stop, place) :: rest) =
        (stop, smallest) :: smallestPlaces rest ∧
      ∀ e ∈ (stop, place) :: rest, smallest ≤ e.2 := by
  induction rest generalizing stop place with
  | nil => exact ⟨place, rfl, by simp⟩
  | cons e rest ih =>
      obtain ⟨smallest, hrest, hle⟩ := ih e.1 e.2
      refine ⟨min place smallest, ?_, ?_⟩
      · simp only [smallestPlaces] at hrest ⊢
        rw [hrest]
      · intro e' he'
        rcases List.mem_cons.mp he' with rfl | he'
        · exact Nat.min_le_left _ _
        · exact Nat.le_trans (Nat.min_le_right _ _) (hle e' he')

/-- No end from a time on is missed, nor one with a place before the given one. -/
theorem find?_smallestPlaces (time : Timestamp) (ends : List (Timestamp × ℕ)) :
    match (smallestPlaces ends).find? fun e => time ≤ e.1 with
    | none => ∀ e ∈ ends, ¬time ≤ e.1
    | some (_, first) => ∀ e ∈ ends, time ≤ e.1 → first ≤ e.2 := by
  induction ends with
  | nil => simp [smallestPlaces]
  | cons e ends ih =>
      obtain ⟨smallest, hcons, hle⟩ := smallestPlaces_cons e.1 e.2 ends
      rw [hcons]
      by_cases htime : time ≤ e.1
      · rw [List.find?_cons_of_pos (by simpa using htime)]
        exact fun e' he' _ => hle e' he'
      · rw [List.find?_cons_of_neg (by simpa using htime)]
        split at ih
        next => exact List.forall_mem_cons.mpr ⟨htime, ih⟩
        next => exact List.forall_mem_cons.mpr ⟨fun h => absurd h htime, ih⟩

theorem mem_sortedEnds {byStart : List DateRange} {place : ℕ} {r : DateRange}
    (h : byStart[place]? = some r) : (r.upper, place) ∈ sortedEnds byStart := by
  rw [sortedEnds, (List.mergeSort_perm _ _).mem_iff, List.mem_map]
  exact ⟨(r, place), List.mem_zipIdx_iff_getElem?.mpr h, rfl⟩

/-- All ranges before the place of the jump end before the window. -/
theorem ofRanges_drop {window : DateRange} {ranges : List DateRange} {first : ℕ}
    (hranges : ∀ r ∈ ranges, r.IsForward)
    (hfirst : ∀ e ∈ sortedEnds ranges, window.lower ≤ e.1 → first ≤ e.2) :
    DateCount.ofRanges window (ranges.drop first) = DateCount.ofRanges window ranges := by
  have hearly : ∀ r ∈ ranges.take first, r.fit window = .apart := by
    intro r hr
    obtain ⟨place, hplace, hget⟩ := List.getElem_of_mem hr
    rw [List.length_take] at hplace
    rw [List.getElem_take] at hget
    have hsome : ranges[place]? = some r :=
      List.getElem?_eq_some_iff.mpr ⟨by omega, hget⟩
    refine DateRange.fit_of_upper_lt (hranges r (List.mem_of_getElem? hsome)) fun hle => ?_
    have hbefore := hfirst _ (mem_sortedEnds hsome) hle
    dsimp only at hbefore
    omega
  conv_rhs => rw [← List.take_append_drop first ranges]
  rw [DateCount.ofRanges_append_left hearly]

/-! ## Scans and answers that are kept -/

theorem scan_build {ranges : List DateRange} (hranges : ∀ r ∈ ranges, r.IsForward)
    (capacity : ℕ) (window : DateRange) :
    (build ranges capacity).scan window = .ofRanges window ranges := by
  have hperm := List.mergeSort_perm ranges startsNoLater
  have hsorted : (ranges.mergeSort startsNoLater).Pairwise fun a b => a.lower ≤ b.lower :=
    (List.pairwise_mergeSort startsNoLater_trans startsNoLater_total ranges).imp
      lower_le_of_startsNoLater
  have hbyStart : ∀ r ∈ ranges.mergeSort startsNoLater, r.IsForward :=
    fun r hr => hranges r (hperm.mem_iff.mp hr)
  have hfind := find?_smallestPlaces window.lower
    (sortedEnds (ranges.mergeSort startsNoLater))
  rw [← DateCount.ofRanges_perm hperm]
  simp only [scan, build]
  split
  next hnone =>
    rw [hnone] at hfind
    refine (DateCount.ofRanges_of_apart fun r hr => ?_).symm
    obtain ⟨place, hplace⟩ := List.getElem?_of_mem hr
    exact DateRange.fit_of_upper_lt (hbyStart r hr) (hfind _ (mem_sortedEnds hplace))
  next stop first hsome =>
    rw [hsome] at hfind
    rw [ofRanges_takeWhile (fun r hr => hbyStart r (List.mem_of_mem_drop hr))
      (hsorted.sublist (List.drop_sublist first _)), ofRanges_drop hbyStart hfind]

/-- Every answer that is kept is that of a scan. -/
def Faithful (index : DateIndex) : Prop :=
  ∀ known ∈ index.recent, known.2 = index.scan known.1

theorem faithful_build (ranges : List DateRange) (capacity : ℕ) :
    (build ranges capacity).Faithful := by
  intro known hknown
  contradiction

variable {index : DateIndex}

theorem Faithful.count_fst (h : index.Faithful) (window : DateRange) :
    (index.count window).1 = index.scan window := by
  simp only [count]
  split
  next window' known hfind =>
    have hsame := List.find?_some hfind
    rw [decide_eq_true_eq] at hsame
    rw [← hsame]
    exact h _ (List.mem_of_find?_eq_some hfind)
  next => rfl

theorem scan_count (window other : DateRange) :
    (index.count window).2.scan other = index.scan other :=
  rfl

theorem Faithful.count_snd (h : index.Faithful) (window : DateRange) :
    (index.count window).2.Faithful := by
  intro known hknown
  rw [scan_count]
  rcases List.mem_cons.mp (List.mem_of_mem_take hknown) with rfl | hold
  · exact h.count_fst window
  · exact h known (List.mem_filter.mp hold).1

theorem Faithful.countAll_snd (h : index.Faithful) (windows : List DateRange) :
    (index.countAll windows).2.Faithful ∧
      ∀ window, (index.countAll windows).2.scan window = index.scan window := by
  induction windows generalizing index with
  | nil => exact ⟨h, fun _ => rfl⟩
  | cons window windows ih => exact ih (h.count_snd window)

/-- An index counts the ranges that reach into a window, whatever it was asked before. -/
theorem count_total {ranges : List DateRange} (hranges : ∀ r ∈ ranges, r.IsForward)
    (capacity : ℕ) (earlier : List DateRange) (window : DateRange) :
    let answer := (((build ranges capacity).countAll earlier).2.count window).1
    answer.exact + answer.overlapping = ranges.countP (·.overlaps window) := by
  obtain ⟨hfaithful, hscan⟩ := (faithful_build ranges capacity).countAll_snd earlier
  dsimp only
  rw [hfaithful.count_fst, hscan, scan_build hranges, DateCount.exact_add_overlapping]

/-- After any counts, and however many answers are kept, the index counts what a
scan of all the ranges does. -/
theorem count_eq_ofRanges (ranges : List DateRange)
    (hranges : ∀ r ∈ ranges, r.lower ≤ r.upper) (capacity : ℕ)
    (earlier : List DateRange) (window : DateRange) :
    (((build ranges capacity).countAll earlier).2.count window).1 =
      .ofRanges window ranges := by
  obtain ⟨hfaithful, hscan⟩ := (faithful_build ranges capacity).countAll_snd earlier
  rw [hfaithful.count_fst, hscan, scan_build hranges]

/-- A long range is not jumped over, and an open one reaches into every window. -/
theorem count_eq_ofRanges_of_nested :
    let day := fun number => DateRange.instant (.midnight 2000 1 number)
    let ranges := [day 3, .between (.midnight 2000 1 1) (.midnight 2000 1 9), day 5, day 3,
      .unbounded]
    (∀ r ∈ ranges, r.lower ≤ r.upper) ∧
      (((build ranges 2).countAll [day 4, day 3, day 9]).2.count (day 3)).1 =
        ⟨2, 2⟩ := by
  intro day ranges
  have hranges : ∀ r ∈ ranges, r.lower ≤ r.upper := by decide
  have hcount := count_eq_ofRanges ranges hranges 2 [day 4, day 3, day 9] (day 3)
  exact ⟨hranges, hcount.trans (by decide)⟩

end DateIndex

end TagQuery
