import Mathlib.Order.MinMax
import TagQuery.DateRange
import TagQuery.Proofs.Timestamp

/-!
# Ranges that are widened

The range of a bucket begins as one about which nothing is known, and is widened by one
date after another.  A range that is open on both sides is not told apart from the one
at the beginning.  Where a range without a start meets one without an end, all that was
covered so far is therefore forgotten, and the next range takes its place.

This cannot happen as long as all ranges are closed on the same side.  Then the outcome
covers each of them, and their order does not matter.
-/

namespace TagQuery

theorem Timestamp.earliest_first (t : Timestamp) : earliest ≤ t := by
  have hsecond : earliest.second ≤ t.second := t.earliest_le
  have hnano : earliest.nano ≤ t.nano := Nat.zero_le _
  rw [le_iff]
  omega

/-- One of the two sides of a range. -/
inductive Side where
  | start
  | stop
  deriving DecidableEq

namespace DateRange

def bound (r : DateRange) : Side → Option Timestamp
  | .start => r.start
  | .stop => r.stop

/-- The range has a bound on a side, if anything is known about it at all. -/
def ClosedOn (r : DateRange) (side : Side) : Prop :=
  r.isNull = false → (r.bound side).isSome = true

instance (r : DateRange) (side : Side) : Decidable (r.ClosedOn side) :=
  inferInstanceAs (Decidable (_ → _))

/-- What is left of nothing when it is widened to cover some ranges, one after the other. -/
def spanOf (ranges : List DateRange) : DateRange :=
  ranges.foldl extendTo .unbounded

variable {r x y z other : DateRange} {side : Side} {ranges ranges' : List DateRange}

/-! ## One range more -/

theorem isNull_iff : r.isNull = true ↔ r = unbounded := by
  obtain ⟨start, stop⟩ := r
  cases start with
  | none => cases stop with
    | none => simp [isNull, unbounded]
    | some stop => simp [isNull, unbounded]
  | some start => simp [isNull, unbounded]

theorem isNull_eq_false_of_bound (h : (r.bound side).isSome = true) : r.isNull = false := by
  by_contra hnull
  rw [Bool.not_eq_false, isNull_iff] at hnull
  subst hnull
  cases side with
  | start => contradiction
  | stop => contradiction

theorem unbounded_extendTo (r : DateRange) : unbounded.extendTo r = r :=
  rfl

theorem extendTo_unbounded (r : DateRange) : r.extendTo unbounded = r := by
  by_cases hr : r.isNull = true
  · rw [isNull_iff.mp hr, unbounded_extendTo]
  · have hunbounded : unbounded.isNull = true := rfl
    rw [extendTo, if_neg hr, if_pos hunbounded]

/-- The range between the outer bounds of two, open where one of them is. -/
def hull (r other : DateRange) : DateRange :=
  ⟨widerBound min r.start other.start, widerBound max r.stop other.stop⟩

theorem extendTo_eq_hull (hr : r.isNull = false) (hother : other.isNull = false) :
    r.extendTo other = r.hull other := by
  rw [extendTo, hr, hother, if_neg Bool.false_ne_true, if_neg Bool.false_ne_true, hull]

theorem widerBound_comm {further : Timestamp → Timestamp → Timestamp}
    (hfurther : ∀ a b, further a b = further b a) (a b : Option Timestamp) :
    widerBound further a b = widerBound further b a := by
  cases a with
  | none => cases b with
    | none => rfl
    | some b => rfl
  | some a => cases b with
    | none => rfl
    | some b => exact congrArg some (hfurther a b)

theorem widerBound_right_comm {further : Timestamp → Timestamp → Timestamp}
    (hfurther : ∀ a b c, further (further a b) c = further (further a c) b)
    (a b c : Option Timestamp) :
    widerBound further (widerBound further a b) c =
      widerBound further (widerBound further a c) b := by
  cases a with
  | none => rfl
  | some a => cases b with
    | none => cases c with
      | none => rfl
      | some c => rfl
    | some b => cases c with
      | none => rfl
      | some c => exact congrArg some (hfurther a b c)

theorem hull_right_comm (z x y : DateRange) : (z.hull x).hull y = (z.hull y).hull x := by
  have hstart := widerBound_right_comm min_right_comm z.start x.start y.start
  have hstop := widerBound_right_comm max_right_comm z.stop x.stop y.stop
  simp only [hull, hstart, hstop]

theorem extendTo_comm (x y : DateRange) : x.extendTo y = y.extendTo x := by
  by_cases hx : x.isNull = true
  · rw [isNull_iff.mp hx, unbounded_extendTo, extendTo_unbounded]
  · by_cases hy : y.isNull = true
    · rw [isNull_iff.mp hy, unbounded_extendTo, extendTo_unbounded]
    · rw [Bool.not_eq_true] at hx hy
      rw [extendTo_eq_hull hx hy, extendTo_eq_hull hy hx, hull, hull,
        widerBound_comm min_comm, widerBound_comm max_comm]

theorem isSome_bound_hull (hr : (r.bound side).isSome = true)
    (hother : (other.bound side).isSome = true) :
    ((r.hull other).bound side).isSome = true := by
  obtain ⟨a, ha⟩ := Option.isSome_iff_exists.mp hr
  obtain ⟨b, hb⟩ := Option.isSome_iff_exists.mp hother
  cases side with
  | start =>
      rw [bound] at ha hb ⊢
      rw [hull, ha, hb]
      rfl
  | stop =>
      rw [bound] at ha hb ⊢
      rw [hull, ha, hb]
      rfl

/-- What is known is not forgotten where both ranges are closed on one side. -/
theorem ClosedOn.isNull_extendTo (hr : r.ClosedOn side) (hother : other.ClosedOn side)
    (hknown : r.isNull = false ∨ other.isNull = false) :
    (r.extendTo other).isNull = false := by
  by_cases hrnull : r.isNull = true
  · rw [isNull_iff.mp hrnull, unbounded_extendTo]
    rcases hknown with hknown | hknown
    · rw [hrnull] at hknown
      contradiction
    · exact hknown
  · rw [Bool.not_eq_true] at hrnull
    by_cases hnull : other.isNull = true
    · rw [isNull_iff.mp hnull, extendTo_unbounded]
      exact hrnull
    · rw [Bool.not_eq_true] at hnull
      rw [extendTo_eq_hull hrnull hnull]
      exact isNull_eq_false_of_bound (isSome_bound_hull (hr hrnull) (hother hnull))

theorem ClosedOn.extendTo (hr : r.ClosedOn side) (hother : other.ClosedOn side) :
    (r.extendTo other).ClosedOn side := by
  by_cases hrnull : r.isNull = true
  · rw [isNull_iff.mp hrnull, unbounded_extendTo]
    exact hother
  · by_cases hnull : other.isNull = true
    · rw [isNull_iff.mp hnull, extendTo_unbounded]
      exact hr
    · rw [Bool.not_eq_true] at hrnull hnull
      rw [extendTo_eq_hull hrnull hnull]
      exact fun _ => isSome_bound_hull (hr hrnull) (hother hnull)

theorem closedOn_unbounded (side : Side) : unbounded.ClosedOn side := by
  intro hknown
  contradiction

theorem ClosedOn.extendTo_right_comm (hz : z.ClosedOn side) (hx : x.ClosedOn side)
    (hy : y.ClosedOn side) : (z.extendTo x).extendTo y = (z.extendTo y).extendTo x := by
  by_cases hznull : z.isNull = true
  · rw [isNull_iff.mp hznull, unbounded_extendTo, unbounded_extendTo, extendTo_comm]
  · rw [Bool.not_eq_true] at hznull
    by_cases hxnull : x.isNull = true
    · rw [isNull_iff.mp hxnull, extendTo_unbounded, extendTo_unbounded]
    · by_cases hynull : y.isNull = true
      · rw [isNull_iff.mp hynull, extendTo_unbounded, extendTo_unbounded]
      · rw [Bool.not_eq_true] at hxnull hynull
        have hzx := hz.isNull_extendTo hx (Or.inl hznull)
        have hzy := hz.isNull_extendTo hy (Or.inl hznull)
        rw [extendTo_eq_hull hzx hynull, extendTo_eq_hull hzy hxnull,
          extendTo_eq_hull hznull hxnull, extendTo_eq_hull hznull hynull, hull_right_comm]

/-! ## Any order -/

theorem foldl_extendTo_perm (h : ranges.Perm ranges')
    (hranges : ∀ r ∈ ranges, r.ClosedOn side) (hz : z.ClosedOn side) :
    ranges.foldl DateRange.extendTo z = ranges'.foldl DateRange.extendTo z := by
  induction h generalizing z with
  | nil => rfl
  | cons x h ih =>
      rw [List.forall_mem_cons] at hranges
      exact ih hranges.2 (hz.extendTo hranges.1)
  | swap x y ranges =>
      rw [List.forall_mem_cons, List.forall_mem_cons] at hranges
      simp only [List.foldl_cons]
      rw [hz.extendTo_right_comm hranges.1 hranges.2.1]
  | trans h h' ih ih' =>
      have hranges' := fun r hr => hranges r (h.mem_iff.mpr hr)
      exact (ih hranges hz).trans (ih' hranges' hz)

/-- Where all ranges are closed on one side, their order does not matter. -/
theorem spanOf_perm (hranges : ∀ r ∈ ranges, r.ClosedOn side) (h : ranges.Perm ranges') :
    spanOf ranges = spanOf ranges' :=
  foldl_extendTo_perm h hranges (closedOn_unbounded side)

/-! ## All that was added -/

/-- The bounds of a range are not inside those of another. -/
structure Covers (r other : DateRange) : Prop where
  start : ∀ a, r.start = some a → ∃ b, other.start = some b ∧ a ≤ b
  stop : ∀ a, r.stop = some a → ∃ b, other.stop = some b ∧ b ≤ a

theorem Covers.refl (r : DateRange) : r.Covers r where
  start a ha := ⟨a, ha, le_refl a⟩
  stop a ha := ⟨a, ha, le_refl a⟩

theorem Covers.trans (hxy : x.Covers y) (hyz : y.Covers z) : x.Covers z where
  start a ha := by
    obtain ⟨b, hb, hab⟩ := hxy.start a ha
    obtain ⟨c, hc, hbc⟩ := hyz.start b hb
    exact ⟨c, hc, le_trans hab hbc⟩
  stop a ha := by
    obtain ⟨b, hb, hba⟩ := hxy.stop a ha
    obtain ⟨c, hc, hcb⟩ := hyz.stop b hb
    exact ⟨c, hc, le_trans hcb hba⟩

theorem widerBound_eq_some {further : Timestamp → Timestamp → Timestamp}
    {a b : Option Timestamp} {c : Timestamp} (h : widerBound further a b = some c) :
    ∃ a' b', a = some a' ∧ b = some b' ∧ c = further a' b' := by
  cases a with
  | none => contradiction
  | some a => cases b with
    | none => contradiction
    | some b =>
        cases h
        exact ⟨a, b, rfl, rfl, rfl⟩

theorem covers_hull_left (r other : DateRange) : (r.hull other).Covers r where
  start c hc := by
    obtain ⟨a, b, ha, -, rfl⟩ := widerBound_eq_some hc
    exact ⟨a, ha, min_le_left a b⟩
  stop c hc := by
    obtain ⟨a, b, ha, -, rfl⟩ := widerBound_eq_some hc
    exact ⟨a, ha, le_max_left a b⟩

theorem covers_extendTo_left (hr : r.isNull = false) : (r.extendTo other).Covers r := by
  by_cases hnull : other.isNull = true
  · rw [isNull_iff.mp hnull, extendTo_unbounded]
    exact Covers.refl r
  · rw [Bool.not_eq_true] at hnull
    rw [extendTo_eq_hull hr hnull]
    exact covers_hull_left r other

theorem covers_extendTo_right (hother : other.isNull = false) :
    (r.extendTo other).Covers other := by
  rw [extendTo_comm]
  exact covers_extendTo_left hother

/-- What was known at first and what is added stays covered. -/
theorem covers_foldl_extendTo (hranges : ∀ r ∈ ranges, r.ClosedOn side)
    (hz : z.ClosedOn side) :
    (z.isNull = false → (ranges.foldl DateRange.extendTo z).Covers z) ∧
      ∀ r ∈ ranges, r.isNull = false → (ranges.foldl DateRange.extendTo z).Covers r := by
  induction ranges generalizing z with
  | nil => exact ⟨fun _ => Covers.refl z, by simp⟩
  | cons x ranges ih =>
      rw [List.forall_mem_cons] at hranges
      obtain ⟨hwidened, hrest⟩ := ih hranges.2 (hz.extendTo hranges.1)
      constructor
      · intro hznull
        have hknown := hz.isNull_extendTo hranges.1 (Or.inl hznull)
        exact (hwidened hknown).trans (covers_extendTo_left hznull)
      · rw [List.forall_mem_cons]
        refine ⟨fun hxnull => ?_, hrest⟩
        have hknown := hz.isNull_extendTo hranges.1 (Or.inr hxnull)
        exact (hwidened hknown).trans (covers_extendTo_right hxnull)

/-- The latest timestamp is not the last one: a leap second follows it, and is not in a
range that is open at the end. -/
theorem Covers.fit_eq (h : r.Covers other) (hlast : r.stop = none → other.upper ≤ .latest) :
    other.fit r = .contained := by
  have hlower : r.lower ≤ other.lower := by
    unfold lower
    cases hstart : r.start with
    | none => exact Timestamp.earliest_first _
    | some a =>
        obtain ⟨b, hb, hab⟩ := h.start a hstart
        rw [hb]
        exact hab
  have hupper : other.upper ≤ r.upper := by
    cases hstop : r.stop with
    | none =>
        have hupper : r.upper = .latest := by rw [upper, hstop, Option.getD_none]
        rw [hupper]
        exact hlast hstop
    | some a =>
        obtain ⟨b, hb, hba⟩ := h.stop a hstop
        rw [upper, upper, hstop, hb]
        exact hba
  rw [fit, if_pos ⟨hlower, hupper⟩]

/-- Where all ranges are closed on one side, each of them lies in what they make. -/
theorem fit_spanOf (hranges : ∀ r ∈ ranges, r.ClosedOn side) (hr : r ∈ ranges)
    (hknown : r.isNull = false) (hlast : (spanOf ranges).stop = none → r.upper ≤ .latest) :
    r.fit (spanOf ranges) = .contained :=
  ((covers_foldl_extendTo hranges (closedOn_unbounded side)).2 r hr hknown).fit_eq hlast

end DateRange

end TagQuery
