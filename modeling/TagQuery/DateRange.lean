import TagQuery.Timestamp

/-!
# Date ranges

A photo rarely has an exact time: a scanned print carries a year, a month or a
span of days.  Records therefore have a range of time, which may be open on
either side.  The same ranges serve as search windows.
-/

namespace TagQuery

/-- A span of time; a bound that is missing leaves it open on that side. -/
structure DateRange where
  start : Option Timestamp
  stop : Option Timestamp
  deriving DecidableEq

/-- How a range lies with respect to a window. -/
inductive Fit where
  | contained
  | partly
  | apart
  deriving DecidableEq, Repr

namespace DateRange

def unbounded : DateRange := ⟨none, none⟩

/-- The range with the given bounds, exchanged if they are reversed. -/
def ordered (start stop : Option Timestamp) : DateRange :=
  match start, stop with
  | some a, some b => if b < a then ⟨some b, some a⟩ else ⟨some a, some b⟩
  | _, _ => ⟨start, stop⟩

/-- The range between two instants, in either order. -/
def between (a b : Timestamp) : DateRange :=
  ordered (some a) (some b)

def instant (t : Timestamp) : DateRange :=
  ordered (some t) (some t)

/-- Nothing is known about either bound. -/
def isNull (r : DateRange) : Bool :=
  r.start.isNone && r.stop.isNone

/-- The start, with the earliest timestamp for an open one. -/
def lower (r : DateRange) : Timestamp :=
  r.start.getD .earliest

/-- The end, with the latest timestamp for an open one. -/
def upper (r : DateRange) : Timestamp :=
  r.stop.getD .latest

/-- How the range lies with respect to a window. -/
def fit (r window : DateRange) : Fit :=
  if window.lower ≤ r.lower ∧ r.upper ≤ window.upper then .contained
  else if window.lower ≤ r.upper ∧ r.lower ≤ window.upper then .partly
  else .apart

def overlaps (r other : DateRange) : Bool :=
  r.fit other != .apart

def includes (r : DateRange) (t : Timestamp) : Bool :=
  (instant t).fit r == .contained

/-- The bound of two that reaches further; an open one reaches furthest. -/
def widerBound (further : Timestamp → Timestamp → Timestamp) :
    Option Timestamp → Option Timestamp → Option Timestamp
  | some a, some b => some (further a b)
  | _, _ => none

/--
The range widened to cover another.  A range about which nothing is known adds
nothing, and becomes the other one.
-/
def extendTo (r other : DateRange) : DateRange :=
  if r.isNull then other
  else if other.isNull then r
  else ⟨widerBound min r.start other.start, widerBound max r.stop other.stop⟩

end DateRange

end TagQuery
