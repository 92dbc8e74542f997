import TagQuery.DateRange

/-!
# Counting ranges in a window

The date bar asks how many records fall into a window, again and again.  The
index keeps the ranges by their start, and for every end the first place from
which a range that reaches it can occur.  A count jumps past all that ended
before the window and stops where ranges begin after it.  The latest answers are
kept.
-/

namespace TagQuery

/-- How many ranges lie in a window, and how many only in part. -/
structure DateCount where
  exact : Nat
  overlapping : Nat
  deriving DecidableEq, Repr

namespace DateCount

/-- The count over a list of ranges, one by one. -/
def ofRanges (window : DateRange) (ranges : List DateRange) : DateCount :=
  { exact := ranges.countP (·.fit window == .contained)
    overlapping := ranges.countP (·.fit window == .partly) }

end DateCount

/-- Ranges prepared for counting. -/
structure DateIndex where
  /-- Ordered by start and then by end. -/
  byStart : List DateRange
  /-- Ends in ascending order, each with the first place of a range that reaches it. -/
  byEnd : List (Timestamp × Nat)
  /-- The earliest start that is known. -/
  firstStart : Option Timestamp
  /-- The latest end that is known. -/
  lastStop : Option Timestamp
  /-- How many answers are kept. -/
  capacity : Nat
  /-- Answers that are kept, the latest used first. -/
  recent : List (DateRange × DateCount)

namespace DateIndex

/-- The number of answers kept where nothing else is said. -/
def defaultCapacity : Nat := 256

/-- The order by start and then by end. -/
def startsNoLater (a b : DateRange) : Bool :=
  a.lower < b.lower || (a.lower ≤ b.lower && a.upper ≤ b.upper)

/-- Gives every end the smallest place among its own and those of later ends. -/
def smallestPlaces : List (Timestamp × Nat) → List (Timestamp × Nat)
  | [] => []
  | (stop, place) :: rest =>
    match smallestPlaces rest with
    | [] => [(stop, place)]
    | (next, smallest) :: more => (stop, min place smallest) :: (next, smallest) :: more

/-- The ends of ranges with their places, in ascending order. -/
def sortedEnds (byStart : List DateRange) : List (Timestamp × Nat) :=
  (byStart.zipIdx.map fun (range, place) => (range.upper, place)).mergeSort
    fun a b => a.1 ≤ b.1

/-- The index over ranges given in any order. -/
def build (ranges : List DateRange) (capacity : Nat) : DateIndex :=
  let byStart := ranges.mergeSort startsNoLater
  { byStart
    byEnd := smallestPlaces (sortedEnds byStart)
    firstStart := (byStart.filterMap (·.start)).min?
    lastStop := (byStart.filterMap (·.stop)).max?
    capacity
    recent := [] }

def size (index : DateIndex) : Nat :=
  index.byStart.length

/-- The count for a window, worked out from the index. -/
def scan (index : DateIndex) (window : DateRange) : DateCount :=
  match index.byEnd.find? fun e => window.lower ≤ e.1 with
  | none => ⟨0, 0⟩
  | some (_, first) =>
    .ofRanges window
      ((index.byStart.drop first).takeWhile fun range => range.lower ≤ window.upper)

/-- The index after an answer was used. -/
def keep (index : DateIndex) (window : DateRange) (answer : DateCount) : DateIndex :=
  { index with
    recent :=
      ((window, answer) :: index.recent.filter (·.1 ≠ window)).take index.capacity }

/-- The count for a window, from the answers kept if it is among them. -/
def count (index : DateIndex) (window : DateRange) : DateCount × DateIndex :=
  let answer :=
    match index.recent.find? (·.1 = window) with
    | some (_, known) => known
    | none => index.scan window
  (answer, index.keep window answer)

/-- The counts for several windows, one after the other. -/
def countAll (index : DateIndex) : List DateRange → List DateCount × DateIndex
  | [] => ([], index)
  | window :: windows =>
    let (answer, index) := index.count window
    let (answers, index) := countAll index windows
    (answer :: answers, index)

/-- The earliest known start, or the beginning of 1900. -/
def lowerBound (index : DateIndex) : Timestamp :=
  index.firstStart.getD (.midnight 1900 1 1)

/-- The latest known end, or the beginning of 2100. -/
def upperBound (index : DateIndex) : Timestamp :=
  index.lastStop.getD (.midnight 2100 1 1)

/-- The window from the earliest known start to the latest known end. -/
def fullWindow (index : DateIndex) : DateRange :=
  .between index.lowerBound index.upperBound

end DateIndex

end TagQuery
