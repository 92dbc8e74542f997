/-!
# Sets of characters by code point

Character properties and classes are kept as the list of code points at which
membership changes: the first bound begins a run of members, the second ends
it, and so on.  Sets are joined by walking along the bounds of both.
-/

namespace TagQuery.Text

/-- A set of characters, given by the code points where runs of members begin and end. -/
structure CodeSet where
  /-- Ascending; entries at even places begin a run, entries at odd places end one. -/
  bounds : Array Nat
  deriving DecidableEq, Repr

namespace CodeSet

/--
How many bounds do not exceed a code point, given that those before `low` do not
and those from `high` on do.
-/
def rankBetween (set : CodeSet) (code low high : Nat) : Nat :=
  if low < high then
    let middle := (low + high) / 2
    if set.bounds.getD middle 0 ≤ code then rankBetween set code (middle + 1) high
    else rankBetween set code low middle
  else low
termination_by high - low

/-- A code point is a member when an odd number of bounds do not exceed it. -/
def containsCode (set : CodeSet) (code : Nat) : Bool :=
  set.rankBetween code 0 set.bounds.size % 2 == 1

/-- A character is a member when its code point is one. -/
def contains (set : CodeSet) (c : Char) : Bool :=
  set.containsCode c.toNat

/-! ## Joining sets -/

/--
The bounds of a set whose members are told from their membership in two other
sets, from a place on at which the membership in both is known.
-/
def joinBounds (belongs : Bool → Bool → Bool) (inLeft inRight : Bool) :
    List Nat → List Nat → List Nat
  | [], [] => []
  | x :: xs, [] => change x (!inLeft) inRight (joinBounds belongs (!inLeft) inRight xs [])
  | [], y :: ys => change y inLeft (!inRight) (joinBounds belongs inLeft (!inRight) [] ys)
  | x :: xs, y :: ys =>
    if x < y then
      change x (!inLeft) inRight (joinBounds belongs (!inLeft) inRight xs (y :: ys))
    else if y < x then
      change y inLeft (!inRight) (joinBounds belongs inLeft (!inRight) (x :: xs) ys)
    else change x (!inLeft) (!inRight) (joinBounds belongs (!inLeft) (!inRight) xs ys)
termination_by left right => left.length + right.length
where
  /-- Puts a bound in front if membership changes there. -/
  change (place : Nat) (nowLeft nowRight : Bool) (later : List Nat) : List Nat :=
    if belongs inLeft inRight == belongs nowLeft nowRight then later else place :: later

/-- The set of the characters that belong by their membership in two sets. -/
def join (belongs : Bool → Bool → Bool) (left right : CodeSet) : CodeSet :=
  ⟨(joinBounds belongs false false left.bounds.toList right.bounds.toList).toArray⟩

def empty : CodeSet :=
  ⟨#[]⟩

/-- Every character; the surrogates are not characters. -/
def full : CodeSet :=
  ⟨#[0, 0xd800, 0xe000, 0x110000]⟩

def union (left right : CodeSet) : CodeSet :=
  join (· || ·) left right

def inter (left right : CodeSet) : CodeSet :=
  join (· && ·) left right

/-- The members of the first set that are not members of the second. -/
def diff (left right : CodeSet) : CodeSet :=
  join (fun l r => l && !r) left right

/-- The members of one of the sets, but not of both. -/
def symmDiff (left right : CodeSet) : CodeSet :=
  join (· != ·) left right

def compl (set : CodeSet) : CodeSet :=
  full.diff set

/-! ## Making sets and taking them apart -/

def ofRange (first last : Char) : CodeSet :=
  if first ≤ last then full.inter ⟨#[first.toNat, last.toNat + 1]⟩ else empty

def ofRanges (ranges : List (Char × Char)) : CodeSet :=
  ranges.foldl (fun set (first, last) => set.union (ofRange first last)) empty

def singleton (c : Char) : CodeSet :=
  ⟨#[c.toNat, c.toNat + 1]⟩

/-- The bounds of the set of code points in an ascending list. -/
def boundsOf : List Nat → List Nat
  | [] => []
  | code :: codes =>
    match boundsOf codes with
    | [] => [code, code + 1]
    | next :: later =>
      if next = code then next :: later
      else if next = code + 1 then code :: later
      else code :: (code + 1) :: next :: later

/-- The set of the code points in a list. -/
def ofCodes (codes : List Nat) : CodeSet :=
  ⟨(boundsOf (codes.mergeSort fun x y => x ≤ y)).toArray⟩

/-- The runs that bounds enclose, each with its first and its last code point. -/
def runsBetween : List Nat → List (Nat × Nat)
  | first :: stop :: later => (first, stop - 1) :: runsBetween later
  | _ => []

/-- The runs of members in ascending order, each with its first and its last code point. -/
def runs (set : CodeSet) : List (Nat × Nat) :=
  runsBetween set.bounds.toList

def isEmpty (set : CodeSet) : Bool :=
  set.bounds.isEmpty

/-- The only member, if there is just one. -/
def single? (set : CodeSet) : Option Char :=
  match set.runs with
  | [(first, last)] => if first = last then some (Char.ofNat first) else none
  | _ => none

/-- Every member is one of the 128 characters of ASCII. -/
def isAscii (set : CodeSet) : Bool :=
  set.bounds.toList.all (· ≤ 128)

end CodeSet

/-- A run of code points, `step` apart, which all move by the same distance. -/
structure CodeShift where
  first : Nat
  last : Nat
  step : Nat
  distance : Int

namespace CodeShift

/-- Where a code point moves, if the run has it. -/
def moved? (run : CodeShift) (code : Nat) : Option Nat :=
  if run.first ≤ code && code ≤ run.last && (code - run.first) % run.step == 0 then
    some (Int.toNat (code + run.distance))
  else none

/-- The code point of the run that moves to the given one, if there is one. -/
def origin? (run : CodeShift) (code : Nat) : Option Nat :=
  let source := Int.toNat (code - run.distance)
  if run.moved? source == some code then some source else none

/-- The code points of the run, each with the one it moves to. -/
def moves (run : CodeShift) : List (Nat × Nat) :=
  (List.range' run.first ((run.last - run.first) / run.step + 1) run.step).map fun code =>
    (code, Int.toNat (code + run.distance))

end CodeShift

end TagQuery.Text
