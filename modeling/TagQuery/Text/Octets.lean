import TagQuery.Text.CodeSet

/-!
# Characters as octets

A range of code points as sequences of octet ranges: each sequence stands for all
ways to choose one octet from each of its ranges, and all of them together are
the UTF-8 forms of the code points.
-/

namespace TagQuery.Text

/-- The octets from the first to the last. -/
structure OctetRange where
  first : Nat
  last : Nat
  deriving DecidableEq, Repr

/-- The largest code point with a UTF-8 form of so many octets. -/
def maxCodeOf : Nat → Nat
  | 1 => 0x7f
  | 2 => 0x7ff
  | 3 => 0xffff
  | _ => 0x10ffff

/-- How many octets the UTF-8 form of a code point has. -/
def octetCount (code : Nat) : Nat :=
  if code ≤ maxCodeOf 1 then 1
  else if code ≤ maxCodeOf 2 then 2
  else if code ≤ maxCodeOf 3 then 3
  else 4

/-- The UTF-8 form of a code point. -/
def octetsOf (code : Nat) : List Nat :=
  let tail (place : Nat) := 0x80 + code / Nat.pow 64 place % 64
  match octetCount code with
  | 1 => [code]
  | 2 => [0xc0 + code / 64, tail 0]
  | 3 => [0xe0 + code / 4096, tail 1, tail 0]
  | _ => [0xf0 + code / 262144, tail 2, tail 1, tail 0]

/--
The place where a range has to be divided: the last code point of the first part.
It is the end of the code points with as many octets, or the end of those that
share their octets up to some place, if the range does not have all of these.
-/
def divideAt? (first last : Nat) : Option Nat :=
  let bySize := [1, 2, 3].findSome? fun count =>
    let bound := maxCodeOf count
    if first ≤ bound && bound < last then some bound else none
  match bySize with
  | some place => some place
  | none =>
    if last ≤ maxCodeOf 1 then none
    else
      [1, 2, 3].findSome? fun places =>
        let block := Nat.pow 64 places
        if first / block = last / block then none
        else if first % block ≠ 0 then some (first / block * block + block - 1)
        else if last % block ≠ block - 1 then some (last / block * block - 1)
        else none

/--
The sequences for the code points from the first to the last, in ascending
order, if no range has to be divided more often in a row than given.
-/
def octetSequencesWithin : Nat → Nat → Nat → List (List OctetRange)
  | 0, _, _ => []
  | fuel + 1, first, last =>
    match divideAt? first last with
    | some place =>
      octetSequencesWithin fuel first place ++ octetSequencesWithin fuel (place + 1) last
    | none => [(octetsOf first).zipWith OctetRange.mk (octetsOf last)]

/--
The sequences for the code points from the first to the last.  A range is divided
at most three times for the number of octets and twice for each of three places.
-/
def octetSequences (first last : Nat) : List (List OctetRange) :=
  octetSequencesWithin 10 first last

/-- The sequences for the members of a set, in ascending order. -/
def CodeSet.octetSequences (set : CodeSet) : List (List OctetRange) :=
  (set.inter .full).runs.flatMap fun (first, last) => Text.octetSequences first last

end TagQuery.Text
