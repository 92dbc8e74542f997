import Std.Data.HashMap

/-!
# A memory with few places

Numbers of states that were laid out before are remembered under a key.  The
memory has a fixed number of places; a key always goes to the same place, and
drives out what was there before.
-/

namespace TagQuery.Pattern.Automaton

/-- A digest of 64 bits: one number after the other is mixed in, and the result is multiplied. -/
def digest (key : List Nat) : UInt64 :=
  key.foldl (fun sofar n => (sofar ^^^ n.toUInt64) * 1099511628211) 14695981039346656037

/-- What is remembered. -/
structure Memo where
  /-- The number of places. -/
  places : Nat
  /-- The key and the state at each place that is taken. -/
  taken : Std.HashMap Nat (List Nat × Nat) := {}

namespace Memo

def placeOf (memo : Memo) (key : List Nat) : Nat :=
  (digest key).toNat % memo.places

def find? (memo : Memo) (key : List Nat) : Option Nat :=
  match memo.taken[memo.placeOf key]? with
  | some (found, state) => if found = key then some state else none
  | none => none

def put (memo : Memo) (key : List Nat) (state : Nat) : Memo :=
  { memo with taken := memo.taken.insert (memo.placeOf key) (key, state) }

end Memo

end TagQuery.Pattern.Automaton
