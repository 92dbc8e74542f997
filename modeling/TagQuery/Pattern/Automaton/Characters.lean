import TagQuery.Pattern.Automaton.Layout
import TagQuery.Pattern.Automaton.Memo
import TagQuery.Text.Octets

/-!
# Sets of characters in an automaton

An automaton reads octets.  Going forward, the octet sequences of a set become a
tree of tables in which equal tables are laid out once.  Going backward, they
become a fork into chains of states, which share what they have in common at
their ends.
-/

namespace TagQuery.Pattern.Automaton

open Text

/-! ## Forward -/

/-- Sequences with the same first range side by side, each group with what follows that range. -/
def groupByFirst : List (List OctetRange) → List (OctetRange × List (List OctetRange))
  | [] => []
  | [] :: sequences => groupByFirst sequences
  | (range :: rest) :: sequences =>
    match groupByFirst sequences with
    | (next, rests) :: groups =>
      if next = range then (range, rest :: rests) :: groups
      else (range, [rest]) :: (next, rests) :: groups
    | [] => [(range, [rest])]

/-- The table for a group of sequences, and the tables after it, deepest first. -/
def tableFor (target : Nat) : Nat → List (List OctetRange) → StateT Memo Assembly Nat
  | 0, _ => return target
  | depth + 1, sequences => do
    let groups := groupByFirst sequences
    if groups.isEmpty then return target
    let arcs ← groups.mapM fun (range, rests) => do
      return [range.first, range.last, ← tableFor target depth rests]
    let key := arcs.flatten
    match (← get).find? key with
    | some state => return state
    | none =>
      let state ← newTable arcs.length
      modify (·.put key state)
      return state

/-- Lays out a set for reading forward. -/
def layForward (sequences : List (List OctetRange)) : Assembly Unit := do
  let target ← newState
  discard <| (tableFor target 4 sequences).run { places := 10000 }

/-! ## Backward -/

/-- The chain for one sequence, built from the end that all chains share. -/
def chainFrom (state : Nat) : List OctetRange → StateT Memo Assembly Nat
  | [] => return state
  | range :: rest => do
    let key := [state, range.first, range.last]
    match (← get).find? key with
    | some known => chainFrom known rest
    | none =>
      let next ← newState
      modify (·.put key next)
      chainFrom next rest

/-- Lays out a set for reading backward. -/
def layBackward (sequences : List (List OctetRange)) : Assembly Unit := do
  let _ ← newState
  let end_ ← newState
  discard <| (sequences.forM fun sequence => do
    let _ ← chainFrom end_ sequence
    grow { links := 1 }).run { places := 1000 }

end TagQuery.Pattern.Automaton
