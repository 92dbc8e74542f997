import TagQuery.Pattern.Automaton.Layout

/-!
# Alternative words in an automaton

Alternatives that are all plain texts become a tree.  Every node of the tree is a
fork; it leads to a table of the octets that go on, and to the end where a word
is complete.  Words that come after a complete one have a table of their own,
because the earlier one is preferred.
-/

namespace TagQuery.Pattern.Automaton

/-- The octets of a word that are still to be read. -/
abbrev Word := List UInt8

/--
The words that go on from a node, in stretches between the words that are
complete there.  A word that is complete before any goes on counts once.
-/
def stretchesOf (current : List Word) (complete goesOn : Bool) : List Word → List (List Word)
  | [] => [current.reverse]
  | [] :: words =>
    if complete && !goesOn then stretchesOf current complete goesOn words
    else current.reverse :: stretchesOf [] true goesOn words
  | word :: words => stretchesOf (word :: current) complete true words

/-- The first octets of words, each once, with what follows them. -/
def byFirstOctet (words : List Word) : List (List Word) :=
  (words.filterMap List.head?).eraseDups.map fun octet =>
    words.filterMap fun
      | first :: rest => if first = octet then some rest else none
      | [] => none

/-- What the tree takes from a node on, if no word is longer than given. -/
def treeLayout : Nat → List Word → Layout
  | 0, _ => {}
  | longest + 1, words =>
    let stretches := stretchesOf [] false false words
    let tables := (stretches.map byFirstOctet).filter (!·.isEmpty)
    let node : Layout :=
      { states := 1 + tables.length
        arcs := ((tables.map List.length).filter (1 < ·)).foldl (· + ·) 0
        links := tables.length + (stretches.length - 1) }
    (tables.flatten.filter fun rests => rests.any (!·.isEmpty)).foldl
      (fun layout rests => layout.add (treeLayout longest rests)) node

/-- Lays out alternative words. -/
def layWords (words : List Word) : Assembly Unit := do
  let _ ← newState
  grow (treeLayout (words.foldl (fun longest word => max longest word.length) 0 + 1) words)

end TagQuery.Pattern.Automaton
