/-!
# How much room an automaton takes

An automaton is laid out state by state.  A state takes a fixed amount of room; a
table of arcs and a fork with links take more for each of their entries.  Only
what has been laid out so far is kept, and laying out stops when there is no more
room.
-/

namespace TagQuery.Pattern.Automaton

/-- What has been laid out. -/
structure Layout where
  states : Nat := 0
  /-- The entries of all tables of arcs. -/
  arcs : Nat := 0
  /-- The entries of all forks. -/
  links : Nat := 0
  deriving DecidableEq, Repr

namespace Layout

/-- The room that is taken, in bytes. -/
def bytes (layout : Layout) : Nat :=
  32 * layout.states + 8 * layout.arcs + 4 * layout.links

/-- The room there is: ten mebibytes. -/
def capacity : Nat := 10485760

def add (layout more : Layout) : Layout :=
  { states := layout.states + more.states
    arcs := layout.arcs + more.arcs
    links := layout.links + more.links }

end Layout

/-- A step of laying out, which fails when there is no room left. -/
abbrev Assembly (α : Type) := StateT Layout Option α

/-- Lays out so much more. -/
def grow (more : Layout) : Assembly Unit := fun layout =>
  let grown := layout.add more
  if grown.bytes ≤ Layout.capacity then some ((), grown) else none

def newState : Assembly Nat := do
  let layout ← get
  grow { states := 1 }
  return layout.states

/-- Lays out a table with so many arcs and gives its number. -/
def newTable (arcs : Nat) : Assembly Nat := do
  let layout ← get
  grow { states := 1, arcs := arcs }
  return layout.states

/-- How the last state of a part goes on to what follows. -/
inductive Exit where
  /-- The state has a single way on. -/
  | plain
  /-- The state is a fork, where the way on is one more link. -/
  | fork
  deriving DecidableEq, Repr

/-- Joins the end of a part to what follows it. -/
def Exit.join : Exit → Assembly Unit
  | .plain => pure ()
  | .fork => grow { links := 1 }

/-- Repeats a part so many more times after an end. -/
def repeatAfter (part : Assembly Exit) (exit : Exit) : Nat → Assembly Exit
  | 0 => pure exit
  | n + 1 => do
    let next ← part
    exit.join
    repeatAfter part next n

/-- Repeats a part so many times; a part that is there no times is an empty state. -/
def repeatTimes (part : Assembly Exit) : Nat → Assembly Exit
  | 0 => do
    let _ ← newState
    return .plain
  | n + 1 => do
    let exit ← part
    repeatAfter part exit n

/-- Repeats a part up to so many times after an end; every time it can be left out. -/
def repeatOptional (part : Assembly Exit) (exit : Exit) : Nat → Assembly Exit
  | 0 => pure exit
  | n + 1 => do
    let _ ← newState
    let next ← part
    exit.join
    grow { links := 2 }
    repeatOptional part next n

end TagQuery.Pattern.Automaton
