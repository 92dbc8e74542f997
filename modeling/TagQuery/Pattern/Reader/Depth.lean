import TagQuery.Pattern.Simplified

/-!
# How deeply an expression is nested

What is written inside a group, a repetition, a sequence, a choice or a bracketed
class is one level deeper.  An expression may not be nested more deeply than a
fixed limit.
-/

namespace TagQuery.Pattern

/-- The deepest nesting that can be read. -/
def maxDepth : Nat := 250

/-- Something that was read, with how deeply it is nested. -/
structure Nested (α : Type) where
  value : α
  depth : Nat := 0

namespace Nested

/-- The depth of several items side by side; a single item is no deeper for it. -/
def depthOf : List Nat → Nat
  | [] => 0
  | [depth] => depth
  | depths => depths.foldl max 0 + 1

/-- One level around something, which changes it. -/
def wrap (f : α → β) (inner : Nested α) : Nested β :=
  ⟨f inner.value, inner.depth + 1⟩

/-- Several items side by side, as one. -/
def combine (f : List α → β) (items : List (Nested α)) : Nested β :=
  ⟨f (items.map (·.value)), depthOf (items.map (·.depth))⟩

end Nested

end TagQuery.Pattern
