import TagQuery.Pattern
import TagQuery.Record

/-!
# Matchers

What a match text asks of a record, as a tree.  The leaves look at the tags of
one category.  The exact matcher says "these and no other": it evaluates its
terms, notes every value they mention, and rejects a record with a tag in the
category that was not mentioned.
-/

namespace TagQuery

/-- A record has to carry a value or one of the members of its group. -/
structure ValueMatcher where
  category : String
  value : String
  members : TagSet
  deriving DecidableEq

/-- A term of an exact matcher. -/
structure ExactTerm where
  value : ValueMatcher
  negated : Bool
  deriving DecidableEq

/-- Free text matched against all tags; the values it matches are known beforehand. -/
structure Wildcard where
  pattern : Pattern
  matching : TagTable

/-- A condition on the tags of a record. -/
inductive Matcher where
  | and (children : List Matcher)
  | or (children : List Matcher)
  | not (child : Matcher)
  | value (value : ValueMatcher)
  /-- The terms hold, and the category has no tag that they do not mention. -/
  | exact (category : String) (terms : List ExactTerm)
  | noTag (category : String)
  | wildcard (wildcard : Wildcard)

/-- The values that an evaluation has come by, if they are wanted. -/
structure Notes where
  /-- Values are noted. -/
  tracking : Bool
  /-- The values noted, by category. -/
  mentioned : TagTable

namespace Notes

def off : Notes := ⟨false, ∅⟩

def on : Notes := ⟨true, ∅⟩

/-- Notes a value, if values are noted. -/
def add (notes : Notes) (category value : String) : Notes :=
  if notes.tracking then
    { notes with
      mentioned :=
        notes.mentioned.insert category ((notes.mentioned.valuesOf category).insert value) }
  else notes

end Notes

namespace ValueMatcher

/-- The record has the value or one of the members. -/
def accepts (v : ValueMatcher) (r : Record) : Bool :=
  r.hasTag v.category v.value || (!v.members.isEmpty && r.hasAnyTag v.category v.members)

/-- Notes the value and tells whether the record is accepted. -/
def eval (v : ValueMatcher) (r : Record) (notes : Notes) : Bool × Notes :=
  (v.accepts r, notes.add v.category v.value)

end ValueMatcher

namespace ExactTerm

/-- Evaluates terms as long as they hold; `none` when one does not. -/
def evalAll (r : Record) : List ExactTerm → Notes → Option Notes
  | [], notes => some notes
  | term :: terms, notes =>
    let (accepted, notes) := term.value.eval r notes
    if accepted = term.negated then none else evalAll r terms notes

end ExactTerm

namespace Wildcard

/-- The record has a tag, in any category, that the free text matches. -/
def accepts (w : Wildcard) (r : Record) : Bool :=
  w.matching.toList.any fun (category, values) => r.hasAnyTag category values

end Wildcard

namespace Matcher

/-- The terms hold, and they mention every tag that the record has in the category. -/
def exactAccepts (category : String) (terms : List ExactTerm) (r : Record) : Bool :=
  if terms.isEmpty then false
  else
    match ExactTerm.evalAll r terms .on with
    | none => false
    | some notes =>
      (r.tagsOf category).toList.all (notes.mentioned.valuesOf category).contains

mutual

/-- Evaluates a matcher on a record and notes the values met on the way. -/
def eval (r : Record) : Matcher → Notes → Bool × Notes
  | .and children, notes => evalAll r children notes
  | .or children, notes => evalAny r children notes
  | .not child, notes =>
    let (accepted, notes) := eval r child notes
    (!accepted, notes)
  | .value v, notes => v.eval r notes
  | .exact category terms, notes => (exactAccepts category terms r, notes)
  | .noTag category, notes => ((r.tagsOf category).isEmpty, notes)
  | .wildcard w, notes => (w.accepts r, notes)

/-- Evaluates matchers up to the first that rejects the record. -/
def evalAll (r : Record) : List Matcher → Notes → Bool × Notes
  | [], notes => (true, notes)
  | child :: children, notes =>
    let (accepted, notes) := eval r child notes
    if accepted then evalAll r children notes else (false, notes)

/-- Evaluates matchers up to the first that accepts the record. -/
def evalAny (r : Record) : List Matcher → Notes → Bool × Notes
  | [], notes => (false, notes)
  | child :: children, notes =>
    let (accepted, notes) := eval r child notes
    if accepted then (true, notes) else evalAny r children notes

end

def accepts (m : Matcher) (r : Record) : Bool :=
  (m.eval r .off).1

mutual

/-- Some part of the matcher is exact. -/
def hasExact : Matcher → Bool
  | .and children => anyHasExact children
  | .or children => anyHasExact children
  | .not child => hasExact child
  | .exact _ _ => true
  | .value _ => false
  | .noTag _ => false
  | .wildcard _ => false

def anyHasExact : List Matcher → Bool
  | [] => false
  | child :: children => hasExact child || anyHasExact children

end

mutual

/--
Two matchers are the same: children and terms in the same order, sets as sets,
and patterns by the text that writes them.
-/
def same : Matcher → Matcher → Bool
  | .and xs, .and ys => sameList xs ys
  | .or xs, .or ys => sameList xs ys
  | .not x, .not y => same x y
  | .value v, .value w => v = w
  | .exact c ts, .exact d us => c = d && ts = us
  | .noTag c, .noTag d => c = d
  | .wildcard v, .wildcard w =>
    v.pattern.source = w.pattern.source && v.matching == w.matching
  | _, _ => false

def sameList : List Matcher → List Matcher → Bool
  | [], [] => true
  | x :: xs, y :: ys => same x y && sameList xs ys
  | _, _ => false

end

/-! ## Outlines -/

/-- A line at a depth of three spaces a level. -/
def outlineLine (level : Nat) (text : String) : String :=
  String.ofList (List.replicate (3 * level) ' ') ++ text ++ "\n"

/-- The line of a term. -/
def termLine (level : Nat) (term : ExactTerm) : String :=
  let mark := if term.negated then "!" else ""
  outlineLine level (term.value.category ++ ": " ++ mark ++ term.value.value)

mutual

/-- The tree over several lines, one for each node. -/
def outlineAt (level : Nat) : Matcher → String
  | .and children => outlineLine level "AND:" ++ outlineAll (level + 1) children
  | .or children => outlineLine level "OR:" ++ outlineAll (level + 1) children
  | .not child => outlineLine level "NOT:" ++ outlineAt (level + 1) child
  | .value v => outlineLine level (v.category ++ ": " ++ v.value)
  | .exact _ terms =>
    outlineLine level "EXACT:" ++ String.join (terms.map (termLine (level + 1)))
  | .noTag category => outlineLine level (category ++ ":EMPTY")
  | .wildcard w => outlineLine level ("WILDCARD: " ++ w.pattern.source)

def outlineAll (level : Nat) : List Matcher → String
  | [] => ""
  | child :: children => outlineAt level child ++ outlineAll level children

end

/-- The tree as text, for debugging. -/
def outline (m : Matcher) : String :=
  m.outlineAt 0

end Matcher

end TagQuery
