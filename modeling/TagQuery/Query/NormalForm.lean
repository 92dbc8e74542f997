import TagQuery.Query.Compiled

/-!
# Disjunctive normal form

A compiled query without exact constraints is an alternative of conjunctions of
single terms, which a data base can be asked for.
-/

namespace TagQuery

/-- A value of a category that is required, or must be absent. -/
structure SimpleTerm where
  category : String
  value : String
  negated : Bool
  deriving DecidableEq, Repr

namespace Matcher

/-- The term that a matcher is, if it is just one. -/
def simpleTerm? : Matcher → Option SimpleTerm
  | .value v => some ⟨v.category, v.value, false⟩
  | .not (.value v) => some ⟨v.category, v.value, true⟩
  | _ => none

/-- The terms that a matcher joins, if it joins only terms. -/
def conjunction? : Matcher → Option (List SimpleTerm)
  | .and children => children.mapM simpleTerm?
  | other => (simpleTerm? other).map ([·])

/-- The conjunctions among which a matcher lets choose, if there are only such. -/
def alternatives? : Matcher → Option (List (List SimpleTerm))
  | .or children => children.mapM conjunction?
  | other => (conjunction? other).map ([·])

end Matcher

/-- Every choice of one conjunction from the left and one from the right, joined. -/
def joinChoices (left right : List (List SimpleTerm)) : List (List SimpleTerm) :=
  left.flatMap fun first => right.map (first ++ ·)

/-- Multiplies out the alternatives of matchers that all have to accept. -/
def normalFormFrom (sofar : List (List SimpleTerm)) :
    List Matcher → Option (List (List SimpleTerm))
  | [] => some sofar
  | root :: roots => do
    normalFormFrom (joinChoices sofar (← root.alternatives?)) roots

/-- The conjunctions of which a record has to satisfy one, if the query is that simple. -/
def CompiledQuery.normalForm? (c : CompiledQuery) : Option (List (List SimpleTerm)) :=
  normalFormFrom [[]] c.roots

end TagQuery
