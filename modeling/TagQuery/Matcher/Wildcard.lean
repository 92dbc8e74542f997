import TagQuery.Matcher
import TagQuery.Store

/-!
# Wildcards

Free text is matched once against all values that a store knows.  A record is
then looked up among the values that matched.
-/

namespace TagQuery.Wildcard

/-- The values of a category that a pattern matches; `none` if it matches none of them. -/
def hits? (pattern : Pattern) (store : RecordStore) (category : String) : Option TagSet :=
  let hits := (store.itemsOf category).filter pattern.occursIn
  if hits.isEmpty then none else some hits

/-- The wildcard of a pattern over the values of a store. -/
def ofPattern (pattern : Pattern) (store : RecordStore) : Wildcard :=
  { pattern
    matching := .ofList (store.categories.toList.filterMap fun category =>
      (hits? pattern store category).map (category, ·)) }

end TagQuery.Wildcard
