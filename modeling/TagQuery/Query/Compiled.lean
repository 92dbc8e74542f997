import TagQuery.Filters
import TagQuery.Matcher.OfText
import TagQuery.Matcher.Wildcard

/-!
# Compiled queries

A compiled query is what a query means for a store at one moment.  Its stamp
tells its answers apart from all others in the match caches of records.
-/

namespace TagQuery

/-- A query made ready for one state of a store. -/
structure CompiledQuery where
  /-- The state of the query it was made from. -/
  generation : Nat
  /-- The state of the store it was made for. -/
  revision : Nat
  stamp : Nat
  /-- Its answers may be remembered. -/
  cacheable : Bool
  filters : Filters
  /-- One matcher for each category that the query asks about. -/
  roots : List Matcher
  wildcard : Option Wildcard

namespace CompiledQuery

def isNull (c : CompiledQuery) : Bool :=
  c.roots.isEmpty && c.filters.isEmpty

/-- The answer for a record, worked out anew. -/
def evaluate (c : CompiledQuery) (r : Record) : Bool :=
  c.filters.acceptsBefore r &&
    (Matcher.evalAll r c.roots .off).1 &&
    c.filters.acceptsAfter r &&
    (c.filters.freeform.isNone || c.filters.freeformHits r || c.wildcard.any (·.accepts r))

/-- The answer that a cache remembers. -/
def cached? (c : CompiledQuery) (cache : MatchCache) : Option Bool :=
  if c.cacheable then cache.get? c.stamp.toUInt64 else none

/-- The cache after an answer has been worked out. -/
def remember (c : CompiledQuery) (cache : MatchCache) (matched : Bool) : MatchCache :=
  if c.cacheable then .set c.stamp.toUInt64 matched else cache

/-- The answer for a record, from its cache if it is there, and the record's cache after. -/
def matchEntry (c : CompiledQuery) (entry : Entry) : Bool × Entry :=
  if c.isNull then (true, entry)
  else
    match c.cached? entry.cache with
    | some known => (known, entry)
    | none =>
      let matched := c.evaluate entry.record
      (matched, { entry with cache := c.remember entry.cache matched })

end CompiledQuery

end TagQuery
