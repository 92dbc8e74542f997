/-!
# The match cache of a record

Every record remembers the last answer to the question whether it matches, with
the stamp of the compiled query that gave it.  Stamp and answer share one word,
so the stamp keeps 63 bits; the word with all bits set means that nothing is
remembered.
-/

namespace TagQuery

/-- At most one remembered answer. -/
structure MatchCache where
  slot : UInt64
  deriving DecidableEq, Repr

namespace MatchCache

def empty : MatchCache :=
  ⟨0xffffffffffffffff⟩

/-- The answer that was remembered under a stamp. -/
def get? (cache : MatchCache) (stamp : UInt64) : Option Bool :=
  if cache.slot = empty.slot ∨ cache.slot >>> 1 ≠ stamp then none
  else some (cache.slot &&& 1 == 1)

/-- The cache that remembers an answer under a stamp. -/
def set (stamp : UInt64) (matched : Bool) : MatchCache :=
  ⟨stamp <<< 1 ||| if matched then 1 else 0⟩

end MatchCache

end TagQuery
