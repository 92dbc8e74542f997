import TagQuery.DateIndex
import TagQuery.Query

/-!
# Searching a store

The records that a query finds in a store, in order, and what is made of them: a
number, or an index of their dates.  Locked records are never found.
-/

namespace TagQuery

namespace SearchQuery

/-- Goes through the records that are not locked and takes those that match. -/
def searchEntries (q : SearchQuery) (store : RecordStore) (stamp : Nat) :
    List Entry → List Record × SearchQuery × List Entry
  | [] => ([], q, [])
  | entry :: entries =>
    if entry.record.locked then
      let (found, q, entries) := q.searchEntries store stamp entries
      (found, q, entry :: entries)
    else
      let (matched, q, after) := q.matchEntry entry store stamp
      let (found, q, entries) := q.searchEntries store stamp entries
      (if matched then entry.record :: found else found, q, after :: entries)

/-- The matching records of a store that are not locked, in order. -/
def search (q : SearchQuery) (store : RecordStore) (stamp : Nat) :
    List Record × SearchQuery × RecordStore :=
  let (found, q, entries) := q.searchEntries store stamp store.entries
  (found, q, { store with entries })

/-- The query for the records with a value, at the second of two new generations. -/
def forTag (generation : Nat) (category value : String) : SearchQuery :=
  { (new generation).addAnd category value with generation := generation + 1 }

/-- The date ranges of the matching records, ready for counting. -/
def dateIndex (q : SearchQuery) (store : RecordStore) (stamp capacity : Nat) :
    DateIndex × SearchQuery × RecordStore :=
  let (found, q, store) := q.search store stamp
  (.build (found.map (·.date)) capacity, q, store)

end SearchQuery

namespace RecordStore

/--
How many records have a value, found by a query that draws two generations, and
that query as it is afterwards.
-/
def countByTag (store : RecordStore) (category value : String) (stamp : Nat) :
    Nat × SearchQuery × RecordStore :=
  let q := SearchQuery.forTag (store.generations + 1) category value
  let (found, q, store) := q.search { store with generations := store.generations + 2 } stamp
  (found.length, q, store)

end RecordStore

end TagQuery
