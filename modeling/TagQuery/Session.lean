import TagQuery.Classification
import TagQuery.Query.Lock
import TagQuery.Query.Search
import TagQuery.Request

/-!
# Sessions

A session holds everything that one program works with: stores, the queries made
for them, and compiled queries that were kept.  All stamps come from one counter
of the session, so no two of its compiled queries and no two states of its
stores bear the same one.  A query draws its generations from the store it was
made for.

Whatever is done in a session names its objects by their places.  Where there is
no object at a place, nothing is done.
-/

namespace TagQuery

/-- A query with the place of the store it draws generations from. -/
structure HeldQuery where
  home : Nat
  query : SearchQuery

/-- Stores, queries and compiled queries at work together. -/
structure Session where
  /-- The next stamp: all stamps in use are smaller. -/
  stamp : Nat
  stores : List RecordStore
  queries : List HeldQuery
  snapshots : List CompiledQuery

namespace Session

def start : Session :=
  ⟨1, [], [], []⟩

/-- The session after stamps were drawn. -/
def draw (s : Session) (count : Nat) : Session :=
  { s with stamp := s.stamp + count }

def setStore (s : Session) (place : Nat) (store : RecordStore) : Session :=
  { s with stores := s.stores.set place store }

/-- The session with another query at a place, which keeps its home. -/
def setQuery (s : Session) (place : Nat) (query : SearchQuery) : Session :=
  { s with queries := s.queries.modify place ({ · with query }) }

/-- The session after a query was asked, which takes a stamp if it had to be compiled. -/
def setAsked (s : Session) (place : Nat) (query : SearchQuery) : Session :=
  { s.setQuery place query with stamp := query.nextStamp s.stamp }

/-- The session with other records at the place of a store. -/
def setEntries (s : Session) (place : Nat) (entries : List Entry) : Session :=
  { s with stores := s.stores.modify place ({ · with entries }) }

/-- The session after the store at a place has numbered states of queries up to a number. -/
def setGenerations (s : Session) (place drawn : Nat) : Session :=
  { s with stores := s.stores.modify place ({ · with generations := drawn }) }

def addQuery (s : Session) (home : Nat) (query : SearchQuery) : Session :=
  { s with queries := s.queries ++ [⟨home, query⟩] }

def addSnapshot (s : Session) (compiled : CompiledQuery) : Session :=
  { s with snapshots := s.snapshots ++ [compiled] }

/-! ## Stores -/

/-- One more store, with the contents of a fixture. -/
def openStore (s : Session) (fixture : Fixture) : Session :=
  let store := fixture.store s.stamp
  { s with stores := s.stores ++ [store], stamp := store.nextStamp }

def editStore (s : Session) (place : Nat) (change : StoreEdit) : Option Session := do
  let store := (← s.stores[place]?).edit change s.stamp
  return { s.setStore place store with stamp := store.nextStamp }

/--
A record of one store and a record of another change places, each with its
cache.  Both stores hand out their records for it.
-/
def exchange (s : Session) (place record other otherRecord : Nat) : Option Session := do
  let store := (← s.stores[place]?).edit .touch s.stamp
  let store' := (← s.stores[other]?).edit .touch (s.stamp + 1)
  let entry ← store.entries[record]?
  let entry' ← store'.entries[otherRecord]?
  if place = other then none
  else
    return ((s.setStore place { store with entries := store.entries.set record entry' }).setStore
      other { store' with entries := store'.entries.set otherRecord entry }).draw 2

/-- Empties the cache of a record. -/
def clearCache (s : Session) (place record : Nat) : Option Session := do
  let store ← s.stores[place]?
  return s.setEntries place (store.entries.modify record ({ · with cache := .empty }))

/-! ## Queries -/

/-- One more query, which asks nothing. -/
def newQuery (s : Session) (home : Nat) : Option Session := do
  let store ← s.stores[home]?
  let generation := store.generations + 1
  return (s.addQuery home (.new generation)).setGenerations home generation

/-- One more query, for a date, a label and a description. -/
def newRangeQuery (s : Session) (home : Nat) (date : DateRange)
    (label description : String) : Option Session := do
  let store ← s.stores[home]?
  let generation := store.generations + 1
  return (s.addQuery home (.withRange generation date label description)).setGenerations
    home generation

/-- One more query, the same as another and with the same home. -/
def copyQuery (s : Session) (place : Nat) : Option Session := do
  let held ← s.queries[place]?
  return s.addQuery held.home held.query

/--
One more query, made by `build` from the last generation drawn before.  A query
that cannot be made may have drawn generations as well.
-/
def buildQuery (s : Session) (home : Nat)
    (build : Nat → Except ε SearchQuery × Nat) : Option (Except ε Unit × Session) := do
  let store ← s.stores[home]?
  match build store.generations with
  | (.ok query, drawn) => return (.ok (), (s.addQuery home query).setGenerations home drawn)
  | (.error problem, drawn) => return (.error problem, s.setGenerations home drawn)

def editQuery (s : Session) (place : Nat) (change : QueryEdit) :
    Option (Except Pattern.Invalid Session) := do
  let held ← s.queries[place]?
  let store ← s.stores[held.home]?
  let generation := store.generations + 1
  return (held.query.edit change generation).map fun query =>
    (s.setQuery place query).setGenerations held.home generation

/-! ## Matching -/

/-- Asks whether a query matches a record of a store, with the values of a vocabulary. -/
def matchRecord (s : Session) (place store record vocabulary : Nat) :
    Option (Bool × Session) := do
  let held ← s.queries[place]?
  let entries := (← s.stores[store]?).entries
  let entry ← entries[record]?
  let (matched, query, entry) := held.query.matchEntry entry (← s.stores[vocabulary]?) s.stamp
  return (matched, (s.setAsked place query).setEntries store (entries.set record entry))

/-- Asks whether a query matches the records of a store, one after the other. -/
def matchStore (s : Session) (place store vocabulary : Nat) :
    Option (List Bool × Session) := do
  let held ← s.queries[place]?
  let (verdicts, query, entries) :=
    held.query.matchEach (← s.stores[vocabulary]?) s.stamp (← s.stores[store]?).entries
  return (verdicts, (s.setAsked place query).setEntries store entries)

/-- Asks whether a query matches a record that has no cache. -/
def matchBare (s : Session) (place vocabulary : Nat) (record : Record) :
    Option (Bool × Session) := do
  let held ← s.queries[place]?
  let (matched, query) := held.query.matchBare record (← s.stores[vocabulary]?) s.stamp
  return (matched, s.setAsked place query)

/-- The records of a store that a query finds. -/
def search (s : Session) (place store : Nat) : Option (List Record × Session) := do
  let held ← s.queries[place]?
  let (found, query, store') := held.query.search (← s.stores[store]?) s.stamp
  return (found, (s.setAsked place query).setStore store store')

/-- How many records of a store have a value. -/
def countByTag (s : Session) (place : Nat) (category value : String) :
    Option (Nat × Session) := do
  let store ← s.stores[place]?
  let (count, query, store) := store.countByTag category value s.stamp
  return (count, { s.setStore place store with stamp := query.nextStamp s.stamp })

/-- An index of the dates of the records that a query finds in a store. -/
def dateIndex (s : Session) (place store capacity : Nat) :
    Option (DateIndex × Session) := do
  let held ← s.queries[place]?
  let (index, query, store') := held.query.dateIndex (← s.stores[store]?) s.stamp capacity
  return (index, (s.setAsked place query).setStore store store')

/-! ## Compiled queries -/

/-- Compiles a query for a store and keeps what was compiled, but not in the query. -/
def compile (s : Session) (place store : Nat) : Option Session := do
  let held ← s.queries[place]?
  return (s.addSnapshot (held.query.compile (← s.stores[store]?) s.stamp)).draw 1

/-- Keeps what a query means now, which is compiled only if need be. -/
def keepCompiled (s : Session) (place store : Nat) : Option Session := do
  let held ← s.queries[place]?
  let (compiled, query) := held.query.refresh (← s.stores[store]?) s.stamp
  return (s.setAsked place query).addSnapshot compiled

/-- Gives a compiled query other matchers. -/
def setRoots (s : Session) (place : Nat) (roots : List Matcher) : Session :=
  { s with snapshots := s.snapshots.modify place ({ · with roots }) }

/-- The first compiled query with the stamp of the one at a place, if that is an earlier one. -/
def earlierTwin? (s : Session) (place : Nat) : Option Nat := do
  let compiled ← s.snapshots[place]?
  (s.snapshots.take place).findIdx? (·.stamp == compiled.stamp)

/-- For each record, the answer of a compiled query with the cache, and that without. -/
def verdictPairs (compiled : CompiledQuery) : List Entry → List (Bool × Bool) × List Entry
  | [] => ([], [])
  | entry :: entries =>
    let (matched, after) := compiled.matchEntry entry
    let (verdicts, entries) := verdictPairs compiled entries
    ((matched, compiled.evaluate entry.record) :: verdicts, after :: entries)

/-- Asks a compiled query about the records of a store, with the caches and without. -/
def matchSnapshot (s : Session) (place store : Nat) :
    Option (List (Bool × Bool) × Session) := do
  let compiled ← s.snapshots[place]?
  let (verdicts, entries) := verdictPairs compiled (← s.stores[store]?).entries
  return (verdicts, s.setEntries store entries)

/-- Asks a compiled query about one record of a store, with the cache. -/
def matchSnapshotRecord (s : Session) (place store record : Nat) :
    Option (Bool × Session) := do
  let compiled ← s.snapshots[place]?
  let entries := (← s.stores[store]?).entries
  let (matched, entry) := compiled.matchEntry (← entries[record]?)
  return (matched, s.setEntries store (entries.set record entry))

/-! ## Classification -/

/--
Classifies the records of a store that a query matches, with the values of a
vocabulary: those at the given places, or all of them.
-/
def classify (s : Session) (place store : Nat) (job : Classifier)
    (vocabulary : Nat := store) (places : Option Places := none) :
    Option (Buckets × Session) := do
  let held ← s.queries[place]?
  let entries := (← s.stores[store]?).entries
  let vocabulary ← s.stores[vocabulary]?
  let generation := (← s.stores[held.home]?).generations + 1
  let (buckets, entries) := job.run held.query vocabulary generation s.stamp entries
    (places.getD (List.range entries.length))
  return (buckets,
    ((s.setEntries store entries).setGenerations held.home generation).draw 2)

/-- Classifies the images of a store that a query matches, and then the videos. -/
def overview (s : Session) (place store : Nat) (category : String) :
    Option (Overview × Session) := do
  let held ← s.queries[place]?
  let store' ← s.stores[store]?
  let drawn := (← s.stores[held.home]?).generations
  let (overview, entries) := Overview.ofStore held.query category store' (drawn + 1) s.stamp
  return (overview,
    ((s.setEntries store entries).setGenerations held.home (drawn + 2)).draw 4)

end Session

end TagQuery
