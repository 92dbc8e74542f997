import TagQuery.Session

/-!
# Runs of a session

What can be done in a session, as data, so that a run is a list.  What an action
answers is told by the functions on sessions; here only the session after it
counts.  Giving a compiled query other matchers is not among the actions: it
would no longer be what a query was compiled to.
-/

namespace TagQuery.Session

/-- Something that is done in a session, with the places of what it is done to. -/
inductive Action where
  | openStore (fixture : Fixture)
  | editStore (store : Nat) (change : StoreEdit)
  /-- Two records of different stores change places. -/
  | exchange (store record other otherRecord : Nat)
  | clearCache (store record : Nat)
  | newQuery (home : Nat)
  | newRangeQuery (home : Nat) (date : DateRange) (label description : String)
  | copyQuery (query : Nat)
  /-- Makes the query of a request. -/
  | request (home : Nat) (request : SearchRequest)
  /-- Makes the query of a saved privacy lock. -/
  | restoreLock (home : Nat) (saved : TextTable)
  | editQuery (query : Nat) (change : QueryEdit)
  | matchRecord (query store record vocabulary : Nat)
  | matchStore (query store vocabulary : Nat)
  | matchBare (query vocabulary : Nat) (record : Record)
  | search (query store : Nat)
  | countByTag (store : Nat) (category value : String)
  | dateIndex (query store capacity : Nat)
  | compile (query store : Nat)
  | keepCompiled (query store : Nat)
  | matchSnapshot (snapshot store : Nat)
  | matchSnapshotRecord (snapshot store record : Nat)
  | classify (query store vocabulary : Nat) (places : Option Places) (job : Classifier)
  | overview (query store : Nat) (category : String)

/-- The session after a change that may have failed, and then changed nothing. -/
def afterEdit (s : Session) : Option (Except Pattern.Invalid Session) → Session
  | some (.ok changed) => changed
  | _ => s

/-- The session after what also gave an answer. -/
def afterAnswer (s : Session) (done : Option (α × Session)) : Session :=
  (done.map (·.2)).getD s

/-- The session after an action; one at a place where nothing is changes nothing. -/
def perform (s : Session) : Action → Session
  | .openStore fixture => s.openStore fixture
  | .editStore store change => (s.editStore store change).getD s
  | .exchange store record other otherRecord =>
    (s.exchange store record other otherRecord).getD s
  | .clearCache store record => (s.clearCache store record).getD s
  | .newQuery home => (s.newQuery home).getD s
  | .newRangeQuery home date label description =>
    (s.newRangeQuery home date label description).getD s
  | .copyQuery query => (s.copyQuery query).getD s
  | .request home request => s.afterAnswer (s.buildQuery home request.build)
  | .restoreLock home saved => s.afterAnswer (s.buildQuery home (SearchQuery.ofLock saved))
  | .editQuery query change => s.afterEdit (s.editQuery query change)
  | .matchRecord query store record vocabulary =>
    s.afterAnswer (s.matchRecord query store record vocabulary)
  | .matchStore query store vocabulary => s.afterAnswer (s.matchStore query store vocabulary)
  | .matchBare query vocabulary record => s.afterAnswer (s.matchBare query vocabulary record)
  | .search query store => s.afterAnswer (s.search query store)
  | .countByTag store category value => s.afterAnswer (s.countByTag store category value)
  | .dateIndex query store capacity => s.afterAnswer (s.dateIndex query store capacity)
  | .compile query store => (s.compile query store).getD s
  | .keepCompiled query store => (s.keepCompiled query store).getD s
  | .matchSnapshot snapshot store => s.afterAnswer (s.matchSnapshot snapshot store)
  | .matchSnapshotRecord snapshot store record =>
    s.afterAnswer (s.matchSnapshotRecord snapshot store record)
  | .classify query store vocabulary places job =>
    s.afterAnswer (s.classify query store job vocabulary places)
  | .overview query store category => s.afterAnswer (s.overview query store category)

/-- The session after several actions, one after the other. -/
def run (s : Session) (actions : List Action) : Session :=
  actions.foldl perform s

end TagQuery.Session
