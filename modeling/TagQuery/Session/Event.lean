import TagQuery.Session.Action

/-!
# Groups that are held

A store hands out its groups for changes, and whoever holds them may change them one at a
time, while other stores are at work and draw stamps as well.  Such a change is an event of
its own beside the actions of a session.  An action that changes groups is the case in which
nothing comes in between.

Records that are handed out need no events of their own, for writing to a record draws no
stamp.
-/

namespace TagQuery.Session

/-- Something that happens in a session. -/
inductive Event where
  | action (action : Action)
  /-- One change to the groups that a store has handed out. -/
  | regroup (store : Nat) (change : HierarchyEdit)

/-- The session after one change to the groups that a store has handed out, which takes a
stamp unless it finds nothing to change. -/
def regroupHeld (s : Session) (place : Nat) (change : HierarchyEdit) : Option Session := do
  let store ← s.stores[place]?
  let hierarchy := store.hierarchy.edit change s.stamp
  return { s.setStore place { store with hierarchy } with
    stamp := max s.stamp (hierarchy.revision + 1) }

/-- The session after an event; one at a place where nothing is changes nothing. -/
def after (s : Session) : Event → Session
  | .action action => s.perform action
  | .regroup store change => (s.regroupHeld store change).getD s

/-- The session after several events, one after the other. -/
def follow (s : Session) (events : List Event) : Session :=
  events.foldl after s

/-- The session as it is at a moment, when so many of the events have happened. -/
def moment (events : List Event) (count : Nat) : Session :=
  start.follow (events.take count)

end TagQuery.Session
