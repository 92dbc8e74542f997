import TagQuery.Hierarchy
import TagQuery.Record

/-!
# The store

A store owns records, the groups of their values, and the numbers that tell
states of queries apart.  Whatever can change the answer of a query moves the
store to a revision that no store had before: the stamps from which revisions
are made are drawn from one counter for all stores.
-/

namespace TagQuery

/-- Records with the groups of their values. -/
structure RecordStore where
  entries : List Entry
  hierarchy : Hierarchy
  /-- How many states of queries have been numbered. -/
  generations : Nat
  /-- The stamp of the latest access that could change something. -/
  touched : Nat

/-- Something that is done to records that were handed out for changes. -/
inductive EntryEdit where
  /-- A change to the record at a place. -/
  | edit (place : Nat) (change : RecordEdit)
  /-- Two records change places, each with its cache. -/
  | swap (place other : Nat)

namespace EntryEdit

/-- The records of a store after a change; one at a place where nothing is changes nothing. -/
def apply (change : EntryEdit) (entries : List Entry) : List Entry :=
  match change with
  | .edit place change => entries.modify place (·.edit change)
  | .swap place other =>
    match entries[place]?, entries[other]? with
    | some first, some second => (entries.set place second).set other first
    | _, _ => entries

end EntryEdit

/-- A change to a store. -/
inductive StoreEdit where
  /-- One more record, at the end. -/
  | insert (record : Record)
  /-- Hands out the records for any number of changes. -/
  | access (edits : List EntryEdit)
  /-- Changes to the groups. -/
  | regroup (changes : List HierarchyEdit)
  /-- Moves a category, in the records and in the groups. -/
  | renameCategory (old new : String)
  /-- Renames a value, in the records and in the groups. -/
  | renameItem (category old new : String)

namespace StoreEdit

/-- A change to the record at a place, and nothing else. -/
@[match_pattern]
def editRecord (place : Nat) (change : RecordEdit) : StoreEdit :=
  .access [.edit place change]

/-- Hands out the records for changes that are then not made. -/
def touch : StoreEdit :=
  .access []

end StoreEdit

namespace RecordStore

/--
The store with the given records and groups.  It takes a stamp for the groups,
one for every category of them, and one for the records.
-/
def ofRecords (records : List Record) (groups : GroupTables) (stamp : Nat) : RecordStore :=
  { entries := records.map Entry.fresh
    hierarchy := .ofGroups groups (stamp + groups.size)
    generations := 0
    touched := stamp + groups.size + 1 }

/-- The stamp of the latest change to the records or to the groups. -/
def revision (store : RecordStore) : Nat :=
  max store.touched store.hierarchy.revision

/-- The first stamp that was not drawn yet when the store was last changed. -/
def nextStamp (store : RecordStore) : Nat :=
  store.revision + 1

def records (store : RecordStore) : List Record :=
  store.entries.map (·.record)

/-- The store with a change to every record. -/
def editEach (store : RecordStore) (change : RecordEdit) : RecordStore :=
  { store with entries := store.entries.map (·.edit change) }

/-- The store after a change, which takes stamps from the given one on. -/
def edit (store : RecordStore) (change : StoreEdit) (stamp : Nat) : RecordStore :=
  let store := { store with touched := stamp }
  match change with
  | .insert record => { store with entries := store.entries ++ [.fresh record] }
  | .access edits =>
    { store with entries := edits.foldl (fun entries edit => edit.apply entries) store.entries }
  | .regroup changes =>
    { store with hierarchy := store.hierarchy.editAll (stamp + 1) changes }
  | .renameCategory old new =>
    { store.editEach (.renameCategory old new) with
      hierarchy := store.hierarchy.edit (.renameCategory old new) (stamp + 1) }
  | .renameItem category old new =>
    { store.editEach (.renameTag category old new) with
      hierarchy := store.hierarchy.edit (.renameItem category old new) (stamp + 1) }

/-- The names of all categories, of the groups and of the records. -/
def categories (store : RecordStore) : TagSet :=
  .ofList (store.hierarchy.direct.keys ++ store.records.flatMap (·.tags.keys))

/-- The values of a category: its groups, and the tags of the records. -/
def itemsOf (store : RecordStore) (category : String) : TagSet :=
  .ofList
    (store.hierarchy.groupsOf category ++
      store.records.flatMap fun record => (record.tagsOf category).toList)

end RecordStore

end TagQuery
