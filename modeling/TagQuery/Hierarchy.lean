import TagQuery.Tags

/-!
# Groups of values

A value can be a group of other values of its category: "USA" may hold "Chicago"
and "California", and "California" may hold "Los Angeles".  Who asks for a group
also asks for everything it holds, directly or through other groups.

The direct memberships are the data.  What a group holds in the end is derived
from them for a whole category whenever the category changes, so that looking
it up changes nothing.  Every edit moves the hierarchy to a new revision.
-/

namespace TagQuery

namespace TagTable

/-- The names of a list that are in a set. -/
def namesIn (values : TagSet) (names : List String) : List String :=
  names.filter values.contains

/-- The names of a list that are not in a set. -/
def namesOutside (values : TagSet) (names : List String) : List String :=
  names.filter (!values.contains ·)

/-- A name is either in the set or not. -/
theorem length_namesIn_add_length_namesOutside
    (values : TagSet) (names : List String) :
    (namesIn values names).length + (namesOutside values names).length = names.length := by
  induction names with
  | nil => rfl
  | cons name names ih =>
    simp only [namesIn, namesOutside] at ih
    cases h : values.contains name <;> simp [namesIn, namesOutside, h] <;> omega

/--
Collects the members of the pending groups and of every group met on the way.
A group leaves the list of unseen ones when it becomes pending, so the two lists
together shrink by one group with each step.
-/
def walk (groups : TagTable) (unseen pending : List String) (found : TagSet) : TagSet :=
  match pending with
  | [] => found
  | group :: rest =>
    let members := groups.valuesOf group
    walk groups (namesOutside members unseen) (namesIn members unseen ++ rest)
      (found ∪ members)
termination_by unseen.length + pending.length
decreasing_by
  have := length_namesIn_add_length_namesOutside (groups.valuesOf group) unseen
  simp only [List.length_append, List.length_cons]
  omega

/-- Everything a group holds, directly or through groups in it. -/
def reachable (groups : TagTable) (group : String) : TagSet :=
  walk groups (groups.keys.filter (· ≠ group)) [group] ∅

/-- Everything that each group holds. -/
def closure (groups : TagTable) : TagTable :=
  groups.map fun group _ => groups.reachable group

end TagTable

/-- The groups of all categories. -/
structure Hierarchy where
  /-- Category, group, and the members that were put into the group. -/
  direct : GroupTables
  /-- Category, group, and all that the group holds in the end. -/
  closure : GroupTables
  /-- A stamp that is new after every edit. -/
  revision : Nat

/-- A change to the groups. -/
inductive HierarchyEdit where
  | addGroup (category group : String)
  /-- Gives a group exactly these members. -/
  | setMembers (category group : String) (members : List String)
  | addMember (category group item : String)
  | removeMember (category group item : String)
  /-- Removes a group, also as a member of others. -/
  | deleteGroup (category group : String)
  /-- Renames a group, also as a member of others. -/
  | renameGroup (category old new : String)
  /-- Moves all groups of a category to another. -/
  | renameCategory (old new : String)

namespace HierarchyEdit

/-- A value that vanishes does so as a group and as a member. -/
def deleteItem (category name : String) : HierarchyEdit :=
  .deleteGroup category name

/-- A value that is renamed is so as a group and as a member. -/
def renameItem (category old new : String) : HierarchyEdit :=
  .renameGroup category old new

end HierarchyEdit

namespace Hierarchy

def empty (stamp : Nat) : Hierarchy :=
  ⟨∅, ∅, stamp⟩

/-- The hierarchy with the given direct members. -/
def ofGroups (groups : GroupTables) (stamp : Nat) : Hierarchy :=
  ⟨groups, groups.map fun _ table => table.closure, stamp⟩

/-- The groups of a category with their direct members. -/
def groups (h : Hierarchy) (category : String) : TagTable :=
  h.direct.getD category ∅

/-- The groups of a category with all that they hold. -/
def groupMap (h : Hierarchy) (category : String) : TagTable :=
  h.closure.getD category ∅

def groupsOf (h : Hierarchy) (category : String) : List String :=
  (h.groups category).keys

def isGroup (h : Hierarchy) (category name : String) : Bool :=
  (h.groups category).contains name

/-- The members that were put into a group. -/
def directMembers (h : Hierarchy) (category group : String) : TagSet :=
  (h.groups category).valuesOf group

/-- All that a group holds; nothing, where the name is not that of a group. -/
def membersOf (h : Hierarchy) (category group : String) : TagSet :=
  (h.groupMap category).valuesOf group

def isEmpty (h : Hierarchy) : Bool :=
  h.direct.toList.all fun (_, table) => table.isEmpty

def sameGroups (h other : Hierarchy) : Bool :=
  h.direct == other.direct

/-- The hierarchy with new groups in one category. -/
def replaceGroups (h : Hierarchy) (category : String) (table : TagTable) (stamp : Nat) :
    Hierarchy :=
  { direct := h.direct.insert category table
    closure := h.closure.insert category table.closure
    revision := stamp }

/-- The set with one value in place of another. -/
def renameIn (old new : String) (values : TagSet) : TagSet :=
  if old ∈ values then (values.erase old).insert new else values

/--
The hierarchy after an edit, for which it takes the given stamp.  An edit that
names a category or a group that is not there, and does not create it, leaves
the hierarchy as it is; renaming a category counts as an edit in any case.
-/
def edit (h : Hierarchy) (change : HierarchyEdit) (stamp : Nat) : Hierarchy :=
  match change with
  | .addGroup category group =>
    h.replaceGroups category ((h.groups category).insertIfNew group ∅) stamp
  | .setMembers category group members =>
    h.replaceGroups category ((h.groups category).insert group (.ofList members)) stamp
  | .addMember category group item =>
    h.replaceGroups category
      ((h.groups category).insert group ((h.directMembers category group).insert item)) stamp
  | .removeMember category group item =>
    if h.isGroup category group then
      h.replaceGroups category
        ((h.groups category).insert group ((h.directMembers category group).erase item)) stamp
    else h
  | .deleteGroup category group =>
    if category ∈ h.direct then
      h.replaceGroups category
        (((h.groups category).erase group).map fun _ members => members.erase group) stamp
    else h
  | .renameGroup category old new =>
    if category ∈ h.direct then
      h.replaceGroups category
        ((moveKey (h.groups category) old new).map fun _ members => renameIn old new members)
        stamp
    else h
  | .renameCategory old new =>
    { direct := moveKey h.direct old new
      closure := moveKey h.closure old new
      revision := stamp }

/--
The hierarchy after several edits.  They take stamps from the given one on, but
an edit that leaves the hierarchy as it is takes none.
-/
def editAll (h : Hierarchy) (stamp : Nat) : List HierarchyEdit → Hierarchy
  | [] => h
  | change :: changes =>
    let edited := h.edit change stamp
    edited.editAll (max stamp (edited.revision + 1)) changes

end Hierarchy

end TagQuery
