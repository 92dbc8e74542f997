import Std.Data.ExtTreeMap
import Std.Data.ExtTreeSet

/-!
# Tags by category

The shapes in which values and their groups are kept.  Maps and sets are
extensional: two of them with the same entries are equal.
-/

namespace TagQuery

abbrev TagSet := Std.ExtTreeSet String

/-- A set of values for each of some names: tags by category, or members by group. -/
abbrev TagTable := Std.ExtTreeMap String TagSet

/-- Match texts by category. -/
abbrev TextTable := Std.ExtTreeMap String String

/-- The members of groups, by category. -/
abbrev GroupTables := Std.ExtTreeMap String TagTable

/-- The table with what is kept under one name moved to another. -/
def moveKey {α : Type} (table : Std.ExtTreeMap String α) (old new : String) :
    Std.ExtTreeMap String α :=
  match table[old]? with
  | some entry => (table.erase old).insert new entry
  | none => table

namespace TagTable

/-- The set kept under a name; the empty set where there is none. -/
def valuesOf (table : TagTable) (name : String) : TagSet :=
  table.getD name ∅

/-- The table with more values under a name. -/
def addAll (table : TagTable) (name : String) (values : TagSet) : TagTable :=
  table.insert name (table.valuesOf name ∪ values)

end TagTable

end TagQuery
