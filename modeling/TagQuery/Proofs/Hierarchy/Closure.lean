import TagQuery.Proofs.Hierarchy

/-!
# The stored memberships of any hierarchy

However a hierarchy came about, what it keeps for looking up is what its groups hold
by chains of direct memberships, and nothing else: every single edit leaves the two in
step, those that work out one category anew and the one that moves a category as it is.

The walk through a category needs no more rounds than there are groups in it, and one
more where it begins at a name that is no group.  This is said of a walk that is given
up after a number of rounds, so that it does not rest on the walk being total.
-/

namespace TagQuery

namespace TagTable

/-- The walk with a number of rounds, after which it is given up. -/
def walkWithin (groups : TagTable) :
    ℕ → List String → List String → TagSet → Option TagSet
  | _, _, [], found => some found
  | 0, _, _ :: _, _ => none
  | rounds + 1, unseen, group :: rest, found =>
    let members := groups.valuesOf group
    walkWithin groups rounds (namesOutside members unseen)
      (namesIn members unseen ++ rest) (found ∪ members)

/-- A walk ends within as many rounds as groups are unseen or pending. -/
theorem walkWithin_eq_some {groups : TagTable} {rounds : ℕ} {unseen pending : List String}
    {found : TagSet} (h : unseen.length + pending.length ≤ rounds) :
    walkWithin groups rounds unseen pending found =
      some (walk groups unseen pending found) := by
  induction rounds generalizing unseen pending found with
  | zero =>
      have hpending : pending = [] := List.eq_nil_of_length_eq_zero (by omega)
      rw [hpending, walkWithin, walk]
  | succ rounds ih =>
      cases pending with
      | nil => rw [walkWithin, walk]
      | cons group rest =>
          have hlengths :=
            length_namesIn_add_length_namesOutside (groups.valuesOf group) unseen
          rw [walkWithin, walk]
          apply ih
          simp only [List.length_append, List.length_cons] at h ⊢
          omega

/-- Everything a group holds, if a number of rounds is enough to find it. -/
def reachableWithin (groups : TagTable) (rounds : ℕ) (group : String) : Option TagSet :=
  walkWithin groups rounds (groups.keys.filter (· ≠ group)) [group] ∅

theorem reachableWithin_size_add_one (groups : TagTable) (group : String) :
    groups.reachableWithin (groups.size + 1) group = some (groups.reachable group) := by
  apply walkWithin_eq_some
  have hunseen := List.length_filter_le (· ≠ group) groups.keys
  rw [Std.ExtTreeMap.length_keys] at hunseen
  rw [List.length_singleton]
  omega

end TagTable

namespace Hierarchy

/-- The hierarchies that come about: those of given groups, the one without any, and
what edits make of them. -/
inductive Built : Hierarchy → Prop
  | empty (stamp : ℕ) : Built (.empty stamp)
  | ofGroups (groups : GroupTables) (stamp : ℕ) : Built (.ofGroups groups stamp)
  | edit {h : Hierarchy} (hbuilt : Built h) (change : HierarchyEdit) (stamp : ℕ) :
      Built (h.edit change stamp)

theorem sound_empty (stamp : ℕ) : (Hierarchy.empty stamp).Sound := by
  intro category
  simp [Hierarchy.empty]

theorem Built.sound {h : Hierarchy} (hbuilt : h.Built) : h.Sound := by
  induction hbuilt with
  | empty stamp => exact sound_empty stamp
  | ofGroups groups stamp => exact sound_ofGroups groups stamp
  | edit hbuilt change stamp ih => exact ih.edit change stamp

variable {h : Hierarchy}

/-- What is kept is what would be worked out from the direct memberships now. -/
theorem Sound.closure_eq (hs : h.Sound) (stamp : ℕ) :
    h.closure = (ofGroups h.direct stamp).closure := by
  refine Std.ExtTreeMap.ext_getElem? fun category => ?_
  rw [hs category, sound_ofGroups h.direct stamp category]
  rfl

/-- What is kept for a category has an entry for each of its groups. -/
theorem Sound.getElem?_groupMap (hs : h.Sound) (category group : String) :
    (h.groupMap category)[group]? =
      if h.isGroup category group then some (h.membersOf category group) else none := by
  by_cases hgroup : group ∈ h.groupMap category
  · rw [if_pos (hs.mem_groupMap_iff.mp hgroup), membersOf, TagTable.valuesOf,
      Std.ExtTreeMap.getD_eq_getD_getElem?]
    obtain ⟨members, hmembers⟩ := mem_table_iff.mp hgroup
    rw [hmembers, Option.getD_some]
  · rw [if_neg (mt hs.mem_groupMap_iff.mpr hgroup)]
    exact Std.ExtTreeMap.getElem?_eq_none hgroup

/-- Names that are no groups hold nothing. -/
theorem Sound.membersOf_eq_empty (hs : h.Sound) {category group : String}
    (hgroup : h.isGroup category group = false) : h.membersOf category group = ∅ := by
  apply TagTable.valuesOf_of_not_mem
  rw [hs.mem_groupMap_iff, hgroup]
  exact Bool.false_ne_true

/-- After any edits of any groups, what is kept has the categories and groups of the
direct memberships; a group holds what its chains of members lead to, and a name that
is no group holds nothing; the same would be worked out from the direct memberships
alone; and the walks that do so end, on cycles as well. -/
theorem Built.closure_exact (hbuilt : h.Built) :
    (∀ category : String, category ∈ h.closure ↔ category ∈ h.direct) ∧
      (∀ category group : String, (h.groupMap category)[group]? =
        if h.isGroup category group then some (h.membersOf category group) else none) ∧
      (∀ category group member : String, member ∈ h.membersOf category group ↔
        Relation.TransGen (h.groups category).Leads group member) ∧
      (∀ category group : String, h.isGroup category group = false →
        h.membersOf category group = ∅) ∧
      (∀ stamp, h.closure = (Hierarchy.ofGroups h.direct stamp).closure) ∧
      ∀ category group : String,
        (h.groups category).reachableWithin ((h.groups category).size + 1) group =
          some ((h.groups category).reachable group) := by
  have hs := hbuilt.sound
  refine ⟨fun category => hs.mem_closure_iff, hs.getElem?_groupMap, hs.mem_membersOf_iff,
    fun category group => hs.membersOf_eq_empty, hs.closure_eq, fun category group => ?_⟩
  exact TagTable.reachableWithin_size_add_one _ group

/-- Two groups that hold each other, one of which was renamed before the category was. -/
theorem closure_exact_of_cycle :
    let groups : GroupTables := (∅ : GroupTables).insert "People"
      (((∅ : TagTable).insert "Family" {"Parents", "Kid"}).insert "Parents"
        {"Family", "Mom"})
    let h := ((ofGroups groups 1).edit (.renameItem "People" "Parents" "Elders") 2).edit
      (.renameCategory "People" "Persons") 3
    h.Built ∧ "Elders" ∈ h.membersOf "Persons" "Elders" ∧
      h.membersOf "Persons" "Mom" = ∅ := by
  intro groups h
  have hbuilt : h.Built := .edit (.edit (.ofGroups groups 1) _ 2) _ 3
  obtain ⟨-, -, hmembers, hnone, -, -⟩ := hbuilt.closure_exact
  have helders : (h.groups "Persons").Leads "Elders" "Family" := by
    unfold TagTable.Leads
    decide +kernel
  have hfamily : (h.groups "Persons").Leads "Family" "Elders" := by
    unfold TagTable.Leads
    decide +kernel
  have hmom : h.isGroup "Persons" "Mom" = false := by decide +kernel
  refine ⟨hbuilt, (hmembers "Persons" "Elders" "Elders").mpr ?_, hnone "Persons" "Mom" hmom⟩
  exact .tail (.single helders) hfamily

end Hierarchy

end TagQuery
