import Mathlib.Logic.Relation
import TagQuery.Hierarchy
import TagQuery.Proofs.Tags

/-!
# What groups hold in the end

The walk through the groups of a category finds what can be reached by direct
memberships, on cyclic groups as well.  Two facts are kept on the way: every group
is still unseen, or pending, or has all its members found, and nothing that was found
is unseen.  When nothing is pending any more, what was found is closed.

The memberships that are kept for looking up are those that follow from the direct
ones, after every edit.
-/

namespace TagQuery

namespace TagTable

/-- A group has a member directly. -/
def Leads (groups : TagTable) (group member : String) : Prop :=
  member ∈ groups.valuesOf group

/-! ## The walk -/

variable {groups : TagTable} {unseen pending : List String} {found : TagSet}

theorem mem_namesIn {values : TagSet} {names : List String} {name : String} :
    name ∈ namesIn values names ↔ name ∈ names ∧ name ∈ values := by
  rw [namesIn, List.mem_filter, Std.ExtTreeSet.contains_iff_mem]

theorem mem_namesOutside {values : TagSet} {names : List String} {name : String} :
    name ∈ namesOutside values names ↔ name ∈ names ∧ name ∉ values := by
  rw [namesOutside, List.mem_filter, Bool.not_eq_true', Bool.eq_false_iff, ne_eq,
    Std.ExtTreeSet.contains_iff_mem]

/-- Only what can be reached from a pending group is found. -/
theorem mem_walk_imp {member : String}
    (h : member ∈ walk groups unseen pending found) :
    member ∈ found ∨
      ∃ group ∈ pending, Relation.TransGen groups.Leads group member := by
  induction unseen, pending, found using walk.induct groups with
  | case1 unseen found =>
      rw [walk] at h
      exact Or.inl h
  | case2 unseen found group rest members ih =>
      rw [walk] at h
      rcases ih h with hfound | ⟨next, hnext, hreach⟩
      · rcases Std.ExtTreeSet.mem_union_iff.mp hfound with hfound | hmember
        · exact Or.inl hfound
        · exact Or.inr ⟨group, List.mem_cons_self, .single hmember⟩
      · rcases List.mem_append.mp hnext with hnext | hnext
        · exact Or.inr ⟨group, List.mem_cons_self, .head (mem_namesIn.mp hnext).2 hreach⟩
        · exact Or.inr ⟨next, List.mem_cons_of_mem _ hnext, hreach⟩

/-- What the walk keeps on its way. -/
structure Underway (groups : TagTable) (unseen pending : List String) (found : TagSet) :
    Prop where
  settled : ∀ group, group ∈ unseen ∨ group ∈ pending ∨
    ∀ member ∈ groups.valuesOf group, member ∈ found
  seen : ∀ member ∈ found, member ∉ unseen

theorem Underway.step {group : String} {rest : List String}
    (h : Underway groups unseen (group :: rest) found) :
    Underway groups (namesOutside (groups.valuesOf group) unseen)
      (namesIn (groups.valuesOf group) unseen ++ rest)
      (found ∪ groups.valuesOf group) where
  settled := by
    intro other
    rw [mem_namesOutside, List.mem_append, mem_namesIn]
    rcases h.settled other with hunseen | hpending | hfound
    · by_cases hmember : other ∈ groups.valuesOf group
      · exact Or.inr (Or.inl (Or.inl ⟨hunseen, hmember⟩))
      · exact Or.inl ⟨hunseen, hmember⟩
    · rcases List.mem_cons.mp hpending with rfl | hrest
      · exact Or.inr (Or.inr fun member hmember =>
          Std.ExtTreeSet.mem_union_iff.mpr (Or.inr hmember))
      · exact Or.inr (Or.inl (Or.inr hrest))
    · exact Or.inr (Or.inr fun member hmember =>
        Std.ExtTreeSet.mem_union_iff.mpr (Or.inl (hfound member hmember)))
  seen := by
    intro member hmember hunseen
    obtain ⟨hunseen, houtside⟩ := mem_namesOutside.mp hunseen
    rcases Std.ExtTreeSet.mem_union_iff.mp hmember with hfound | hmember
    · exact h.seen member hfound hunseen
    · exact houtside hmember

/-- The walk ends with nothing pending, and forgets nothing that it found. -/
theorem Underway.walk (h : Underway groups unseen pending found) :
    ∃ rest, (∀ name ∈ rest, name ∈ unseen) ∧
      Underway groups rest [] (walk groups unseen pending found) := by
  induction unseen, pending, found using walk.induct groups with
  | case1 unseen found =>
      rw [TagTable.walk]
      exact ⟨unseen, fun name hname => hname, h⟩
  | case2 unseen found group rest members ih =>
      obtain ⟨left, hleft, hend⟩ := ih h.step
      rw [TagTable.walk]
      exact ⟨left, fun name hname => (mem_namesOutside.mp (hleft name hname)).1, hend⟩

theorem underway_reachable (groups : TagTable) (group : String) :
    Underway groups (groups.keys.filter (· ≠ group)) [group] ∅ where
  settled := by
    intro other
    by_cases hsame : other = group
    · exact Or.inr (Or.inl (List.mem_singleton.mpr hsame))
    · by_cases hkey : other ∈ groups
      · have hkeys := Std.ExtTreeMap.mem_keys.mpr hkey
        exact Or.inl (List.mem_filter.mpr ⟨hkeys, by simpa using hsame⟩)
      · refine Or.inr (Or.inr fun member hmember => ?_)
        rw [valuesOf_of_not_mem hkey] at hmember
        exact hmember
  seen := by
    intro member hmember
    exact absurd hmember Std.ExtTreeSet.not_mem_empty

/-- What is reached from a group is what its chains of members lead to. -/
theorem mem_reachable_iff (groups : TagTable) (group member : String) :
    member ∈ groups.reachable group ↔
      Relation.TransGen groups.Leads group member := by
  constructor
  · intro h
    rcases mem_walk_imp h with hempty | ⟨start, hstart, hreach⟩
    · exact absurd hempty Std.ExtTreeSet.not_mem_empty
    · rw [List.mem_singleton.mp hstart] at hreach
      exact hreach
  · intro h
    obtain ⟨rest, hrest, hend⟩ := (underway_reachable groups group).walk
    -- Nothing is pending in the end, so only a name that is still unseen may have
    -- members that were not found; what was found is no such name.
    have hclosed : ∀ name, name ∉ rest →
        ∀ next ∈ groups.valuesOf name, next ∈ groups.reachable group := by
      intro name hname
      rcases hend.settled name with hunseen | hpending | hfound
      · exact absurd hunseen hname
      · contradiction
      · exact hfound
    have hstart : group ∉ rest := by
      intro hmem
      simpa using (List.mem_filter.mp (hrest group hmem)).2
    induction h with
    | single hlead => exact hclosed group hstart _ hlead
    | tail _ hlead ih => exact hclosed _ (hend.seen _ ih) _ hlead

theorem mem_valuesOf_closure (groups : TagTable) (group member : String) :
    member ∈ groups.closure.valuesOf group ↔
      Relation.TransGen groups.Leads group member := by
  rw [closure, valuesOf, Std.ExtTreeMap.getD_map]
  cases hgroup : groups[group]? with
  | some members => exact mem_reachable_iff groups group member
  | none =>
      have hkey : group ∉ groups := not_mem_table_iff.mpr hgroup
      refine iff_of_false Std.ExtTreeSet.not_mem_empty fun hreach => ?_
      obtain ⟨next, hlead, -⟩ := Relation.TransGen.head'_iff.mp hreach
      rw [Leads, valuesOf_of_not_mem hkey] at hlead
      exact Std.ExtTreeSet.not_mem_empty hlead

end TagTable

/-! ## Hierarchies -/

namespace Hierarchy

/-- What is kept for looking up follows from the direct memberships. -/
def Sound (h : Hierarchy) : Prop :=
  ∀ category : String, h.closure[category]? = h.direct[category]?.map TagTable.closure

theorem sound_ofGroups (groups : GroupTables) (stamp : ℕ) :
    (ofGroups groups stamp).Sound := by
  intro category
  exact Std.ExtTreeMap.getElem?_map

theorem Sound.replaceGroups {h : Hierarchy} (hs : h.Sound) (category : String)
    (table : TagTable) (stamp : ℕ) : (h.replaceGroups category table stamp).Sound := by
  intro other
  simp only [Hierarchy.replaceGroups, Std.ExtTreeMap.getElem?_insert]
  split
  · rfl
  · exact hs other

theorem Sound.ite {h h' : Hierarchy} {p : Prop} [Decidable p] (hs : h.Sound) (hs' : h'.Sound) :
    (if p then h else h').Sound := by
  split
  · exact hs
  · exact hs'

theorem getElem?_moveKey {α : Type} (table : Std.ExtTreeMap String α)
    (old new name : String) :
    (moveKey table old new)[name]? =
      if old ∈ table then
        if new = name then table[old]? else if old = name then none else table[name]?
      else table[name]? := by
  unfold moveKey
  cases hold : table[old]? with
  | none => rw [if_neg (not_mem_table_iff.mpr hold)]
  | some entry =>
      simp only [if_pos (mem_table_iff.mpr ⟨entry, hold⟩), Std.ExtTreeMap.getElem?_insert,
        Std.ExtTreeMap.getElem?_erase, Std.LawfulEqCmp.compare_eq_iff_eq]

theorem Sound.mem_closure_iff {h : Hierarchy} (hs : h.Sound) {category : String} :
    category ∈ h.closure ↔ category ∈ h.direct := by
  rw [Std.ExtTreeMap.mem_iff_isSome_getElem?, hs category, Option.isSome_map,
    Std.ExtTreeMap.mem_iff_isSome_getElem?]

theorem Sound.edit {h : Hierarchy} (hs : h.Sound) (change : HierarchyEdit) (stamp : ℕ) :
    (h.edit change stamp).Sound := by
  cases change with
  | addGroup category group => exact hs.replaceGroups _ _ _
  | setMembers category group members => exact hs.replaceGroups _ _ _
  | addMember category group item => exact hs.replaceGroups _ _ _
  | removeMember category group item => exact (hs.replaceGroups _ _ _).ite hs
  | deleteGroup category group => exact (hs.replaceGroups _ _ _).ite hs
  | renameGroup category old new => exact (hs.replaceGroups _ _ _).ite hs
  | renameCategory old new =>
      intro category
      simp only [Hierarchy.edit, getElem?_moveKey, hs.mem_closure_iff]
      split
      · split
        · exact hs old
        · split
          · rfl
          · exact hs category
      · exact hs category

theorem Sound.editAll {h : Hierarchy} (hs : h.Sound) (changes : List HierarchyEdit)
    (stamp : ℕ) : (h.editAll stamp changes).Sound := by
  induction changes generalizing h stamp with
  | nil => exact hs
  | cons change changes ih => exact ih (hs.edit change stamp) _

theorem Sound.groupMap_eq {h : Hierarchy} (hs : h.Sound) (category : String) :
    h.groupMap category = (h.groups category).closure := by
  rw [groupMap, groups, Std.ExtTreeMap.getD_eq_getD_getElem?, hs category,
    Std.ExtTreeMap.getD_eq_getD_getElem?]
  cases h.direct[category]? with
  | some table => rfl
  | none => exact (Std.ExtTreeMap.ext_getElem? fun k => by simp [TagTable.closure]).symm

/-- Looking up what a group holds gives what its chains of members lead to. -/
theorem Sound.mem_membersOf_iff {h : Hierarchy} (hs : h.Sound)
    (category group member : String) :
    member ∈ h.membersOf category group ↔
      Relation.TransGen (h.groups category).Leads group member := by
  rw [membersOf, hs.groupMap_eq]
  exact TagTable.mem_valuesOf_closure _ _ _

/-- Every group has its members kept, even if it has none. -/
theorem Sound.mem_groupMap_iff {h : Hierarchy} (hs : h.Sound) {category group : String} :
    group ∈ h.groupMap category ↔ h.isGroup category group = true := by
  rw [hs.groupMap_eq, TagTable.closure, Std.ExtTreeMap.mem_map, isGroup,
    Std.ExtTreeMap.contains_iff_mem]

end Hierarchy

end TagQuery
