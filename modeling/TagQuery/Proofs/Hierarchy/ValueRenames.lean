import TagQuery.Proofs.Renames

/-!
# Chains of members after a rename

A value that is renamed is so as a group and as a member, and what groups hold in the end
is worked out anew.  Where nothing had the new name, no two names become one.  The chains
of members from what a group has become then lead to what was at their ends before, and
to nothing else: a chain is carried over link by link, and no link of the new chains
starts from a name that was not there.
-/

namespace TagQuery.Hierarchy

variable {h : Hierarchy} {category old new group member : String} {stamp : ℕ}

/-- A name is neither a group of a category nor a member of one. -/
structure Unnamed (h : Hierarchy) (category name : String) : Prop where
  group : h.isGroup category name = false
  member : ∀ group, name ∉ h.directMembers category group

/-- Only groups have members. -/
theorem unnamed_iff_forall_groupsOf {name : String} : h.Unnamed category name ↔
    h.isGroup category name = false ∧
      ∀ group ∈ h.groupsOf category, name ∉ h.directMembers category group := by
  constructor
  · exact fun hname => ⟨hname.group, fun group _ => hname.member group⟩
  · rintro ⟨hgroup, hmember⟩
    refine ⟨hgroup, fun group hmem => ?_⟩
    by_cases hkey : group ∈ h.groups category
    · exact hmember group (Std.ExtTreeMap.mem_keys.mpr hkey) hmem
    · rw [directMembers, TagTable.valuesOf_of_not_mem hkey] at hmem
      exact Std.ExtTreeSet.not_mem_empty hmem

instance (h : Hierarchy) (category name : String) : Decidable (h.Unnamed category name) :=
  decidable_of_iff _ unnamed_iff_forall_groupsOf.symm

/-- The second hierarchy has the groups of the first with one value of a category
renamed. -/
structure ValueMoved (h h' : Hierarchy) (category old new : String) : Prop where
  groups : ∀ group, h'.isGroup category group = true ↔
    ∃ before, h.isGroup category before = true ∧ renamed old new before = group
  /-- The new name is left out, which held nothing. -/
  members : ∀ group, group ≠ new → ∀ member,
    member ∈ h'.membersOf category (renamed old new group) ↔
      ∃ before ∈ h.membersOf category group, renamed old new before = member
  direct_other : ∀ other : String, other ≠ category → h'.direct[other]? = h.direct[other]?
  closure_other : ∀ other : String, other ≠ category → h'.closure[other]? = h.closure[other]?

theorem Unnamed.not_mem_groups (hnew : h.Unnamed category new) : new ∉ h.groups category := by
  rw [← Std.ExtTreeMap.contains_iff_mem, ← isGroup, hnew.group]
  exact Bool.false_ne_true

/-- What a group has become has the members that its members have become. -/
theorem Unnamed.leads_renameItem_iff (hnew : h.Unnamed category new) (hgroup : group ≠ new) :
    ((h.edit (.renameItem category old new) stamp).groups category).Leads
        (renamed old new group) member ↔
      ∃ before, (h.groups category).Leads group before ∧ renamed old new before = member := by
  have hmoved : (moveKey (h.groups category) old new)[renamed old new group]? =
      (h.groups category)[group]? :=
    getElem?_moveKey_eq (fun hmem => absurd hmem hnew.not_mem_groups)
      fun hsame => absurd hsame hgroup
  simp only [TagTable.Leads, TagTable.mem_valuesOf_iff, groups_renameItem,
    Std.ExtTreeMap.getElem?_map, hmoved, Option.map_eq_some_iff]
  constructor
  · rintro ⟨-, ⟨members, hmembers, rfl⟩, hmember⟩
    obtain ⟨before, hbefore, hrenamed⟩ := mem_renameIn.mp hmember
    exact ⟨before, ⟨members, hmembers, hbefore⟩, hrenamed⟩
  · rintro ⟨before, ⟨members, hmembers, hbefore⟩, hrenamed⟩
    exact ⟨_, ⟨members, hmembers, rfl⟩, mem_renameIn.mpr ⟨before, hbefore, hrenamed⟩⟩

/-- What a chain of members leads to is a member of some group. -/
theorem Unnamed.ne_of_transGen (hnew : h.Unnamed category new)
    (hchain : Relation.TransGen (h.groups category).Leads group member) : member ≠ new := by
  rintro rfl
  obtain ⟨last, -, hlast⟩ := Relation.TransGen.tail'_iff.mp hchain
  exact hnew.member last hlast

/-- Chains of members are carried over, and there are no others. -/
theorem Unnamed.transGen_renameItem_iff (hnew : h.Unnamed category new) (hgroup : group ≠ new) :
    Relation.TransGen ((h.edit (.renameItem category old new) stamp).groups category).Leads
        (renamed old new group) member ↔
      ∃ before, Relation.TransGen (h.groups category).Leads group before ∧
        renamed old new before = member := by
  constructor
  · intro hchain
    induction hchain with
    | single hlead =>
        obtain ⟨before, hbefore, hrenamed⟩ := (hnew.leads_renameItem_iff hgroup).mp hlead
        exact ⟨before, .single hbefore, hrenamed⟩
    | tail _ hlead ih =>
        -- The end of the chain so far is known by a name that was there before.
        obtain ⟨middle, hmiddle, rfl⟩ := ih
        obtain ⟨before, hbefore, hrenamed⟩ :=
          (hnew.leads_renameItem_iff (hnew.ne_of_transGen hmiddle)).mp hlead
        exact ⟨before, .tail hmiddle hbefore, hrenamed⟩
  · rintro ⟨before, hchain, rfl⟩
    refine hchain.lift (renamed old new) fun link next hlead => ?_
    have hlink : link ≠ new := by
      rintro rfl
      rw [TagTable.Leads, TagTable.valuesOf_of_not_mem hnew.not_mem_groups] at hlead
      exact Std.ExtTreeSet.not_mem_empty hlead
    exact (hnew.leads_renameItem_iff hlink).mpr ⟨next, hlead, rfl⟩

theorem isGroup_renameItem_iff :
    (h.edit (.renameItem category old new) stamp).isGroup category group = true ↔
      ∃ before, h.isGroup category before = true ∧ renamed old new before = group := by
  constructor
  · intro hgroup
    rw [isGroup, groups_renameItem, Std.ExtTreeMap.contains_iff_mem,
      Std.ExtTreeMap.mem_map] at hgroup
    obtain ⟨members, hmembers⟩ := mem_table_iff.mp hgroup
    obtain ⟨before, hrenamed, hbefore⟩ := exists_of_getElem?_moveKey hmembers
    refine ⟨before, ?_, hrenamed⟩
    rw [isGroup, Std.ExtTreeMap.contains_iff_mem]
    exact mem_table_iff.mpr ⟨members, hbefore⟩
  · rintro ⟨before, hbefore, rfl⟩
    exact isGroup_renameItem hbefore

theorem getElem?_renameItem_of_ne {other : String} (hother : other ≠ category) :
    (h.edit (.renameItem category old new) stamp).direct[other]? = h.direct[other]? ∧
      (h.edit (.renameItem category old new) stamp).closure[other]? = h.closure[other]? := by
  unfold HierarchyEdit.renameItem edit
  dsimp only
  split
  next =>
    simp [replaceGroups, Std.ExtTreeMap.getElem?_insert, Std.LawfulEqCmp.compare_eq_iff_eq,
      Ne.symm hother]
  next => exact ⟨rfl, rfl⟩

/-- A value that is renamed to an unused name is so in all that groups hold. -/
theorem Unnamed.valueMoved_edit (hnew : h.Unnamed category new) (hsound : h.Sound)
    (old : String) (stamp : ℕ) :
    h.ValueMoved (h.edit (.renameItem category old new) stamp) category old new where
  groups := fun group => isGroup_renameItem_iff
  members := by
    intro group hgroup member
    have hsound' := hsound.edit (.renameItem category old new) stamp
    simp only [hsound'.mem_membersOf_iff, hsound.mem_membersOf_iff,
      hnew.transGen_renameItem_iff hgroup]
  direct_other := fun other hother => (getElem?_renameItem_of_ne hother).1
  closure_other := fun other hother => (getElem?_renameItem_of_ne hother).2

end TagQuery.Hierarchy
