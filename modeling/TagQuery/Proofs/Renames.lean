import TagQuery.Proofs.Hierarchy
import TagQuery.Proofs.Query.Constraints

/-!
# Renames

What a rename leaves of tags, of groups and of match texts, for any names, fresh or in
use.  Tags are merged where the new name is in use.  Groups and match texts are not: what
is renamed takes the place of what was there.
-/

namespace TagQuery

/-- What a name has become after a rename. -/
def renamed (old new name : String) : String :=
  if name = old then new else name

variable {old new name value category : String}

theorem renamed_old (old new : String) : renamed old new old = new :=
  if_pos rfl

theorem renamed_of_ne (new : String) (h : name ≠ old) : renamed old new name = name :=
  if_neg h

theorem renamed_new (old new : String) : renamed old new new = new := by
  unfold renamed
  split
  · rfl
  · rfl

/-- Only an unused name could be mistaken for another one. -/
theorem renamed_inj {name' : String} (h : renamed old new name = renamed old new name')
    (hname : name = new → old = new) (hname' : name' = new → old = new) : name = name' := by
  by_cases hold : name = old
  · by_cases hold' : name' = old
    · rw [hold, hold']
    · rw [hold, renamed_old, renamed_of_ne new hold'] at h
      rw [hold, ← h]
      exact hname' h.symm
  · by_cases hold' : name' = old
    · rw [hold', renamed_old, renamed_of_ne new hold] at h
      rw [hold', h]
      exact (hname h).symm
    · rw [renamed_of_ne new hold, renamed_of_ne new hold'] at h
      exact h

/-! ## Tables and sets -/

section MoveKey

variable {α : Type} {table : Std.ExtTreeMap String α} {x : α}

/-- What is kept under a name is kept under what the name has become, unless something
else takes its place. -/
theorem getElem?_moveKey_renamed (hname : table[name]? = some x)
    (hfree : name = new → old ∈ table → old = new) :
    (moveKey table old new)[renamed old new name]? = some x := by
  rw [Hierarchy.getElem?_moveKey]
  by_cases hold : name = old
  · have hmem : old ∈ table := mem_table_iff.mpr ⟨x, hold ▸ hname⟩
    rw [if_pos hmem, hold, renamed_old, if_pos rfl, ← hold]
    exact hname
  · rw [renamed_of_ne new hold]
    split
    next hmem =>
      have hne : new ≠ name := by
        intro hnew
        exact hold (hnew.symm.trans (hfree hnew.symm hmem).symm)
      rw [if_neg hne, if_neg (Ne.symm hold)]
      exact hname
    next => exact hname

/-- A name that is in a table stays there as what it has become. -/
theorem mem_moveKey (h : name ∈ table) :
    renamed old new name ∈ moveKey table old new := by
  by_cases hfree : name = new → old ∈ table → old = new
  · obtain ⟨x, hname⟩ := mem_table_iff.mp h
    exact mem_table_iff.mpr ⟨x, getElem?_moveKey_renamed hname hfree⟩
  · push Not at hfree
    obtain ⟨rfl, hmem, -⟩ := hfree
    rw [renamed_new, Std.ExtTreeMap.mem_iff_isSome_getElem?, Hierarchy.getElem?_moveKey,
      if_pos hmem, if_pos rfl, ← Std.ExtTreeMap.mem_iff_isSome_getElem?]
    exact hmem

/-- What is found under a name is found under what the name has become, as far as the new
name stands for nothing. -/
theorem apply_getElem?_moveKey {β : Type} (f : Option α → β)
    (hnew : old = new ∨ f table[new]? = f none) (hname : name = new → old = new) :
    f (moveKey table old new)[renamed old new name]? = f table[name]? := by
  rw [Hierarchy.getElem?_moveKey]
  by_cases hold : name = old
  · rw [hold, renamed_old]
    split
    next => rw [if_pos rfl]
    next hmem =>
      rw [not_mem_table_iff] at hmem
      rcases hnew with hsame | hnew
      · rw [hsame]
      · rw [hnew, hmem]
  · have hne : new ≠ name := fun hnew => hold (hnew.symm.trans (hname hnew.symm).symm)
    rw [renamed_of_ne new hold, if_neg hne, if_neg (Ne.symm hold), ite_self]

theorem getElem?_moveKey_eq (hnew : new ∈ table → old = new)
    (hname : name = new → old = new) :
    (moveKey table old new)[renamed old new name]? = table[name]? := by
  refine apply_getElem?_moveKey id ?_ hname
  by_cases hmem : new ∈ table
  · exact Or.inl (hnew hmem)
  · exact Or.inr (not_mem_table_iff.mp hmem)

/-- What is kept in a table after a rename was there under a name that has become the
name it is found under. -/
theorem exists_of_getElem?_moveKey (h : (moveKey table old new)[name]? = some x) :
    ∃ before, renamed old new before = name ∧ table[before]? = some x := by
  rw [Hierarchy.getElem?_moveKey] at h
  split at h
  next hmem =>
    split at h
    next hnew => exact ⟨old, (renamed_old old new).trans hnew, h⟩
    next =>
      split at h
      · contradiction
      next hold => exact ⟨name, renamed_of_ne new (Ne.symm hold), h⟩
  next hmem =>
    refine ⟨name, renamed_of_ne new ?_, h⟩
    rintro rfl
    exact hmem (mem_table_iff.mpr ⟨x, h⟩)

end MoveKey

/-- A set with a value renamed holds what its values have become. -/
theorem Hierarchy.mem_renameIn {values : TagSet} :
    value ∈ renameIn old new values ↔ ∃ before ∈ values, renamed old new before = value := by
  unfold renameIn
  split
  next hold =>
    rw [TagSet.mem_insert, TagSet.mem_erase]
    constructor
    · rintro (rfl | ⟨hne, hmem⟩)
      · exact ⟨old, hold, renamed_old old value⟩
      · exact ⟨value, hmem, renamed_of_ne new hne⟩
    · rintro ⟨before, hmem, rfl⟩
      by_cases hbefore : before = old
      · rw [hbefore, renamed_old]
        exact Or.inl rfl
      · rw [renamed_of_ne new hbefore]
        exact Or.inr ⟨hbefore, hmem⟩
  next hold =>
    have hkept : ∀ before ∈ values, renamed old new before = before := by
      intro before hmem
      refine renamed_of_ne new ?_
      rintro rfl
      exact hold hmem
    constructor
    · exact fun hmem => ⟨value, hmem, hkept value hmem⟩
    · rintro ⟨before, hmem, rfl⟩
      rw [hkept before hmem]
      exact hmem

/-! ## Records -/

namespace Record

variable {r : Record}

/-- A category that is moved to another is merged with it. -/
theorem mem_tagsOf_renameCategory :
    value ∈ (r.renameCategory old new).tagsOf category ↔
      ∃ before, renamed old new before = category ∧ value ∈ r.tagsOf before := by
  have hcases : (∃ before, renamed old new before = category ∧ value ∈ r.tagsOf before) ↔
      (new = category ∧ value ∈ r.tagsOf old) ∨ (category ≠ old ∧ value ∈ r.tagsOf category) := by
    constructor
    · rintro ⟨before, rfl, hvalue⟩
      by_cases hbefore : before = old
      · rw [hbefore] at hvalue ⊢
        exact Or.inl ⟨(renamed_old old new).symm, hvalue⟩
      · rw [renamed_of_ne new hbefore]
        exact Or.inr ⟨hbefore, hvalue⟩
    · rintro (⟨rfl, hvalue⟩ | ⟨hne, hvalue⟩)
      · exact ⟨old, renamed_old old new, hvalue⟩
      · exact ⟨category, renamed_of_ne new hne, hvalue⟩
  rw [hcases, tagsOf, renameCategory]
  cases htags : r.tags[old]? with
  | none =>
      have hold : value ∉ r.tagsOf old := by
        rw [tagsOf, TagTable.mem_valuesOf_iff, htags]
        simp
      constructor
      · intro hvalue
        refine Or.inr ⟨?_, hvalue⟩
        rintro rfl
        exact hold hvalue
      · rintro (⟨-, hvalue⟩ | ⟨-, hvalue⟩)
        · exact absurd hvalue hold
        · exact hvalue
  | some values =>
      have hold : value ∈ r.tagsOf old ↔ value ∈ values := by
        rw [tagsOf, TagTable.mem_valuesOf_iff, htags]
        simp
      rw [TagTable.mem_valuesOf_addAll, TagTable.mem_valuesOf_erase, hold, tagsOf]

/-- A tag that is renamed is merged with the one that has the name already. -/
theorem mem_tagsOf_renameTag :
    value ∈ (r.renameTag category old new).tagsOf category ↔
      ∃ before ∈ r.tagsOf category, renamed old new before = value := by
  rw [← Hierarchy.mem_renameIn, Hierarchy.renameIn, renameTag]
  by_cases htag : r.hasTag category old
  · rw [if_pos htag, if_pos (hasTag_iff.mp htag), mem_tagsOf_addTag, mem_tagsOf_removeTag,
      TagSet.mem_insert, TagSet.mem_erase]
    simp
  · rw [if_neg htag, if_neg (mt hasTag_iff.mpr htag)]

end Record

/-! ## Groups -/

namespace Hierarchy

variable {h : Hierarchy} {group member : String} {stamp : ℕ}

theorem mem_directMembers_iff :
    member ∈ h.directMembers category group ↔
      ∃ table, h.direct[category]? = some table ∧ member ∈ table.valuesOf group := by
  rw [directMembers, groups, Std.ExtTreeMap.getD_eq_getD_getElem?]
  cases h.direct[category]? with
  | none => simp [TagTable.valuesOf]
  | some table => simp

/-- The groups of a category are found in the category that it has become, unless others
take their place. -/
theorem mem_directMembers_renameCategory
    (hfree : category = new → old ∈ h.direct → old = new)
    (hmember : member ∈ h.directMembers category group) :
    member ∈ (h.edit (.renameCategory old new) stamp).directMembers
      (renamed old new category) group := by
  rw [mem_directMembers_iff] at hmember ⊢
  obtain ⟨table, htable, hmember⟩ := hmember
  exact ⟨table, getElem?_moveKey_renamed htable hfree, hmember⟩

theorem groups_renameItem (category old new : String) (stamp : ℕ) :
    (h.edit (.renameItem category old new) stamp).groups category =
      (moveKey (h.groups category) old new).map fun _ members => renameIn old new members := by
  unfold HierarchyEdit.renameItem edit
  dsimp only
  split
  next => simp [replaceGroups, groups]
  next hcategory =>
    have hgroups : h.groups category = ∅ := Std.ExtTreeMap.getD_eq_fallback hcategory
    rw [hgroups]
    exact (Std.ExtTreeMap.ext_getElem? fun k => by simp [moveKey]).symm

/-- A group stays one as what its name has become. -/
theorem isGroup_renameItem (hgroup : h.isGroup category group = true) :
    (h.edit (.renameItem category old new) stamp).isGroup category
      (renamed old new group) = true := by
  rw [isGroup, Std.ExtTreeMap.contains_iff_mem] at hgroup ⊢
  rw [groups_renameItem, Std.ExtTreeMap.mem_map]
  exact mem_moveKey hgroup

/-- A group keeps its members as what their names have become, unless another group takes
its place. -/
theorem mem_directMembers_renameItem
    (hfree : group = new → old ∈ h.groups category → old = new)
    (hmember : member ∈ h.directMembers category group) :
    renamed old new member ∈ (h.edit (.renameItem category old new) stamp).directMembers
      category (renamed old new group) := by
  rw [directMembers, TagTable.mem_valuesOf_iff] at hmember ⊢
  obtain ⟨members, hgroup, hmember⟩ := hmember
  refine ⟨renameIn old new members, ?_, mem_renameIn.mpr ⟨member, hmember, rfl⟩⟩
  rw [groups_renameItem, Std.ExtTreeMap.getElem?_map, getElem?_moveKey_renamed hgroup hfree]
  rfl

end Hierarchy

/-! ## Stores and queries -/

/-- What two categories held is held by the second one, to which the first was moved. -/
structure RecordStore.CategoryMerged (before after : RecordStore) (old new : String) :
    Prop where
  tags : List.Forall₂ (fun r r' : Record => ∀ value,
    value ∈ r.tagsOf old ∨ value ∈ r.tagsOf new → value ∈ r'.tagsOf new)
    before.records after.records
  members_old : ∀ group, ∀ member ∈ before.hierarchy.directMembers old group,
    member ∈ after.hierarchy.directMembers new group
  /-- Groups of the second category stay only if none of the first take their place. -/
  members_new : (old ∈ before.hierarchy.direct → old = new) →
    ∀ group, ∀ member ∈ before.hierarchy.directMembers new group,
      member ∈ after.hierarchy.directMembers new group

/-- What a category held is held as what the names have become. -/
structure RecordStore.ItemMerged (before after : RecordStore) (category old new : String) :
    Prop where
  tags : List.Forall₂ (fun r r' : Record => ∀ value ∈ r.tagsOf category,
    renamed old new value ∈ r'.tagsOf category) before.records after.records
  groups : ∀ group, before.hierarchy.isGroup category group = true →
    after.hierarchy.isGroup category (renamed old new group) = true
  /-- The group with the new name keeps its members only if no other takes its place. -/
  members : ∀ group, ∀ member ∈ before.hierarchy.directMembers category group,
    (group = new → old ∈ before.hierarchy.groups category → old = new) →
      renamed old new member ∈
        after.hierarchy.directMembers category (renamed old new group)

/-- What matches still satisfies what two categories asked, now asked of the second. -/
structure SearchQuery.CategoryMerged (before after : SearchQuery) (old new : String) :
    Prop where
  text_old : ∀ (store : RecordStore) (stamp : ℕ) (r : Record),
    (after.compile store stamp).evaluate r = true → ∀ text, before.texts[old]? = some text →
      (Matcher.ofText? store.hierarchy new text).all (·.accepts r) = true
  /-- The text of the second category stays only if that of the first does not take its
  place. -/
  text_new : (old ∈ before.texts → old = new) →
    ∀ (store : RecordStore) (stamp : ℕ) (r : Record),
      (after.compile store stamp).evaluate r = true → ∀ text, before.texts[new]? = some text →
        (Matcher.ofText? store.hierarchy new text).all (·.accepts r) = true

theorem RecordStore.forall₂_editEach (store : RecordStore) (change : RecordEdit) :
    List.Forall₂ (fun r r' => r' = change.apply r) store.records
      (store.editEach change).records := by
  rw [records, records, editEach, List.map_map, List.forall₂_map_left_iff,
    List.forall₂_map_right_iff, List.forall₂_same]
  exact fun e _ => rfl

theorem RecordStore.categoryMerged_edit (store : RecordStore) (old new : String)
    (stamp : ℕ) : store.CategoryMerged (store.edit (.renameCategory old new) stamp) old new where
  tags := by
    refine (store.forall₂_editEach (.renameCategory old new)).imp fun r r' hr value hvalue => ?_
    rw [hr, RecordEdit.apply, Record.mem_tagsOf_renameCategory]
    rcases hvalue with hvalue | hvalue
    · exact ⟨old, renamed_old old new, hvalue⟩
    · exact ⟨new, renamed_new old new, hvalue⟩
  members_old := by
    intro group member hmember
    have hmoved : member ∈ (store.edit (.renameCategory old new) stamp).hierarchy.directMembers
        (renamed old new old) group :=
      Hierarchy.mem_directMembers_renameCategory (fun hsame _ => hsame) hmember
    rw [renamed_old] at hmoved
    exact hmoved
  members_new := by
    intro hfree group member hmember
    have hmoved : member ∈ (store.edit (.renameCategory old new) stamp).hierarchy.directMembers
        (renamed old new new) group :=
      Hierarchy.mem_directMembers_renameCategory (fun _ => hfree) hmember
    rw [renamed_new] at hmoved
    exact hmoved

theorem RecordStore.itemMerged_edit (store : RecordStore) (category old new : String)
    (stamp : ℕ) :
    store.ItemMerged (store.edit (.renameItem category old new) stamp) category old new where
  tags := by
    refine (store.forall₂_editEach (.renameTag category old new)).imp
      fun r r' hr value hvalue => ?_
    rw [hr, RecordEdit.apply, Record.mem_tagsOf_renameTag]
    exact ⟨value, hvalue, rfl⟩
  groups := fun group hgroup => Hierarchy.isGroup_renameItem hgroup
  members := fun group member hmember hfree =>
    Hierarchy.mem_directMembers_renameItem hfree hmember

theorem SearchQuery.categoryMerged_moveKey (q : SearchQuery) (old new : String)
    (generation : ℕ) :
    q.CategoryMerged { q with texts := moveKey q.texts old new, generation } old new := by
  have haccepts : ∀ category, (category = new → old ∈ q.texts → old = new) →
      ∀ (store : RecordStore) (stamp : ℕ) (r : Record),
        (({ q with texts := moveKey q.texts old new, generation } : SearchQuery).compile store
          stamp).evaluate r = true → ∀ text, q.texts[category]? = some text →
          (Matcher.ofText? store.hierarchy (renamed old new category) text).all
            (·.accepts r) = true := by
    intro category hfree store stamp r hmatch text htext
    rw [evaluate_compile_iff] at hmatch
    rw [Matcher.all_accepts_ofText?]
    exact hmatch.2 _ text (getElem?_moveKey_renamed htext hfree)
  constructor
  · have hold := haccepts old fun hsame _ => hsame
    rw [renamed_old] at hold
    exact hold
  · intro hfree
    have hnew := haccepts new fun _ => hfree
    rw [renamed_new] at hnew
    exact hnew

/-- A rename, onto any name, keeps all tags and groups as what their names have become, and
all members and match texts except those of the new name whose place is taken. -/
theorem renames_keep_all_not_replaced (store : RecordStore) (q : SearchQuery)
    (category old new : String) (stamp generation : ℕ) :
    store.CategoryMerged (store.edit (.renameCategory old new) stamp) old new ∧
      store.ItemMerged (store.edit (.renameItem category old new) stamp) category old new ∧
      ∃ q', q.edit (.renameCategory old new) generation = .ok q' ∧
        q.CategoryMerged q' old new :=
  ⟨store.categoryMerged_edit old new stamp, store.itemMerged_edit category old new stamp,
    _, rfl, q.categoryMerged_moveKey old new generation⟩

/-- A category without groups is moved to one that has a group. -/
theorem renames_keep_all_not_replaced_of_tags :
    let groups : GroupTables :=
      (∅ : GroupTables).insert "Persons" ((∅ : TagTable).insert "Friends" {"Bob"})
    let store := RecordStore.ofRecords
      [{ fileName := "a.jpg", tags := (∅ : TagTable).insert "People" {"Anne"} }] groups 1
    ("People" ∈ store.hierarchy.direct → "People" = "Persons") ∧
      "Bob" ∈ (store.edit (.renameCategory "People" "Persons") 9).hierarchy.directMembers
        "Persons" "Friends" := by
  intro groups store
  have hfree : "People" ∈ store.hierarchy.direct → "People" = "Persons" := by decide +kernel
  have hmember : "Bob" ∈ store.hierarchy.directMembers "Persons" "Friends" := by decide +kernel
  have hmerged := (renames_keep_all_not_replaced store (.new 1) "People" "People" "Persons" 9 2).1
  exact ⟨hfree, hmerged.members_new hfree "Friends" "Bob" hmember⟩

/-- Where the new name is in use, its groups, the members of its group and its match text
are lost. -/
theorem members_and_texts_lost_by_renames :
    let groups : GroupTables := ((∅ : GroupTables).insert "People"
      ((∅ : TagTable).insert "Family" {"Mom"})).insert "Persons"
      (((∅ : TagTable).insert "Friends" {"Bob"}).insert "States" {"Boston"})
    let store := RecordStore.ofRecords [] groups 1
    let q : SearchQuery := { SearchQuery.new 1 with
      texts := ((∅ : TextTable).insert "People" "Anne").insert "Persons" "Jim" }
    let anne : Record :=
      { fileName := "a.jpg", tags := (∅ : TagTable).insert "Persons" {"Anne"} }
    ("Bob" ∈ store.hierarchy.directMembers "Persons" "Friends" ∧
      "Bob" ∉ (store.edit (.renameCategory "People" "Persons") 9).hierarchy.directMembers
        "Persons" "Friends") ∧
    ("Boston" ∈ store.hierarchy.directMembers "Persons" "States" ∧
      "Boston" ∉ (store.edit (.renameItem "Persons" "Friends" "States") 9).hierarchy.directMembers
        "Persons" "States") ∧
    (Matcher.ofText? store.hierarchy "Persons" "Jim").all (·.accepts anne) = false ∧
      (q.edit (.renameCategory "People" "Persons") 2).toOption.map
        (fun q' => (q'.compile store 3).evaluate anne) = some true := by
  decide +kernel

end TagQuery
