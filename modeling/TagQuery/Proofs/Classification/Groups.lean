import TagQuery.Classification
import TagQuery.Proofs.Tags

/-!
# Counting groups

A group counter goes by what its groups hold, turned round: for every value, the
groups that hold it.  A record with several values of a group is counted for it
once.
-/

namespace TagQuery

/-- A record has a value or one of those that the value holds in a table of groups. -/
def Record.carries (r : Record) (groups : TagTable) (category value : String) : Bool :=
  r.hasTag category value || r.hasAnyTag category (groups.valuesOf value)

theorem Record.carries_iff {r : Record} {groups : TagTable} {category value : String} :
    r.carries groups category value = true ↔
      value ∈ r.tagsOf category ∨
        ∃ member ∈ groups.valuesOf value, member ∈ r.tagsOf category := by
  rw [carries, Bool.or_eq_true, hasTag_iff, hasAnyTag_iff]

namespace GroupCounter

/-! ## Who holds a value -/

theorem mem_foldl_members (group item : String) (members : List String)
    (holders : TagTable) {holder : String} :
    holder ∈ TagTable.valuesOf
        (members.foldl (fun holders member => TagTable.addAll holders member {group})
          holders) item ↔
      (item ∈ members ∧ holder = group) ∨ holder ∈ holders.valuesOf item := by
  induction members generalizing holders with
  | nil => simp
  | cons member members ih =>
      rw [List.foldl_cons, ih, TagTable.mem_valuesOf_addAll, List.mem_cons]
      have hsingle : holder ∈ ({group} : TagSet) ↔ holder = group := by
        have hinsert : holder ∈ (∅ : TagSet).insert group ↔ holder = group := by
          rw [TagSet.mem_insert]
          simp
        exact hinsert
      rw [hsingle]
      constructor
      · rintro (⟨hitem, hholder⟩ | ⟨hitem, hholder⟩ | hrest)
        · exact Or.inl ⟨Or.inr hitem, hholder⟩
        · exact Or.inl ⟨Or.inl hitem.symm, hholder⟩
        · exact Or.inr hrest
      · rintro (⟨hitem | hitem, hholder⟩ | hrest)
        · exact Or.inr (Or.inl ⟨hitem.symm, hholder⟩)
        · exact Or.inl ⟨hitem, hholder⟩
        · exact Or.inr (Or.inr hrest)

theorem mem_foldl_groups (item : String) (groups : List (String × TagSet))
    (holders : TagTable) {holder : String} :
    holder ∈ TagTable.valuesOf
        (groups.foldl (fun holders entry =>
          entry.2.foldl (fun holders member => TagTable.addAll holders member {entry.1})
            holders) holders) item ↔
      (∃ members, (holder, members) ∈ groups ∧ item ∈ members) ∨
        holder ∈ holders.valuesOf item := by
  induction groups generalizing holders with
  | nil => simp
  | cons entry groups ih =>
      obtain ⟨group, members⟩ := entry
      rw [List.foldl_cons, ih, Std.ExtTreeSet.foldl_eq_foldl_toList, mem_foldl_members,
        Std.ExtTreeSet.mem_toList]
      constructor
      · rintro (⟨members', hmem, hitem⟩ | ⟨hitem, rfl⟩ | hrest)
        · exact Or.inl ⟨members', List.mem_cons_of_mem _ hmem, hitem⟩
        · exact Or.inl ⟨members, List.mem_cons_self, hitem⟩
        · exact Or.inr hrest
      · rintro (⟨members', hmem, hitem⟩ | hrest)
        · rcases List.mem_cons.mp hmem with heq | hmem
          · cases heq
            exact Or.inr (Or.inl ⟨hitem, rfl⟩)
          · exact Or.inl ⟨members', hmem, hitem⟩
        · exact Or.inr (Or.inr hrest)

/-- The groups that hold a value are those among whose members it is. -/
theorem mem_holdersOf {groups : TagTable} {item holder : String} :
    holder ∈ (holdersOf groups).valuesOf item ↔ item ∈ groups.valuesOf holder := by
  rw [holdersOf, Std.ExtTreeMap.foldl_eq_foldl_toList, mem_foldl_groups]
  simp only [Std.ExtTreeMap.mem_toList_iff_getElem?_eq_some]
  rw [← TagTable.mem_valuesOf_iff]
  constructor
  · rintro (h | hempty)
    · exact h
    · exact absurd hempty Std.ExtTreeSet.not_mem_empty
  · exact Or.inl

theorem mem_groupsHit {counter : GroupCounter} {items : TagSet} {group : String} :
    group ∈ counter.groupsHit items ↔
      (∃ item ∈ items, group ∈ counter.holders.valuesOf item) ∨
        (group ∈ items ∧ group ∈ counter.buckets) := by
  rw [groupsHit, Std.ExtTreeSet.mem_ofList, List.contains_iff_mem, List.mem_flatMap]
  simp only [Std.ExtTreeSet.mem_toList, List.mem_append]
  constructor
  · rintro ⟨item, hitem, hholder | hself⟩
    · exact Or.inl ⟨item, hitem, hholder⟩
    · split at hself
      next hbucket =>
        rw [List.mem_singleton.mp hself]
        exact Or.inr ⟨hitem, hbucket⟩
      next => contradiction
  · rintro (⟨item, hitem, hholder⟩ | ⟨hitem, hbucket⟩)
    · exact ⟨item, hitem, Or.inl hholder⟩
    · refine ⟨group, hitem, Or.inr ?_⟩
      rw [if_pos hbucket]
      exact List.mem_singleton_self group

/-! ## What was counted -/

/-- Every group has counted the records of a list that carry it. -/
structure Counted (groups : TagTable) (category : String) (records : List Record)
    (counter : GroupCounter) : Prop where
  holders_eq : counter.holders = holdersOf groups
  bucket : ∀ group : String, counter.buckets[group]?.map (·.count) =
    if group ∈ groups then some (records.countP (·.carries groups category group))
    else none

theorem counted_new (groups : TagTable) (category : String) :
    Counted groups category [] (new groups) where
  holders_eq := rfl
  bucket := by
    intro group
    rw [new, Std.ExtTreeMap.getElem?_map]
    by_cases hgroup : group ∈ groups
    · obtain ⟨members, hmembers⟩ := mem_table_iff.mp hgroup
      rw [if_pos hgroup, hmembers]
      rfl
    · rw [if_neg hgroup, Std.ExtTreeMap.getElem?_eq_none hgroup]
      rfl

variable {groups : TagTable} {category : String} {records : List Record}
  {counter : GroupCounter}

theorem Counted.mem_buckets (h : Counted groups category records counter)
    {group : String} : group ∈ counter.buckets ↔ group ∈ groups := by
  have hbucket := congrArg Option.isSome (h.bucket group)
  rw [Option.isSome_map] at hbucket
  rw [Std.ExtTreeMap.mem_iff_isSome_getElem?, hbucket]
  by_cases hgroup : group ∈ groups
  · simp [hgroup]
  · simp [hgroup]

/-- A group is hit by the tags of a record exactly if the record carries it. -/
theorem Counted.mem_groupsHit (h : Counted groups category records counter)
    {group : String} (hgroup : group ∈ groups) (r : Record) :
    group ∈ counter.groupsHit (r.tagsOf category) ↔
      r.carries groups category group = true := by
  rw [GroupCounter.mem_groupsHit, h.holders_eq, h.mem_buckets, Record.carries_iff]
  simp only [mem_holdersOf]
  constructor
  · rintro (⟨item, hitem, hmember⟩ | ⟨hitem, -⟩)
    · exact Or.inr ⟨item, hmember, hitem⟩
    · exact Or.inl hitem
  · rintro (hitem | ⟨item, hmember, hitem⟩)
    · exact Or.inr ⟨hitem, hgroup⟩
    · exact Or.inl ⟨item, hitem, hmember⟩

theorem Counted.count (h : Counted groups category records counter) (r : Record) :
    Counted groups category (records ++ [r])
      (counter.count (r.tagsOf category) r.date) where
  holders_eq := h.holders_eq
  bucket := by
    intro group
    have hbucket := h.bucket group
    rw [GroupCounter.count, Std.ExtTreeMap.getElem?_map, Option.map_map]
    by_cases hgroup : group ∈ groups
    · rw [if_pos hgroup, Option.map_eq_some_iff] at hbucket
      obtain ⟨bucket, hsome, hcount⟩ := hbucket
      have hhit := h.mem_groupsHit hgroup r
      rw [if_pos hgroup, hsome, List.countP_append, List.countP_singleton, ← hcount]
      cases hcarries : r.carries groups category group with
      | true => simp [hhit.mpr hcarries, Bucket.add]
      | false => simp [mt hhit.mp (by simp [hcarries])]
    · rw [if_neg hgroup, Option.map_eq_none_iff] at hbucket
      rw [if_neg hgroup, hbucket]
      rfl

/-- The buckets of groups that counted something. -/
theorem Counted.result (h : Counted groups category records counter) (group : String) :
    counter.result[group]?.map (·.count) =
      if group ∈ groups ∧ 0 < records.countP (·.carries groups category group) then
        some (records.countP (·.carries groups category group))
      else none := by
  have hbucket := h.bucket group
  rw [GroupCounter.result, Std.ExtTreeMap.getElem?_filter]
  by_cases hgroup : group ∈ groups
  · rw [if_pos hgroup, Option.map_eq_some_iff] at hbucket
    obtain ⟨bucket, hsome, hcount⟩ := hbucket
    rw [hsome, ← hcount]
    by_cases hpositive : 0 < bucket.count
    · simp [hgroup, hpositive]
    · simp [Nat.eq_zero_of_not_pos hpositive]
  · rw [if_neg hgroup, Option.map_eq_none_iff] at hbucket
    rw [hbucket, if_neg fun hcounts => hgroup hcounts.1]
    rfl

end GroupCounter

end TagQuery
