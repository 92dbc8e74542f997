import Mathlib.Tactic.Common
import TagQuery.Record

/-!
# Tables and sets of values

What a table keeps under a name after an insertion, and when a record has a value.
-/

namespace TagQuery

theorem TagSet.mem_insert {values : TagSet} {value other : String} :
    other ∈ values.insert value ↔ other = value ∨ other ∈ values := by
  rw [Std.ExtTreeSet.mem_insert, Std.LawfulEqCmp.compare_eq_iff_eq, eq_comm]

theorem TagSet.mem_erase {values : TagSet} {value other : String} :
    other ∈ values.erase value ↔ other ≠ value ∧ other ∈ values := by
  rw [Std.ExtTreeSet.mem_erase, ne_eq, Std.LawfulEqCmp.compare_eq_iff_eq, eq_comm]

theorem TagSet.nodup_toList (values : TagSet) : values.toList.Nodup :=
  values.distinct_toList.imp fun hne heq =>
    hne (Std.LawfulEqCmp.compare_eq_iff_eq.mpr heq)

theorem TagSet.isEmpty_iff {values : TagSet} :
    values.isEmpty = true ↔ ∀ value, value ∉ values := by
  rw [Std.ExtTreeSet.isEmpty_iff]
  constructor
  · rintro rfl value
    exact Std.ExtTreeSet.not_mem_empty
  · intro h
    refine Std.ExtTreeSet.ext_mem fun value => ?_
    simp [h value]

section Lookup

variable {α : Type} {table : Std.ExtTreeMap String α} {name : String}

theorem mem_table_iff : name ∈ table ↔ ∃ x, table[name]? = some x := by
  rw [Std.ExtTreeMap.mem_iff_isSome_getElem?, Option.isSome_iff_exists]

theorem not_mem_table_iff : name ∉ table ↔ table[name]? = none := by
  rw [Std.ExtTreeMap.mem_iff_isSome_getElem?, Option.not_isSome_iff_eq_none]

end Lookup

/-- A list without a name twice has the entries of the table that is made of it. -/
theorem getElem?_ofList_iff {α : Type} {entries : List (String × α)} {name : String} {x : α}
    (hdistinct : (entries.map (·.1)).Nodup) :
    (Std.ExtTreeMap.ofList entries)[name]? = some x ↔ (name, x) ∈ entries := by
  have hpairwise : entries.Pairwise fun a b => ¬compare a.1 b.1 = .eq := by
    refine (List.pairwise_map.mp hdistinct).imp fun hne heq => hne ?_
    exact Std.LawfulEqCmp.compare_eq_iff_eq.mp heq
  constructor
  · intro h
    by_cases hname : name ∈ entries.map (·.1)
    · obtain ⟨entry, hentry, rfl⟩ := List.mem_map.mp hname
      rw [Std.ExtTreeMap.getElem?_ofList_of_mem Std.ReflCmp.compare_self hpairwise hentry] at h
      cases h
      exact hentry
    · rw [Std.ExtTreeMap.getElem?_ofList_of_contains_eq_false] at h
      · contradiction
      · rw [Bool.eq_false_iff, ne_eq, List.contains_iff_mem]
        exact hname
  · exact Std.ExtTreeMap.getElem?_ofList_of_mem Std.ReflCmp.compare_self hpairwise

theorem TagTable.valuesOf_insert (table : TagTable) (name other : String)
    (values : TagSet) :
    TagTable.valuesOf (table.insert name values) other =
      if name = other then values else table.valuesOf other := by
  simp only [valuesOf, Std.ExtTreeMap.getD_insert, Std.LawfulEqCmp.compare_eq_iff_eq]

theorem TagTable.mem_valuesOf_erase {table : TagTable} {name other value : String} :
    value ∈ TagTable.valuesOf (table.erase name) other ↔
      other ≠ name ∧ value ∈ table.valuesOf other := by
  rw [valuesOf, Std.ExtTreeMap.getD_erase]
  by_cases hname : name = other
  · simp [hname]
  · simp [hname, Ne.symm hname, valuesOf]

theorem TagTable.mem_valuesOf_addAll {table : TagTable} {name other value : String}
    {values : TagSet} :
    value ∈ (table.addAll name values).valuesOf other ↔
      (name = other ∧ value ∈ values) ∨ value ∈ table.valuesOf other := by
  rw [addAll, valuesOf_insert]
  by_cases hname : name = other
  · rw [if_pos hname, Std.ExtTreeSet.mem_union_iff, hname, or_comm]
    simp
  · rw [if_neg hname]
    simp [hname]

theorem TagTable.mem_valuesOf_iff {table : TagTable} {name value : String} :
    value ∈ table.valuesOf name ↔ ∃ values, table[name]? = some values ∧ value ∈ values := by
  rw [valuesOf, Std.ExtTreeMap.getD_eq_getD_getElem?]
  cases table[name]? with
  | none => simp
  | some values => simp

theorem TagTable.valuesOf_of_not_mem {table : TagTable} {name : String}
    (h : name ∉ table) : table.valuesOf name = ∅ :=
  Std.ExtTreeMap.getD_eq_fallback h

namespace Record

theorem hasTag_iff {r : Record} {category value : String} :
    r.hasTag category value = true ↔ value ∈ r.tagsOf category :=
  Std.ExtTreeSet.contains_iff_mem

theorem hasAnyTag_iff {r : Record} {category : String} {values : TagSet} :
    r.hasAnyTag category values = true ↔ ∃ value ∈ values, value ∈ r.tagsOf category := by
  unfold hasAnyTag
  dsimp only
  split
  · simp only [List.any_eq_true, Std.ExtTreeSet.mem_toList,
      Std.ExtTreeSet.contains_iff_mem]
    exact ⟨fun ⟨v, h, h'⟩ => ⟨v, h', h⟩, fun ⟨v, h, h'⟩ => ⟨v, h', h⟩⟩
  · simp only [List.any_eq_true, Std.ExtTreeSet.mem_toList,
      Std.ExtTreeSet.contains_iff_mem]

theorem mem_tagsOf_addTag {r : Record} {category added other value : String} :
    value ∈ (r.addTag category added).tagsOf other ↔
      (other = category ∧ value = added) ∨ value ∈ r.tagsOf other := by
  rw [tagsOf, addTag, TagTable.valuesOf_insert]
  by_cases hcategory : category = other
  · rw [if_pos hcategory, TagSet.mem_insert, hcategory]
    simp
  · rw [if_neg hcategory]
    simp [Ne.symm hcategory, tagsOf]

theorem mem_tagsOf_removeTag {r : Record} {category removed value : String} :
    value ∈ (r.removeTag category removed).tagsOf category ↔
      value ≠ removed ∧ value ∈ r.tagsOf category := by
  rw [tagsOf, removeTag, TagTable.valuesOf, Std.ExtTreeMap.getD_modify,
    if_pos Std.ReflCmp.compare_self, tagsOf, TagTable.valuesOf,
    Std.ExtTreeMap.getD_eq_getD_getElem?]
  cases r.tags[category]? with
  | none => simp
  | some values => exact TagSet.mem_erase

end Record

end TagQuery
