import Mathlib.Data.List.Nodup
import TagQuery.Matcher.Wildcard
import TagQuery.Proofs.Tags

/-!
# Free text among the values of a store

The values that a pattern matches are looked up once for a store.  For the records of
the store this comes to the same as matching all their tags.
-/

namespace TagQuery

namespace RecordStore

variable {store : RecordStore} {r : Record} {category value : String}

/-- A store knows the tags of its records. -/
theorem mem_itemsOf (hr : r ∈ store.records) (hvalue : value ∈ r.tagsOf category) :
    value ∈ store.itemsOf category := by
  rw [itemsOf, Std.ExtTreeSet.mem_ofList, List.contains_iff_mem, List.mem_append,
    List.mem_flatMap]
  exact Or.inr ⟨r, hr, Std.ExtTreeSet.mem_toList.mpr hvalue⟩

theorem mem_categories (hr : r ∈ store.records) (hvalue : value ∈ r.tagsOf category) :
    category ∈ store.categories := by
  obtain ⟨values, hvalues, -⟩ := TagTable.mem_valuesOf_iff.mp hvalue
  have hkey : category ∈ r.tags := mem_table_iff.mpr ⟨values, hvalues⟩
  rw [categories, Std.ExtTreeSet.mem_ofList, List.contains_iff_mem, List.mem_append,
    List.mem_flatMap]
  exact Or.inr ⟨r, hr, Std.ExtTreeMap.mem_keys.mpr hkey⟩

end RecordStore

namespace Wildcard

variable {pattern : Pattern} {store : RecordStore} {r : Record} {category value : String}

theorem mem_filter_occursIn {values : TagSet} :
    value ∈ values.filter pattern.occursIn ↔
      value ∈ values ∧ pattern.occursIn value = true := by
  simp [Std.ExtTreeSet.mem_filter, Std.ExtTreeSet.get_eq]

theorem mem_of_hits? {values : TagSet} (h : hits? pattern store category = some values) :
    value ∈ values ↔ value ∈ store.itemsOf category ∧ pattern.occursIn value = true := by
  rw [← mem_filter_occursIn]
  unfold hits? at h
  dsimp only at h
  split at h
  · contradiction
  · cases h
    exact Iff.rfl

theorem exists_hits? (hitem : value ∈ store.itemsOf category)
    (hmatch : pattern.occursIn value = true) :
    ∃ values, hits? pattern store category = some values := by
  have hne : ¬((store.itemsOf category).filter pattern.occursIn).isEmpty = true := by
    rw [TagSet.isEmpty_iff]
    exact fun hempty => hempty value (mem_filter_occursIn.mpr ⟨hitem, hmatch⟩)
  exact ⟨_, if_neg hne⟩

/-- The table of a wildcard has one entry for each category with hits. -/
theorem getElem?_matching {values : TagSet} :
    (ofPattern pattern store).matching[category]? = some values ↔
      category ∈ store.categories ∧ hits? pattern store category = some values := by
  have hdistinct : ((store.categories.toList.filterMap fun name =>
      (hits? pattern store name).map (name, ·)).map (·.1)).Nodup := by
    rw [List.map_filterMap]
    refine (TagSet.nodup_toList _).filterMap fun name name' category hname hname' => ?_
    simp only [Option.map_map, Option.mem_def, Option.map_eq_some_iff,
      Function.comp_apply] at hname hname'
    obtain ⟨-, -, rfl⟩ := hname
    obtain ⟨-, -, rfl⟩ := hname'
    rfl
  rw [ofPattern, getElem?_ofList_iff hdistinct, List.mem_filterMap]
  constructor
  · rintro ⟨name, hname, hentry⟩
    obtain ⟨found, hfound, heq⟩ := Option.map_eq_some_iff.mp hentry
    cases heq
    exact ⟨Std.ExtTreeSet.mem_toList.mp hname, hfound⟩
  · rintro ⟨hcategory, hfound⟩
    exact ⟨category, Std.ExtTreeSet.mem_toList.mpr hcategory, by rw [hfound]; rfl⟩

/-- A record of the store is accepted if the free text matches one of its tags. -/
theorem accepts_ofPattern_iff (hr : r ∈ store.records) :
    (ofPattern pattern store).accepts r = true ↔
      ∃ category, ∃ value ∈ r.tagsOf category, pattern.occursIn value = true := by
  simp only [accepts, List.any_eq_true, Prod.exists,
    Std.ExtTreeMap.mem_toList_iff_getElem?_eq_some, getElem?_matching, Record.hasAnyTag_iff]
  constructor
  · rintro ⟨category, values, ⟨-, hhits⟩, value, hvalue, htag⟩
    exact ⟨category, value, htag, ((mem_of_hits? hhits).mp hvalue).2⟩
  · rintro ⟨category, value, htag, hmatch⟩
    have hitem := RecordStore.mem_itemsOf hr htag
    obtain ⟨values, hhits⟩ := exists_hits? hitem hmatch
    exact ⟨category, values, ⟨RecordStore.mem_categories hr htag, hhits⟩, value,
      (mem_of_hits? hhits).mpr ⟨hitem, hmatch⟩, htag⟩

end Wildcard

end TagQuery
