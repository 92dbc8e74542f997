import Mathlib.Data.List.Nodup
import TagQuery.Proofs.Json.Strings
import TagQuery.Proofs.Query.Constraints
import TagQuery.Query.Lock

/-!
# Saved privacy locks

The keys under which a lock is saved are all different, whatever the categories are
called, and the list of the categories is read back as it was written.  What is restored
therefore has the label, the description and the match texts that were saved; only blank
texts get lost, and these ask for nothing.
-/

namespace TagQuery

/-! ## Keys -/

namespace Lock

variable {category : String}

theorem categoryKey_injective : Function.Injective categoryKey := by
  intro category other h
  exact (String.append_right_inj _).mp h

/-- The keys of the attributes are none of categories. -/
theorem categoryKey_not_mem_fixed :
    categoryKey category ∉ [labelKey, descriptionKey, categoriesKey] := by
  intro hmem
  have hprefix : (categoryKey category).toList.take 9 = "category:".toList := by
    rw [categoryKey, String.toList_append]
    rfl
  simp only [List.mem_cons, List.not_mem_nil, or_false] at hmem
  rcases hmem with h | h | h
  · rw [h] at hprefix
    exact absurd hprefix (by decide)
  · rw [h] at hprefix
    exact absurd hprefix (by decide)
  · rw [h] at hprefix
    exact absurd hprefix (by decide)

end Lock

/-! ## What is saved -/

namespace SearchQuery

variable (q : SearchQuery)

/-- The attributes of a query, under their keys. -/
def lockAttributes : List (String × String) :=
  [(Lock.labelKey, q.filters.label), (Lock.descriptionKey, q.filters.description),
    (Lock.categoriesKey, (Json.arr (q.texts.keys.map .str)).compact)]

/-- The match texts of a query, under the keys of their categories. -/
def lockTexts : List (String × String) :=
  q.texts.toList.map fun (category, text) => (Lock.categoryKey category, text)

theorem nodup_lockTexts : (q.lockTexts.map (·.1)).Nodup := by
  have hkeys : q.lockTexts.map (·.1) = q.texts.keys.map Lock.categoryKey := by
    rw [lockTexts, List.map_map, ← Std.ExtTreeMap.map_fst_toList_eq_keys, List.map_map]
    rfl
  rw [hkeys]
  exact List.Nodup.map Lock.categoryKey_injective Std.ExtTreeMap.nodup_keys

/-- A match text is found under the key of its category. -/
theorem getElem?_toLock_categoryKey (category : String) :
    q.toLock[Lock.categoryKey category]? = q.texts[category]? := by
  have hattributes : (Std.ExtTreeMap.ofList q.lockAttributes)[Lock.categoryKey category]? =
      none := by
    refine Std.ExtTreeMap.getElem?_ofList_of_contains_eq_false ?_
    rw [Bool.eq_false_iff, ne_eq, List.contains_iff_mem]
    exact Lock.categoryKey_not_mem_fixed
  have htexts : (Std.ExtTreeMap.ofList q.lockTexts)[Lock.categoryKey category]? =
      q.texts[category]? := by
    refine Option.ext fun text => ?_
    rw [getElem?_ofList_iff q.nodup_lockTexts, lockTexts, List.mem_map,
      ← Std.ExtTreeMap.mem_toList_iff_getElem?_eq_some]
    constructor
    · rintro ⟨entry, hentry, heq⟩
      obtain ⟨hkey, rfl⟩ := Prod.mk.inj heq
      rw [← Lock.categoryKey_injective hkey]
      exact hentry
    · exact fun hentry => ⟨_, hentry, rfl⟩
  have hunion : q.toLock = .ofList q.lockAttributes ∪ .ofList q.lockTexts := rfl
  rw [hunion, Std.ExtTreeMap.getElem?_union, htexts, hattributes, Option.or_none]

/-- An attribute is found under its key. -/
theorem getElem?_toLock_of_mem {key value : String} (h : (key, value) ∈ q.lockAttributes) :
    q.toLock[key]? = some value := by
  have hdistinct : (q.lockAttributes.map (·.1)).Nodup := by
    simp [lockAttributes, Lock.labelKey, Lock.descriptionKey, Lock.categoriesKey]
  have htexts : (Std.ExtTreeMap.ofList q.lockTexts)[key]? = none := by
    refine Std.ExtTreeMap.getElem?_ofList_of_contains_eq_false ?_
    rw [Bool.eq_false_iff, ne_eq, List.contains_iff_mem, lockTexts, List.map_map]
    intro hmem
    obtain ⟨entry, -, hkey⟩ := List.mem_map.mp hmem
    have hfixed : key ∈ q.lockAttributes.map (·.1) := List.mem_map_of_mem h
    rw [← hkey] at hfixed
    exact Lock.categoryKey_not_mem_fixed hfixed
  have hunion : q.toLock = .ofList q.lockAttributes ∪ .ofList q.lockTexts := rfl
  rw [hunion, Std.ExtTreeMap.getElem?_union, htexts, Option.none_or,
    (getElem?_ofList_iff hdistinct).mpr h]

/-- The list of categories leads to all match texts. -/
theorem listedTexts_map {saved : TextTable} {entries : List (String × String)}
    (h : ∀ entry ∈ entries, saved[Lock.categoryKey entry.1]? = some entry.2) :
    Lock.listedTexts saved (entries.map (·.1)) = (entries, none) := by
  induction entries with
  | nil => rfl
  | cons entry entries ih =>
      rw [List.forall_mem_cons] at h
      rw [List.map_cons, Lock.listedTexts, h.1, ih h.2]

theorem savedTexts_toLock : Lock.savedTexts q.toLock = (q.texts.toList, none) := by
  have hlist : q.toLock[Lock.categoriesKey]? =
      some (Json.arr (q.texts.keys.map .str)).compact :=
    q.getElem?_toLock_of_mem (by simp [lockAttributes])
  have hentries : ∀ entry ∈ q.texts.toList,
      q.toLock[Lock.categoryKey entry.1]? = some entry.2 := by
    intro entry hentry
    rw [getElem?_toLock_categoryKey]
    exact Std.ExtTreeMap.mem_toList_iff_getElem?_eq_some.mp hentry
  rw [Lock.savedTexts, hlist]
  dsimp only
  rw [Json.Reader.whole_compact]
  dsimp only
  rw [← Std.ExtTreeMap.map_fst_toList_eq_keys]
  exact listedTexts_map hentries

/-! ## What is restored -/

/-- Texts that are set one after the other are all there, without the blank ones. -/
theorem getElem?_foldl_setText {entries : List (String × String)} {texts : TextTable}
    (hdistinct : (entries.map (·.1)).Nodup) (hnew : ∀ entry ∈ entries, texts[entry.1]? = none)
    (category text : String) :
    (entries.foldl (fun texts (name, value) => setText texts name value) texts)[category]? =
        some text ↔
      texts[category]? = some text ∨
        ((category, text) ∈ entries ∧ Text.isBlankText text = false) := by
  induction entries generalizing texts with
  | nil => simp
  | cons entry entries ih =>
      obtain ⟨name, value⟩ := entry
      obtain ⟨hout, hdistinct⟩ := List.nodup_cons.mp hdistinct
      obtain ⟨hfree, hnew⟩ := List.forall_mem_cons.mp hnew
      have hlater : ∀ entry ∈ entries, (setText texts name value)[entry.1]? = none := by
        intro entry hentry
        rw [getElem?_setText, if_neg]
        · exact hnew entry hentry
        · intro hname
          exact hout (List.mem_map.mpr ⟨entry, hentry, hname.symm⟩)
      rw [List.foldl_cons, ih hdistinct hlater, getElem?_setText, List.mem_cons,
        Prod.mk.injEq]
      by_cases hname : name = category
      · have hpair : (category, text) ∉ entries := by
          intro hmem
          exact hout (List.mem_map.mpr ⟨_, hmem, hname.symm⟩)
        rw [if_pos hname, ← hname, hfree, hname]
        constructor
        · rintro (hset | ⟨hmem, -⟩)
          · split at hset
            next => contradiction
            next hblank =>
              cases hset
              exact Or.inr ⟨Or.inl ⟨rfl, rfl⟩, Bool.eq_false_iff.mpr hblank⟩
          · exact absurd hmem hpair
        · rintro (hnone | ⟨⟨-, rfl⟩ | hmem, hblank⟩)
          · contradiction
          · rw [hblank]
            exact Or.inl rfl
          · exact absurd hmem hpair
      · rw [if_neg hname]
        simp [Ne.symm hname]

/-- The texts that a query keeps when it is saved and restored. -/
theorem foldl_setText_toList :
    q.texts.toList.foldl (fun texts (name, value) => setText texts name value) ∅ =
      q.texts.filter fun _ text => !Text.isBlankText text := by
  have hdistinct : (q.texts.toList.map (·.1)).Nodup := by
    rw [Std.ExtTreeMap.map_fst_toList_eq_keys]
    exact Std.ExtTreeMap.nodup_keys
  refine Std.ExtTreeMap.ext_getElem? fun category => Option.ext fun text => ?_
  rw [getElem?_foldl_setText hdistinct (by simp), Std.ExtTreeMap.mem_toList_iff_getElem?_eq_some,
    Std.ExtTreeMap.getElem?_filter, Option.pfilter_eq_some_iff]
  simp

/-- The query that is made of a saved lock. -/
theorem exists_ofLock_toLock (drawn : ℕ) :
    ∃ restored last, ofLock q.toLock drawn = (.ok restored, last) ∧
      restored.texts = q.texts.filter (fun _ text => !Text.isBlankText text) ∧
      restored.filters = { label := q.filters.label, description := q.filters.description } ∧
      restored.compiled = none := by
  have hlabel : q.toLock[Lock.labelKey]? = some q.filters.label :=
    q.getElem?_toLock_of_mem (by simp [lockAttributes])
  have hdescription : q.toLock[Lock.descriptionKey]? = some q.filters.description :=
    q.getElem?_toLock_of_mem (by simp [lockAttributes])
  have hcontents : Lock.contents q.toLock =
      ⟨some q.filters.label, some q.filters.description, q.texts.toList, none⟩ := by
    rw [Lock.contents, q.savedTexts_toLock, hlabel, hdescription]
  have hlock : ∃ last, ofLock q.toLock drawn = (.ok { withRange last .unbounded
      q.filters.label q.filters.description with
        texts := q.texts.toList.foldl
          (fun texts (name, value) => setText texts name value) ∅ }, last) := by
    rw [ofLock, hcontents]
    exact ⟨_, rfl⟩
  obtain ⟨last, hlock⟩ := hlock
  exact ⟨_, last, hlock, foldl_setText_toList q, rfl, rfl⟩

/-! ## What it matches -/

/-- Blank texts ask for nothing. -/
theorem evaluate_filter_texts {q q' : SearchQuery} (hfilters : q'.filters = q.filters)
    (htexts : q'.texts = q.texts.filter fun _ text => !Text.isBlankText text)
    (store : RecordStore) (stamp : ℕ) (r : Record) :
    (q'.compile store stamp).evaluate r = (q.compile store stamp).evaluate r := by
  have hkept : ∀ category text : String, q'.texts[category]? = some text ↔
      q.texts[category]? = some text ∧ Text.isBlankText text = false := by
    intro category text
    rw [htexts, Std.ExtTreeMap.getElem?_filter, Option.pfilter_eq_some_iff]
    simp
  rw [Bool.eq_iff_iff, evaluate_compile_iff, evaluate_compile_iff, hfilters]
  refine and_congr_right fun _ => ⟨fun h category text htext => ?_,
    fun h category text htext => h category text ((hkept category text).mp htext).1⟩
  cases hblank : Text.isBlankText text with
  | true => exact Or.inl (MatchText.parse_of_isBlankText hblank)
  | false => exact h category text ((hkept category text).mpr ⟨htext, hblank⟩)

/-- A query that was not compiled is compiled to be asked about a record. -/
theorem matchBare_fst {q : SearchQuery} (h : q.compiled = none) (store : RecordStore)
    (stamp : ℕ) (r : Record) :
    (q.matchBare r store stamp).1 = (q.compile store stamp).evaluate r := by
  unfold matchBare
  split
  next hnull => exact (CompiledQuery.evaluate_of_isNull (compile_isNull hnull store stamp) r).symm
  next => simp [refresh, current?, h]

/-- A query that is saved as a privacy lock and restored has its label, its description and
its match texts without the blank ones, and matches what the query would without its
other filters. -/
theorem ofLock_toLock (q : SearchQuery) (drawn : ℕ) :
    ∃ restored last, ofLock q.toLock drawn = (.ok restored, last) ∧
      restored.texts = q.texts.filter (fun _ text => !Text.isBlankText text) ∧
      restored.filters = { label := q.filters.label, description := q.filters.description } ∧
      ∀ (store : RecordStore) (stamp : ℕ) (r : Record),
        let kept : SearchQuery := { q with
          filters := { label := q.filters.label, description := q.filters.description }
          compiled := none }
        (restored.compile store stamp).evaluate r = (kept.compile store stamp).evaluate r ∧
          (restored.matchBare r store stamp).1 = (kept.matchBare r store stamp).1 := by
  obtain ⟨restored, last, hlock, htexts, hfilters, hcompiled⟩ := q.exists_ofLock_toLock drawn
  refine ⟨restored, last, hlock, htexts, hfilters, ?_⟩
  intro store stamp r kept
  have hevaluate := @evaluate_filter_texts kept restored hfilters htexts store stamp r
  refine ⟨hevaluate, ?_⟩
  rw [matchBare_fst hcompiled, matchBare_fst rfl]
  exact hevaluate

end SearchQuery

end TagQuery
