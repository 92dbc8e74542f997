import TagQuery.Proofs.Matcher.Wildcard
import TagQuery.Proofs.Renames

/-!
# Queries and stores that are renamed alike

A category that moves to an unused name takes its tags, its groups and its match text
along.  Each category then is found under the name that it has become, with all that was
found there before, so that a query which is renamed as well accepts the same records.
-/

namespace TagQuery

variable {old new name category value : String}

/-! ## Records and groups -/

/-- A category stands for nothing in a store. -/
structure RecordStore.Unused (store : RecordStore) (category : String) : Prop where
  tags : ∀ r ∈ store.records, ∀ value, value ∉ r.tagsOf category
  groups : store.hierarchy.groups category = ∅

/-- The second store is what the first has become when a category was moved. -/
structure RecordStore.Moved (store store' : RecordStore) (old new : String) : Prop where
  records : store'.records = store.records.map (·.renameCategory old new)
  closure : store'.hierarchy.closure = moveKey store.hierarchy.closure old new

variable {store store' : RecordStore} {r : Record}

theorem RecordStore.moved_edit (store : RecordStore) (old new : String) (stamp : ℕ) :
    store.Moved (store.edit (.renameCategory old new) stamp) old new where
  records := by
    simp only [records, edit, editEach, List.map_map]
    rfl
  closure := rfl

namespace RecordStore.Moved

variable (h : store.Moved store' old new) (hunused : store.Unused new)

include h

theorem mem_records (hr : r ∈ store.records) : r.renameCategory old new ∈ store'.records := by
  rw [h.records]
  exact List.mem_map_of_mem hr

include hunused

theorem groupMap_eq (hsound : store.hierarchy.Sound) (hname : category = new → old = new) :
    store'.hierarchy.groupMap (renamed old new category) =
      store.hierarchy.groupMap category := by
  have hempty : store.hierarchy.groupMap new = ∅ := by
    rw [hsound.groupMap_eq, hunused.groups]
    exact Std.ExtTreeMap.ext_getElem? fun k => by simp [TagTable.closure]
  rw [Hierarchy.groupMap, Std.ExtTreeMap.getD_eq_getD_getElem?] at hempty ⊢
  rw [Hierarchy.groupMap, Std.ExtTreeMap.getD_eq_getD_getElem?, h.closure]
  exact apply_getElem?_moveKey (·.getD ∅) (Or.inr hempty) hname

theorem membersOf_eq (hsound : store.hierarchy.Sound) (hname : category = new → old = new)
    (group : String) :
    store'.hierarchy.membersOf (renamed old new category) group =
      store.hierarchy.membersOf category group := by
  rw [Hierarchy.membersOf, h.groupMap_eq hunused hsound hname, Hierarchy.membersOf]

end RecordStore.Moved

/-- A record of the store has the same tags in what a category has become. -/
theorem RecordStore.Unused.tagsOf_renameCategory (h : store.Unused new)
    (hname : category = new → old = new) (hr : r ∈ store.records) :
    (r.renameCategory old new).tagsOf (renamed old new category) = r.tagsOf category := by
  refine Std.ExtTreeSet.ext_mem fun value => ?_
  rw [Record.mem_tagsOf_renameCategory]
  constructor
  · rintro ⟨before, hsame, hvalue⟩
    have hbefore : before = new → old = new := by
      rintro rfl
      exact absurd hvalue (h.tags r hr value)
    rw [← renamed_inj hsame hbefore hname]
    exact hvalue
  · exact fun hvalue => ⟨category, rfl, hvalue⟩

/-- A rename changes nothing of a record but its tags. -/
theorem Record.renameCategory_eq (r : Record) (old new : String) :
    ∃ tags, r.renameCategory old new = { r with tags } := by
  unfold renameCategory
  split
  · exact ⟨_, rfl⟩
  · exact ⟨r.tags, rfl⟩

/-! ## Answers -/

/-- A match text asks the same of two records with the same tags, where groups hold the
same. -/
theorem MatchText.accepts_congr {groups groups' : Hierarchy} {category' : String}
    {r' : Record} (htags : r'.tagsOf category' = r.tagsOf category)
    (hmembers : ∀ value, groups'.membersOf category' value = groups.membersOf category value)
    (text : String) : Accepts groups' category' text r' ↔ Accepts groups category text r := by
  simp only [Accepts, BranchAccepts, Exactly, Term.Holds, Record.Holds, htags, hmembers]

/-- The filters look at no category by its name. -/
theorem Filters.accept_renameCategory (f : Filters) (h : store.Moved store' old new)
    (hr : r ∈ store.records) :
    f.accept store' (r.renameCategory old new) = f.accept store r := by
  have hwildcard : (f.freeform.map (Wildcard.ofPattern · store')).any
        (·.accepts (r.renameCategory old new)) =
      (f.freeform.map (Wildcard.ofPattern · store)).any (·.accepts r) := by
    cases f.freeform with
    | none => simp only [Option.map_none, Option.any_none]
    | some pattern =>
        rw [Option.map_some, Option.any_some, Option.map_some, Option.any_some, Bool.eq_iff_iff,
          Wildcard.accepts_ofPattern_iff (h.mem_records hr), Wildcard.accepts_ofPattern_iff hr]
        simp only [Record.mem_tagsOf_renameCategory]
        constructor
        · rintro ⟨category, value, ⟨before, -, hvalue⟩, hmatch⟩
          exact ⟨before, value, hvalue, hmatch⟩
        · rintro ⟨category, value, hvalue, hmatch⟩
          exact ⟨_, value, ⟨category, rfl, hvalue⟩, hmatch⟩
  obtain ⟨tags, htags⟩ := r.renameCategory_eq old new
  rw [accept, hwildcard, htags]
  rfl

/-- The second query is what the first has become when a category was moved to one that it
asks nothing of. -/
structure SearchQuery.Moved (q q' : SearchQuery) (old new : String) : Prop where
  filters : q'.filters = q.filters
  texts : q'.texts = moveKey q.texts old new
  unused : new ∈ q.texts → old = new

/-- A query and a store that are renamed alike answer as before. -/
theorem SearchQuery.Moved.evaluate_eq {q q' : SearchQuery} (hq : q.Moved q' old new)
    (h : store.Moved store' old new) (hunused : store.Unused new)
    (hsound : store.hierarchy.Sound) (hr : r ∈ store.records) (stamp stamp' : ℕ) :
    (q'.compile store' stamp').evaluate (r.renameCategory old new) =
      (q.compile store stamp).evaluate r := by
  have haccepts : ∀ category text : String, (category = new → old = new) →
      (MatchText.Accepts store'.hierarchy (renamed old new category) text
          (r.renameCategory old new) ↔
        MatchText.Accepts store.hierarchy category text r) := fun category text hname =>
    MatchText.accepts_congr (hunused.tagsOf_renameCategory hname hr)
      (h.membersOf_eq hunused hsound hname) text
  have hasked : ∀ category text : String, q.texts[category]? = some text →
      category = new → old = new := by
    intro category text htext hname
    refine hq.unused ?_
    exact mem_table_iff.mpr ⟨text, hname ▸ htext⟩
  rw [Bool.eq_iff_iff, evaluate_compile_iff, evaluate_compile_iff, hq.filters, hq.texts,
    q.filters.accept_renameCategory h hr]
  refine and_congr_right fun _ => ⟨fun hafter category text htext => ?_,
    fun hbefore category text hmoved => ?_⟩
  · have hname := hasked category text htext
    rw [← haccepts category text hname]
    exact hafter _ text (getElem?_moveKey_renamed htext fun h _ => hname h)
  · obtain ⟨before, rfl, htext⟩ := exists_of_getElem?_moveKey hmoved
    rw [haccepts before text (hasked before text htext)]
    exact hbefore before text htext

end TagQuery
