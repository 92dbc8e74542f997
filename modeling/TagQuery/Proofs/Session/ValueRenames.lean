import TagQuery.Proofs.Hierarchy.ValueRenames
import TagQuery.Proofs.Session.Actions

/-!
# Renaming a value everywhere

A value is renamed in a store to a name that its category does not use.  The tags of every
record and all that groups hold are then those from before with the value renamed, and a
record satisfies what is asked by the new name if it satisfied what was asked by the old
one: by carrying the value, or something that its groups lead to.
-/

namespace TagQuery

variable {store : RecordStore} {r : Record} {category other old new value : String}

/-! ## Records -/

/-- The second record has the tags of the first with one value of a category renamed, and
is otherwise the same. -/
structure Record.ValueMoved (r r' : Record) (category old new : String) : Prop where
  tags : ∀ value, value ∈ r'.tagsOf category ↔
    ∃ before ∈ r.tagsOf category, renamed old new before = value
  tags_other : ∀ other : String, other ≠ category → r'.tags[other]? = r.tags[other]?
  fields : r' = { r with tags := r'.tags }

theorem Record.valueMoved_renameTag (r : Record) (category old new : String) :
    r.ValueMoved (r.renameTag category old new) category old new where
  tags := fun value => mem_tagsOf_renameTag
  tags_other := by
    intro other hother
    unfold renameTag
    split
    next =>
      simp [addTag, removeTag, Std.ExtTreeMap.getElem?_insert, Std.ExtTreeMap.getElem?_modify,
        Std.LawfulEqCmp.compare_eq_iff_eq, Ne.symm hother]
    next => rfl
  fields := by
    unfold renameTag
    split
    · rfl
    · rfl

/-! ## Stores -/

namespace RecordStore

/-- Nothing in a category of a store has the name: no record, no group, and no member of
one. -/
structure Unnamed (store : RecordStore) (category name : String) : Prop where
  tags : ∀ r ∈ store.records, name ∉ r.tagsOf category
  hierarchy : store.hierarchy.Unnamed category name

instance (store : RecordStore) (category name : String) :
    Decidable (store.Unnamed category name) :=
  decidable_of_iff ((∀ r ∈ store.records, name ∉ r.tagsOf category) ∧
      store.hierarchy.Unnamed category name)
    ⟨fun h => ⟨h.1, h.2⟩, fun h => ⟨h.tags, h.hierarchy⟩⟩

/-- The second store is the first with one value of a category renamed. -/
structure ValueMoved (store store' : RecordStore) (category old new : String) : Prop where
  records : List.Forall₂ (·.ValueMoved · category old new) store.records store'.records
  hierarchy : store.hierarchy.ValueMoved store'.hierarchy category old new
  /-- What a value stands for is found by what the value has become. -/
  holds : List.Forall₂ (fun r r' => ∀ value, value ≠ new →
    (r'.Holds store'.hierarchy category (renamed old new value) ↔
      r.Holds store.hierarchy category value)) store.records store'.records

theorem records_renameItem (store : RecordStore) (category old new : String) (stamp : ℕ) :
    (store.edit (.renameItem category old new) stamp).records =
      store.records.map (·.renameTag category old new) := by
  simp only [records, edit, editEach, List.map_map]
  rfl

/-- Where no two names become one, a record holds by the new names what it held. -/
theorem Unnamed.holds_iff {hierarchy' : Hierarchy} {r' : Record}
    (hunnamed : store.Unnamed category new) (hsound : store.hierarchy.Sound)
    (hr : r ∈ store.records) (hrecord : r.ValueMoved r' category old new)
    (hmoved : store.hierarchy.ValueMoved hierarchy' category old new) (hvalue : value ≠ new) :
    r'.Holds hierarchy' category (renamed old new value) ↔
      r.Holds store.hierarchy category value := by
  have hname : ∀ tag ∈ r.tagsOf category, tag ≠ new := by
    rintro tag htag rfl
    exact hunnamed.tags r hr htag
  have htag : ∀ name, name ≠ new →
      (renamed old new name ∈ r'.tagsOf category ↔ name ∈ r.tagsOf category) := by
    intro name hne
    rw [hrecord.tags]
    constructor
    · rintro ⟨tag, htag, hsame⟩
      rw [← renamed_inj hsame (absurd · (hname tag htag)) (absurd · hne)]
      exact htag
    · exact fun htag => ⟨name, htag, rfl⟩
  rw [Record.Holds, Record.Holds, htag value hvalue]
  refine or_congr_right ⟨?_, ?_⟩
  · rintro ⟨member, hmember, hheld⟩
    obtain ⟨before, hbefore, rfl⟩ := (hmoved.members value hvalue member).mp hmember
    have hne := hunnamed.hierarchy.ne_of_transGen
      ((hsound.mem_membersOf_iff category value before).mp hbefore)
    exact ⟨before, hbefore, (htag before hne).mp hheld⟩
  · rintro ⟨before, hbefore, hheld⟩
    exact ⟨renamed old new before, (hmoved.members value hvalue _).mpr ⟨before, hbefore, rfl⟩,
      (htag before (hname before hheld)).mpr hheld⟩

theorem Unnamed.valueMoved_edit (hunnamed : store.Unnamed category new)
    (hsound : store.hierarchy.Sound) (old : String) (stamp : ℕ) :
    store.ValueMoved (store.edit (.renameItem category old new) stamp) category old new := by
  have hmoved : store.hierarchy.ValueMoved
      (store.edit (.renameItem category old new) stamp).hierarchy category old new :=
    hunnamed.hierarchy.valueMoved_edit hsound old (stamp + 1)
  refine ⟨?_, hmoved, ?_⟩
  · rw [records_renameItem, List.forall₂_map_right_iff, List.forall₂_same]
    exact fun r _ => r.valueMoved_renameTag category old new
  · rw [records_renameItem, List.forall₂_map_right_iff, List.forall₂_same]
    exact fun r hr value hvalue => hunnamed.holds_iff hsound hr
      (r.valueMoved_renameTag category old new) hmoved hvalue

end RecordStore

/-! ## Sessions -/

namespace Session

/-- In any session, a value that is renamed to a name unused in its category is renamed
everywhere in the category and nowhere else, and each value stands for the same records. -/
theorem valueMoved_of_renameItem (actions : List Action) {store : RecordStore}
    (hstore : store ∈ (start.run actions).stores) (category old new : String)
    (hunnamed : store.Unnamed category new) (stamp : ℕ) :
    store.ValueMoved (store.edit (.renameItem category old new) stamp) category old new :=
  hunnamed.valueMoved_edit (grouped_run actions store hstore) old stamp

/-- The value is a tag, a group, a member of itself, and part of a cycle of groups. -/
theorem valueMoved_of_renameItem_in_cycle :
    let fixture : Fixture :=
      { records := [.addTag { fileName := "a.jpg" } "People" "Family",
          .addTag { fileName := "b.jpg" } "People" "Jim"]
        groups := (∅ : GroupTables).insert "People"
          (((∅ : TagTable).insert "Family" {"Family", "Clan", "Jim"}).insert "Clan"
            {"Family"}) }
    let session := start.run [.openStore fixture]
    let store := fixture.store 1
    let after := store.edit (.renameItem "People" "Family" "Kin") 9
    store ∈ session.stores ∧ store.Unnamed "People" "Kin" ∧
      store.ValueMoved after "People" "Family" "Kin" ∧
      (after.hierarchy.membersOf "People" "Clan").toList = ["Clan", "Jim", "Kin"] ∧
      after.hierarchy.membersOf "People" "Family" = ∅ := by
  intro fixture session store after
  have hstore : store ∈ session.stores := List.mem_singleton_self _
  have hunnamed : store.Unnamed "People" "Kin" := by decide +kernel
  exact ⟨hstore, hunnamed,
    valueMoved_of_renameItem [.openStore fixture] hstore "People" "Family" "Kin" hunnamed 9,
    by decide +kernel, by decide +kernel⟩

end Session

end TagQuery
