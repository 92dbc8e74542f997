import TagQuery.Proofs.Lists
import TagQuery.Proofs.MatchCache
import TagQuery.Store

/-!
# What changes of a store keep

A change of the records leaves every cache alone or empties it, and every change
moves the store to a revision from the given stamp on.
-/

namespace TagQuery

/-! ## Records handed out -/

namespace Entry

/-- A condition on entries that changes of their records keep. -/
def Stable (P : Entry → Prop) : Prop :=
  ∀ e change, P e → P (e.edit change)

/-- A condition on entries that certain changes of their records keep. -/
def StableUnder (allowed : RecordEdit → Prop) (P : Entry → Prop) : Prop :=
  ∀ e change, allowed change → P e → P (e.edit change)

theorem Stable.under {P : Entry → Prop} (hP : Stable P) (allowed : RecordEdit → Prop) :
    StableUnder allowed P :=
  fun e change _ => hP e change

/-- A condition on caches that the empty one meets. -/
theorem stable_cache {R : MatchCache → Prop} (hempty : R .empty) :
    Stable fun e => R e.cache := by
  intro e change h
  unfold edit
  dsimp only
  split
  · exact hempty
  · exact h

theorem stable_before (bound : ℕ) : Stable fun e => e.cache.Before bound :=
  stable_cache (R := (·.Before bound)) (MatchCache.before_empty bound)

end Entry

variable {P : Entry → Prop} {entries : List Entry} {allowed : RecordEdit → Prop}

/-- All that is done to a record is of certain kinds. -/
def EntryEdit.Only (allowed : RecordEdit → Prop) : EntryEdit → Prop
  | .edit _ change => allowed change
  | .swap _ _ => True

theorem EntryEdit.forall_mem_apply (hP : Entry.StableUnder allowed P) {change : EntryEdit}
    (hchange : change.Only allowed) (h : ∀ e ∈ entries, P e) :
    ∀ e ∈ change.apply entries, P e := by
  intro e he
  cases change with
  | edit place change =>
      obtain ⟨i, hi, hget⟩ := List.getElem_of_mem he
      simp only [apply, List.getElem_modify, List.length_modify] at hget hi
      have hmem := h _ (List.getElem_mem (l := entries) hi)
      split at hget
      · rw [← hget]
        exact hP _ change hchange hmem
      · rw [← hget]
        exact hmem
  | swap place other =>
      simp only [apply] at he
      split at he
      next first second hfirst hsecond =>
        have hset : ∀ e ∈ entries.set place second, P e :=
          forall_mem_set h (h second (List.mem_of_getElem? hsecond))
        exact forall_mem_set hset (h first (List.mem_of_getElem? hfirst)) e he
      next => exact h e he

theorem EntryEdit.forall_mem_foldl (hP : Entry.StableUnder allowed P) {edits : List EntryEdit}
    (hedits : ∀ edit ∈ edits, edit.Only allowed) (h : ∀ e ∈ entries, P e) :
    ∀ e ∈ edits.foldl (fun entries edit => edit.apply entries) entries, P e := by
  induction edits generalizing entries with
  | nil => exact h
  | cons change edits ih =>
      rw [List.forall_mem_cons] at hedits
      exact ih hedits.2 (EntryEdit.forall_mem_apply hP hedits.1 h)

/-! ## Stores -/

namespace StoreEdit

/-- All that is done to records is of certain kinds. -/
def Only (allowed : RecordEdit → Prop) : StoreEdit → Prop
  | .insert _ => True
  | .access edits => ∀ edit ∈ edits, edit.Only allowed
  | .regroup _ => True
  | .renameCategory old new => allowed (.renameCategory old new)
  | .renameItem category old new => allowed (.renameTag category old new)

theorem only_true (change : StoreEdit) : change.Only fun _ => True := by
  cases change with
  | access edits =>
      intro edit _
      cases edit <;> exact trivial
  | _ => exact trivial

end StoreEdit

namespace RecordStore

variable (store : RecordStore) (change : StoreEdit) (stamp : ℕ)

theorem edit_generations : (store.edit change stamp).generations = store.generations := by
  cases change <;> rfl

theorem le_revision_edit : stamp ≤ (store.edit change stamp).revision := by
  have htouched : (store.edit change stamp).touched = stamp := by
    cases change <;> rfl
  rw [revision, htouched]
  exact Nat.le_max_left _ _

/-- A change of a store changes its groups by some edits, or not at all. -/
theorem edit_hierarchy :
    ∃ first changes, (store.edit change stamp).hierarchy =
      store.hierarchy.editAll first changes := by
  cases change with
  | insert record => exact ⟨stamp, [], rfl⟩
  | access edits => exact ⟨stamp, [], rfl⟩
  | regroup changes => exact ⟨stamp + 1, changes, rfl⟩
  | renameCategory old new => exact ⟨stamp + 1, [.renameCategory old new], rfl⟩
  | renameItem category old new =>
      exact ⟨stamp + 1, [.renameItem category old new], rfl⟩

variable {store change stamp}

theorem forall_mem_editEach (hP : Entry.StableUnder allowed P) {change : RecordEdit}
    (hchange : allowed change) (h : ∀ e ∈ store.entries, P e) :
    ∀ e ∈ (store.editEach change).entries, P e := by
  intro e he
  obtain ⟨e', he', rfl⟩ := List.mem_map.mp he
  exact hP e' change hchange (h e' he')

theorem forall_mem_edit (hP : Entry.StableUnder allowed P) (hfresh : ∀ r, P (.fresh r))
    (hchange : change.Only allowed) (h : ∀ e ∈ store.entries, P e) :
    ∀ e ∈ (store.edit change stamp).entries, P e := by
  cases change with
  | insert record =>
      intro e he
      rcases List.mem_append.mp he with he | he
      · exact h e he
      · rw [List.mem_singleton.mp he]
        exact hfresh record
  | access edits => exact EntryEdit.forall_mem_foldl hP hchange h
  | regroup changes => exact h
  | renameCategory old new =>
      exact @forall_mem_editEach P allowed { store with touched := stamp } hP _ hchange h
  | renameItem category old new =>
      exact @forall_mem_editEach P allowed { store with touched := stamp } hP _ hchange h

theorem before_edit {bound : ℕ} (h : ∀ e ∈ store.entries, e.cache.Before bound) :
    ∀ e ∈ (store.edit change stamp).entries, e.cache.Before bound :=
  forall_mem_edit ((Entry.stable_before bound).under fun _ => True)
    (fun _ => MatchCache.before_empty bound) change.only_true h

end RecordStore

end TagQuery
