import TagQuery.Proofs.Session.Coherence
import TagQuery.Session.Event

/-!
# Revisions never come back

A store has two stamps, one for its records and one for its groups, and the later of the two
is its revision.  Whatever changes one of the parts draws a stamp for it that is later than
all in the session, the other part's included, so the revision is that stamp.  No store had
it before.

What a store had at one moment and has at a later one is compared through the moves between
them: the store was only looked at, and has what it had, or it is at a revision that the
session had not reached at the first moment.
-/

namespace TagQuery

/-! ## Changes of groups -/

/-- The change finds the group or the category that it needs. -/
def HierarchyEdit.TakesEffect (groups : Hierarchy) : HierarchyEdit → Prop
  | .removeMember category group _ => groups.isGroup category group = true
  | .deleteGroup category _ => category ∈ groups.direct
  | .renameGroup category _ _ => category ∈ groups.direct
  | _ => True

namespace Hierarchy

variable {groups : Hierarchy} {change : HierarchyEdit} {stamp : ℕ}

theorem revision_edit (h : change.TakesEffect groups) :
    (groups.edit change stamp).revision = stamp := by
  cases change with
  | removeMember | deleteGroup | renameGroup =>
      simp only [HierarchyEdit.TakesEffect] at h
      rw [edit, if_pos h, replaceGroups]
  | _ => rfl

theorem edit_eq_self (h : ¬change.TakesEffect groups) : groups.edit change stamp = groups := by
  cases change with
  | removeMember | deleteGroup | renameGroup =>
      simp only [HierarchyEdit.TakesEffect] at h
      rw [edit, if_neg h]
  | _ => exact absurd trivial h

theorem revision_le_edit (h : groups.revision < stamp) :
    groups.revision ≤ (groups.edit change stamp).revision := by
  by_cases heffect : change.TakesEffect groups
  · rw [revision_edit heffect]
    exact Nat.le_of_lt h
  · rw [edit_eq_self heffect]

theorem revision_le_editAll (h : groups.revision < stamp) (changes : List HierarchyEdit) :
    groups.revision ≤ (groups.editAll stamp changes).revision := by
  induction changes generalizing groups stamp with
  | nil => exact Nat.le_refl _
  | cons change changes ih =>
      have hlater : (groups.edit change stamp).revision <
          max stamp ((groups.edit change stamp).revision + 1) := by
        omega
      exact Nat.le_trans (revision_le_edit h) (ih hlater)

end Hierarchy

/-- What is in a store and its revision, without what is remembered about its records and
how many generations it has drawn. -/
def RecordStore.state (store : RecordStore) : ℕ × List Record × Hierarchy :=
  (store.revision, store.records, store.hierarchy)

namespace Session

variable {s s' : Session} {i place : ℕ} {old new store : RecordStore} {event : Event}

theorem Visited.state_eq {bound : ℕ} (h : s.Visited bound old new) : new.state = old.state := by
  rw [RecordStore.state, h.revision_eq, RecordStore.records,
    Entry.records_eq_of_rewritten h.entries, h.hierarchy_eq, RecordStore.state,
    RecordStore.records]

/-! ## Held groups -/

theorem regroupHeld_of_effect (hs : s.Dated) (hold : s.stores[place]? = some old)
    {change : HierarchyEdit} (h : change.TakesEffect old.hierarchy) :
    s.after (.regroup place change) =
      { s.setStore place { old with hierarchy := old.hierarchy.edit change s.stamp } with
        stamp := s.stamp + 1 } ∧
    ({ old with hierarchy := old.hierarchy.edit change s.stamp } : RecordStore).revision =
      s.stamp := by
  have hlt := hs.revision_lt old (List.mem_of_getElem? hold)
  simp only [RecordStore.revision] at hlt ⊢
  simp only [after, regroupHeld, hold, Option.bind_eq_bind, Option.bind_some, Option.pure_def,
    Option.getD_some, Hierarchy.revision_edit h]
  exact ⟨by rw [Nat.max_eq_right (Nat.le_succ _)], by omega⟩

theorem regroupHeld_of_no_effect (hs : s.Dated) (hold : s.stores[place]? = some old)
    {change : HierarchyEdit} (h : ¬change.TakesEffect old.hierarchy) :
    s.after (.regroup place change) = s := by
  have hlt := hs.revision_lt old (List.mem_of_getElem? hold)
  simp only [RecordStore.revision] at hlt
  have hstamp : max s.stamp (old.hierarchy.revision + 1) = s.stamp := by omega
  simp only [after, regroupHeld, hold, Option.bind_eq_bind, Option.bind_some, Option.pure_def,
    Option.getD_some, Hierarchy.edit_eq_self h, hstamp, setStore, set_eq_self hold]

theorem after_regroup_of_none (h : s.stores[place]? = none) (change : HierarchyEdit) :
    s.after (.regroup place change) = s := by
  simp [after, regroupHeld, h]

theorem follow_append (s : Session) (events more : List Event) :
    s.follow (events ++ more) = (s.follow events).follow more :=
  List.foldl_append

/-- Several changes of held groups between which nothing happens. -/
theorem follow_regroup (changes : List HierarchyEdit)
    (hold : s.stores[place]? = some old) (hlt : old.hierarchy.revision < s.stamp) :
    s.follow (changes.map (.regroup place)) =
      { s.setStore place { old with hierarchy := old.hierarchy.editAll s.stamp changes } with
        stamp := max s.stamp ((old.hierarchy.editAll s.stamp changes).revision + 1) } := by
  induction changes generalizing s old with
  | nil =>
      have hstamp : max s.stamp (old.hierarchy.revision + 1) = s.stamp := by omega
      simp only [List.map_nil, follow, List.foldl_nil, Hierarchy.editAll, hstamp, setStore,
        set_eq_self hold]
  | cons change changes ih =>
      have hlength := (List.getElem?_eq_some_iff.mp hold).1
      have hfirst : s.after (.regroup place change) =
          { s.setStore place { old with hierarchy := old.hierarchy.edit change s.stamp } with
            stamp := max s.stamp ((old.hierarchy.edit change s.stamp).revision + 1) } := by
        simp [after, regroupHeld, hold]
      rw [List.map_cons, follow, List.foldl_cons, hfirst, Hierarchy.editAll]
      generalize old.hierarchy.edit change s.stamp = edited
      have hedited : edited.revision < max s.stamp (edited.revision + 1) := by omega
      have hlater := Hierarchy.revision_le_editAll hedited changes
      have hrest := @ih { s.setStore place { old with hierarchy := edited } with
          stamp := max s.stamp (edited.revision + 1) } { old with hierarchy := edited }
        (List.getElem?_set_self hlength) hedited
      rw [follow] at hrest
      rw [hrest]
      simp only [setStore, List.set_set]
      congr 1
      omega

/-- An action that changes groups hands them out and changes them, and nothing comes in
between. -/
theorem perform_regroup (hs : s.Dated) (place : ℕ) (changes : List HierarchyEdit) :
    s.perform (.editStore place (.regroup changes)) =
      (s.perform (.editStore place (.regroup []))).follow (changes.map (.regroup place)) := by
  cases hold : s.stores[place]? with
  | none =>
      have hnone : ∀ change, s.editStore place change = none := by
        intro change
        simp [editStore, hold]
      simp only [perform, hnone, Option.getD_none]
      induction changes with
      | nil => rfl
      | cons change changes ih =>
          rw [List.map_cons, follow, List.foldl_cons, after_regroup_of_none hold]
          exact ih
  | some old =>
      have hlt := hs.revision_lt old (List.mem_of_getElem? hold)
      have hlength := (List.getElem?_eq_some_iff.mp hold).1
      simp only [RecordStore.revision] at hlt
      have hnext : ({ old with touched := s.stamp } : RecordStore).nextStamp = s.stamp + 1 := by
        simp only [RecordStore.nextStamp, RecordStore.revision]
        omega
      have hhanded : s.perform (.editStore place (.regroup [])) =
          { s.setStore place { old with touched := s.stamp } with stamp := s.stamp + 1 } := by
        rw [← hnext]
        simp [perform, editStore, hold, RecordStore.edit, Hierarchy.editAll]
      have hrest := @follow_regroup
        { s.setStore place { old with touched := s.stamp } with stamp := s.stamp + 1 } place
        { old with touched := s.stamp } changes (List.getElem?_set_self hlength)
        (by simp only; omega)
      rw [hhanded, hrest]
      simp only [perform, editStore, hold, Option.bind_eq_bind, Option.bind_some,
        Option.pure_def, Option.getD_some, RecordStore.edit, setStore, List.set_set,
        RecordStore.nextStamp, RecordStore.revision]
      congr 1
      omega

/-! ## What events change -/

/-- The event creates the store at a place or changes it. -/
def Changes (s : Session) (i : ℕ) : Event → Prop
  | .action (.openStore _) => i = s.stores.length
  | .action (.editStore place _) => i = place ∧ i < s.stores.length
  | .action (.exchange place record other otherRecord) =>
    (i = place ∨ i = other) ∧ (s.exchange place record other otherRecord).isSome = true
  | .regroup place change =>
    i = place ∧ ∃ store, s.stores[i]? = some store ∧ change.TakesEffect store.hierarchy
  | _ => False

theorem moves_after (hs : s.Dated) (event : Event) : Moves s (s.after event) := by
  cases event with
  | action a => exact moves_perform hs a
  | regroup place change =>
      cases hold : s.stores[place]? with
      | none =>
          rw [after_regroup_of_none hold]
      | some old =>
          by_cases heffect : change.TakesEffect old.hierarchy
          · obtain ⟨hafter, hrevision⟩ := regroupHeld_of_effect hs hold heffect
            have hmove := @Move.renewStore s place old
              { old with hierarchy := old.hierarchy.edit change s.stamp } hold
              (Nat.le_of_eq hrevision.symm) rfl
              (hs.cache_before old (List.mem_of_getElem? hold)) ⟨s.stamp, [change], rfl⟩
            rw [RecordStore.nextStamp, hrevision] at hmove
            rw [hafter]
            exact .single hmove
          · rw [regroupHeld_of_no_effect hs hold heffect]

theorem moves_follow (hs : s.Dated) (events : List Event) : Moves s (s.follow events) := by
  induction events generalizing s with
  | nil => exact .refl
  | cons event events ih =>
      have hfirst := moves_after hs event
      exact .trans hfirst (ih (hs.moves hfirst))

/-- A store that is created or changed is at a revision from the stamp of the session on. -/
theorem Changes.le_revision (hs : s.Dated) (h : s.Changes i event) :
    ∃ new, (s.after event).stores[i]? = some new ∧ s.stamp ≤ new.revision := by
  cases event with
  | regroup place change =>
      obtain ⟨rfl, old, hold, heffect⟩ := h
      obtain ⟨hafter, hrevision⟩ := regroupHeld_of_effect hs hold heffect
      rw [hafter]
      exact ⟨_, List.getElem?_set_self (List.getElem?_eq_some_iff.mp hold).1,
        Nat.le_of_eq hrevision.symm⟩
  | action a =>
      cases a with
      | openStore fixture =>
          obtain rfl : i = s.stores.length := h
          exact ⟨_, List.getElem?_concat_length, (renewed_openStore s fixture).le_revision⟩
      | editStore place change =>
          obtain ⟨rfl, hlt⟩ := h
          refine ⟨_, ?_, RecordStore.le_revision_edit s.stores[i] change s.stamp⟩
          simp [after, perform, editStore, setStore, hlt]
      | exchange place record other otherRecord =>
          obtain ⟨hplace, hdone⟩ := h
          obtain ⟨s', hs'⟩ := Option.isSome_iff_exists.mp hdone
          have hafter : s.after (.action (.exchange place record other otherRecord)) = s' := by
            simp [after, perform, hs']
          obtain ⟨old, old', e, e', hold, hold', -, -, hne, rfl⟩ := exchange_eq_some hs'
          have hlength := (List.getElem?_eq_some_iff.mp hold).1
          have hlength' := (List.getElem?_eq_some_iff.mp hold').1
          rw [hafter]
          rcases hplace with rfl | rfl
          · refine ⟨_, (List.getElem?_set_ne hne.symm).trans (List.getElem?_set_self hlength), ?_⟩
            exact Nat.le_max_left _ _
          · refine ⟨_, List.getElem?_set_self (by simpa [setStore] using hlength'), ?_⟩
            exact Nat.le_trans (Nat.le_succ _) (Nat.le_max_left _ _)
      | _ => contradiction

theorem QuietMoves.state_eq (hs : s.Dated) (h : QuietMoves s s') (i : ℕ) :
    s'.stores[i]?.map (·.state) = s.stores[i]?.map (·.state) := by
  have hrevisions := h.sameRevisions
  cases hnew : s'.stores[i]? with
  | none =>
      have hlengths := congrArg List.length hrevisions
      simp only [List.length_map] at hlengths
      have hnone : s.stores[i]? = none := by
        rw [List.getElem?_eq_none_iff] at hnew ⊢
        omega
      rw [hnone]
  | some new =>
      rcases h.moves.store_at hnew with ⟨old, hold, hvisited⟩ | hrevision
      · rw [hold, Option.map_some, Option.map_some, hvisited.state_eq]
      · have hmem := List.mem_map_of_mem (f := (·.revision)) (List.mem_of_getElem? hnew)
        rw [hrevisions] at hmem
        exact absurd hmem (not_mem_revisions hs hrevision)

/-- A store that is not changed has what it had, and is at the revision that it was at. -/
theorem state_of_not_changes (hs : s.Dated) (h : ¬s.Changes i event) :
    (s.after event).stores[i]?.map (·.state) = s.stores[i]?.map (·.state) := by
  cases event with
  | regroup place change =>
      cases hold : s.stores[place]? with
      | none => rw [after_regroup_of_none hold]
      | some old =>
          by_cases heffect : change.TakesEffect old.hierarchy
          · have hne : place ≠ i := by
              rintro rfl
              exact h ⟨rfl, old, hold, heffect⟩
            rw [(regroupHeld_of_effect hs hold heffect).1]
            exact congrArg _ (List.getElem?_set_ne hne)
          · rw [regroupHeld_of_no_effect hs hold heffect]
  | action a =>
      cases a with
      | openStore fixture =>
          have hne : i ≠ s.stores.length := h
          change (s.stores ++ [fixture.store s.stamp])[i]?.map _ = _
          rcases Nat.lt_or_gt_of_ne hne with hlt | hgt
          · rw [List.getElem?_append_left hlt]
          · have hnone : (s.stores ++ [fixture.store s.stamp])[i]? = none := by
              rw [List.getElem?_eq_none_iff, List.length_append, List.length_singleton]
              omega
            rw [hnone, List.getElem?_eq_none (Nat.le_of_lt hgt)]
      | editStore place change =>
          refine getD_cases (P := fun s' => s'.stores[i]?.map _ = _) rfl fun s' hs' => ?_
          obtain ⟨old, hold, rfl⟩ := editStore_eq_some hs'
          have hne : place ≠ i := by
            rintro rfl
            exact h ⟨rfl, (List.getElem?_eq_some_iff.mp hold).1⟩
          exact congrArg _ (List.getElem?_set_ne hne)
      | exchange place record other otherRecord =>
          refine getD_cases (P := fun s' => s'.stores[i]?.map _ = _) rfl fun s' hs' => ?_
          have hplaces : ¬(i = place ∨ i = other) := fun hplace => h ⟨hplace, by simp [hs']⟩
          rw [not_or] at hplaces
          obtain ⟨old, old', e, e', -, -, -, -, -, rfl⟩ := exchange_eq_some hs'
          exact congrArg _ ((List.getElem?_set_ne (Ne.symm hplaces.2)).trans
            (List.getElem?_set_ne (Ne.symm hplaces.1)))
      | _ => exact QuietMoves.state_eq hs (quiet_perform hs id) i

/-! ## Moments of a run -/

variable {events : List Event} {m n j : ℕ}

theorem moment_succ (h : events[n]? = some event) :
    moment events (n + 1) = (moment events n).after event := by
  rw [moment, List.take_add_one, h, follow_append]
  rfl

theorem dated_moment (events : List Event) (n : ℕ) : (moment events n).Dated :=
  dated_start.moves (moves_follow dated_start _)

theorem distinct_moment (events : List Event) (n : ℕ) : (moment events n).Distinct :=
  (coherent_start.moves dated_start (moves_follow dated_start _)).distinct

theorem moves_moment (events : List Event) (h : m ≤ n) :
    Moves (moment events m) (moment events n) := by
  obtain ⟨k, rfl⟩ := Nat.exists_eq_add_of_le h
  rw [moment, moment, List.take_add, follow_append]
  exact moves_follow (dated_moment events m) _

/-- A store at an earlier moment and one at a later moment, at the same revision, are one
store, and in the meantime it was not changed. -/
theorem same_of_revision_eq (h : m ≤ n) (hold : (moment events m).stores[i]? = some old)
    (hnew : (moment events n).stores[j]? = some new) (hrevision : new.revision = old.revision) :
    i = j ∧ new.state = old.state := by
  have hlt := (dated_moment events m).revision_lt old (List.mem_of_getElem? hold)
  rcases (moves_moment events h).store_at hnew with ⟨between, hbetween, hvisited⟩ | hle
  · have hplace : i = j := by
      have hdistinct := (distinct_moment events m).revisions
      refine (List.getElem?_inj ?_ hdistinct).mp ?_
      · rw [List.length_map]
        exact (List.getElem?_eq_some_iff.mp hold).1
      · rw [List.getElem?_map, List.getElem?_map, hold, hbetween, Option.map_some,
          Option.map_some, ← hrevision, hvisited.revision_eq]
    rw [← hplace, hold] at hbetween
    cases hbetween
    exact ⟨hplace, hvisited.state_eq⟩
  · omega

/-- A store that is created or changed gets a revision later than all that any store had up
to then.  One that is not has what it had and keeps its revision.  At whatever moments two
stores are at one revision, they are one store in one state. -/
theorem revisions_never_repeat (events : List Event) :
    (∀ n event, events[n]? = some event → ∀ i,
        ((moment events n).Changes i event →
          ∃ new, (moment events (n + 1)).stores[i]? = some new ∧
            ∀ m ≤ n, ∀ old ∈ (moment events m).stores, old.revision < new.revision) ∧
        (¬(moment events n).Changes i event →
          (moment events (n + 1)).stores[i]?.map (·.state) =
            (moment events n).stores[i]?.map (·.state))) ∧
      ∀ (m n i j : ℕ) (old new : RecordStore), (moment events m).stores[i]? = some old →
        (moment events n).stores[j]? = some new → old.revision = new.revision →
        i = j ∧ old.state = new.state := by
  constructor
  · intro n event hevent i
    have hdated := dated_moment events n
    rw [moment_succ hevent]
    refine ⟨fun hchanges => ?_, state_of_not_changes hdated⟩
    obtain ⟨new, hnew, hle⟩ := hchanges.le_revision hdated
    refine ⟨new, hnew, fun m hm old hold => ?_⟩
    calc old.revision < (moment events m).stamp := (dated_moment events m).revision_lt old hold
      _ ≤ (moment events n).stamp := (moves_moment events hm).stamp_le
      _ ≤ new.revision := hle
  · intro m n i j old new hold hnew hrevision
    rcases Nat.le_total m n with hle | hle
    · obtain ⟨hplace, hstate⟩ := same_of_revision_eq hle hold hnew hrevision.symm
      exact ⟨hplace, hstate.symm⟩
    · obtain ⟨hplace, hstate⟩ := same_of_revision_eq hle hnew hold hrevision
      exact ⟨hplace.symm, hstate⟩

/-- One store hands out its groups, another takes in a record, and only then a group is added
to the first. -/
theorem revisions_never_repeat_of_held_groups :
    let event := Event.regroup 0 (.addGroup "Places" "USA")
    let events := [Event.action (.openStore ⟨[], ∅⟩), .action (.openStore ⟨[], ∅⟩),
      .action (.editStore 0 (.regroup [])),
      .action (.editStore 1 (.insert { fileName := "a.jpg" })), event, .action (.newQuery 0)]
    (moment events 4).Changes 0 event ∧ ¬(moment events 4).Changes 1 event ∧
      (∃ new, (moment events 5).stores[0]? = some new ∧ new.revision = 7 ∧
        ∀ m ≤ 4, ∀ old ∈ (moment events m).stores, old.revision < new.revision) ∧
      (moment events 5).stores[1]?.map (·.state) = (moment events 4).stores[1]?.map (·.state) ∧
      ∃ old new, (moment events 5).stores[0]? = some old ∧
        (moment events 6).stores[0]? = some new ∧ old.revision = new.revision ∧
        old.state = new.state := by
  intro event events
  have hchanges : (moment events 4).Changes 0 event := ⟨rfl, _, rfl, trivial⟩
  have hkept : ¬(moment events 4).Changes 1 event := fun h => Nat.one_ne_zero h.1
  have hrevision : (moment events 5).stores[0]?.map (·.revision) = some 7 := by decide +kernel
  have hread : (moment events 6).stores[0]?.map (·.revision) = some 7 := by decide +kernel
  obtain ⟨hstep, hsame⟩ := revisions_never_repeat events
  obtain ⟨new, hnew, hlater⟩ := (hstep 4 event rfl 0).1 hchanges
  obtain ⟨after, hafter, hseven⟩ := Option.map_eq_some_iff.mp hread
  have hnewest : new.revision = 7 := by simpa [hnew] using hrevision
  have hequal : new.revision = after.revision := hnewest.trans hseven.symm
  exact ⟨hchanges, hkept, ⟨new, hnew, hnewest, hlater⟩, (hstep 4 event rfl 1).2 hkept, new, after,
    hnew, hafter, hequal, (hsame 5 6 0 0 new after hnew hafter hequal).2⟩

end Session

end TagQuery
