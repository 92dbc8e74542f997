import TagQuery.Proofs.Classification.Caches

/-!
# Records that count

What a classification does to its tally depends on the records alone: the caches only
save it work.  Records that do not count are passed over, and the tally in the end is
that of the others, taken up one after the other with `countRecord`.
-/

namespace TagQuery

namespace Classifier.Setup

/-- The record counts. -/
def accepts (s : Setup) (r : Record) : Bool :=
  s.job.admits r && s.base.evaluate r

/-- The records at some places of a list. -/
def recordsAt (all : List Record) (places : Places) : List Record :=
  places.filterMap (all[·]?)

/-- The tally after a record that counts. -/
def countRecord (s : Setup) (t : Tally) (r : Record) : Tally :=
  if s.noOther.evaluate r then (s.countValues t r).bump r.date noneMarker
  else s.countValues t r

variable {s : Setup} {t : Tally} {e : Entry} {entries : List Entry}

/-- Looking at a record counts it if it is one that counts. -/
theorem Fits.visit_fst (he : s.Fits e) (hs : s.Apart) :
    (s.visit t e).1 = if s.accepts e.record then s.countRecord t e.record else t := by
  have hbase := CompiledQuery.matchEntry_fst he.1
  have hafter := he.matchBase hs
  have hrecord := (s.base.leaves_matchEntry e).record_eq
  unfold visit
  by_cases hadmits : s.job.admits e.record = true
  · have haccepts : s.accepts e.record = (s.base.matchEntry e).1 := by
      rw [accepts, hadmits, Bool.true_and, hbase]
    rw [if_neg (by simp [hadmits])]
    split
    next after hmatch =>
      rw [hmatch] at haccepts
      rw [haccepts, if_neg Bool.false_ne_true]
    next after hmatch =>
      rw [hmatch] at haccepts hafter hrecord
      dsimp only at haccepts hafter hrecord
      have halone := CompiledQuery.matchEntry_fst hafter.2
      have hlast := (s.noOther.leaves_matchEntry after).record_eq
      rw [haccepts, if_pos rfl]
      dsimp only
      rw [halone, hlast, hrecord, countRecord]
  · rw [if_pos (by simp [hadmits]), accepts, Bool.eq_false_iff.mpr hadmits, Bool.false_and,
      if_neg Bool.false_ne_true]

theorem Fits.visit_snd (he : s.Fits e) (hs : s.Apart) : s.Fits (s.visit t e).2 := by
  have hafter := he.matchBase hs
  unfold visit
  split
  · exact he
  · split
    next after hmatch =>
      rw [hmatch] at hafter
      exact hafter
    next after hmatch =>
      rw [hmatch] at hafter
      exact hafter.matchNoOther hs

/-- Looking at the record at a place leaves a list that fits, with the same records. -/
theorem fits_set {place : ℕ} (hentries : ∀ e ∈ entries, s.Fits e) (hs : s.Apart)
    (he : entries[place]? = some e) :
    (∀ e' ∈ entries.set place (s.visit t e).2, s.Fits e') ∧
      (entries.set place (s.visit t e).2).map (·.record) = entries.map (·.record) := by
  constructor
  · exact forall_mem_set hentries ((hentries e (List.mem_of_getElem? he)).visit_snd hs)
  · exact Entry.records_eq_of_rewritten
      (forall₂_set (Entry.Rewritten.refl s.Asks) he (rewritten_visit s t e))

theorem recordsAt_cons (all : List Record) (place : ℕ) (places : Places) :
    recordsAt all (place :: places) = all[place]?.toList ++ recordsAt all places := by
  cases hr : all[place]? with
  | none => simp [recordsAt, hr]
  | some r => simp [recordsAt, hr]

/-- A classification that does not stop early takes up all records that count. -/
theorem visitEach_fst (hexact : s.job.stopEarly = false) (hs : s.Apart)
    (hentries : ∀ e ∈ entries, s.Fits e) (places : Places) :
    (s.visitEach t entries places).1 =
      ((recordsAt (entries.map (·.record)) places).filter s.accepts).foldl
        s.countRecord t := by
  induction places generalizing t entries with
  | nil => rfl
  | cons place places ih =>
      unfold visitEach
      rw [recordsAt_cons, List.getElem?_map, List.filter_append, List.foldl_append]
      cases he : entries[place]? with
      | none => exact ih hentries
      | some e =>
          obtain ⟨hfits, hsame⟩ := fits_set (t := t) hentries hs he
          have hvisit := (hentries e (List.mem_of_getElem? he)).visit_fst (t := t) hs
          have hrest := ih (t := (s.visit t e).1) hfits
          rw [hsame, hvisit] at hrest
          simp only [hexact, Bool.false_and, if_neg Bool.false_ne_true, Option.map_some,
            Option.toList_some]
          rw [hvisit, hrest]
          cases haccepts : s.accepts e.record with
          | true => simp [haccepts]
          | false => simp [haccepts]

end Classifier.Setup

end TagQuery
