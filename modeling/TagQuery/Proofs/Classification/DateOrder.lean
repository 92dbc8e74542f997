import TagQuery.Proofs.Classification.Caches
import TagQuery.Proofs.DateRange.Order

/-!
# The ranges of buckets are in order

A bucket begins with an open range and is widened by the dates of records.  Whatever is
counted, and wherever the count stops, its range is in order if the dates of all records
are.
-/

namespace TagQuery

/-! ## Tables of buckets -/

namespace Buckets

/-- The range of every bucket is in order. -/
def InOrder (buckets : Buckets) : Prop :=
  ∀ (value : String) (bucket : Bucket), buckets[value]? = some bucket →
    bucket.dateRange.InOrder

variable {buckets : Buckets}

theorem inOrder_empty : InOrder ∅ := by
  intro value bucket hbucket
  simp at hbucket

theorem InOrder.insert (h : buckets.InOrder) {bucket : Bucket}
    (hbucket : bucket.dateRange.InOrder) (value : String) :
    InOrder (buckets.insert value bucket) := by
  intro other b hb
  rw [Std.ExtTreeMap.getElem?_insert] at hb
  split at hb
  · cases hb
    exact hbucket
  · exact h other b hb

theorem InOrder.getD (h : buckets.InOrder) (value : String) :
    (Std.ExtTreeMap.getD buckets value .empty).dateRange.InOrder := by
  rw [Std.ExtTreeMap.getD_eq_getD_getElem?]
  cases hbucket : buckets[value]? with
  | none => exact DateRange.inOrder_unbounded
  | some bucket => exact h value bucket hbucket

end Buckets

/-! ## Counts -/

namespace GroupCounter

variable {counter : GroupCounter} {date : DateRange}

theorem inOrder_new (groups : TagTable) : Buckets.InOrder (new groups).buckets := by
  intro group bucket hbucket
  rw [new, Std.ExtTreeMap.getElem?_map, Option.map_eq_some_iff] at hbucket
  obtain ⟨members, -, rfl⟩ := hbucket
  exact DateRange.inOrder_unbounded

theorem inOrder_count (h : Buckets.InOrder counter.buckets) (hdate : date.InOrder)
    (items : TagSet) : Buckets.InOrder (counter.count items date).buckets := by
  intro group bucket hbucket
  rw [count, Std.ExtTreeMap.getElem?_map, Option.map_eq_some_iff] at hbucket
  obtain ⟨before, hbefore, rfl⟩ := hbucket
  split
  · exact (h group before hbefore).extendTo hdate
  · exact h group before hbefore

theorem inOrder_result (h : Buckets.InOrder counter.buckets) :
    Buckets.InOrder counter.result := by
  intro group bucket hbucket
  rw [result, Std.ExtTreeMap.getElem?_filter] at hbucket
  obtain ⟨hbefore, -⟩ := Option.pfilter_eq_some_iff.mp hbucket
  exact h group bucket hbefore

end GroupCounter

namespace Tally

/-- The ranges of values and of groups are in order. -/
structure InOrder (t : Tally) : Prop where
  values : t.buckets.InOrder
  groups : t.groups.buckets.InOrder

variable {t : Tally} {date : DateRange}

theorem inOrder_start (groups : TagTable) : (start groups).InOrder where
  values := Buckets.inOrder_empty.insert DateRange.inOrder_unbounded noneMarker
  groups := GroupCounter.inOrder_new groups

theorem InOrder.bump (h : t.InOrder) (hdate : date.InOrder) (value : String) :
    (t.bump date value).InOrder where
  values := h.values.insert ((h.values.getD value).extendTo hdate) value
  groups := h.groups

theorem InOrder.bumpAll (h : t.InOrder) (hdate : date.InOrder) (values : List String) :
    (values.foldl (·.bump date) t).InOrder := by
  induction values generalizing t with
  | nil => exact h
  | cons value values ih => exact ih (h.bump hdate value)

theorem InOrder.result (h : t.InOrder) : t.result.InOrder := by
  intro value bucket hbucket
  rw [Tally.result, Std.ExtTreeMap.getElem?_union, Option.or_eq_some_iff] at hbucket
  rcases hbucket with hgroup | ⟨-, hvalue⟩
  · exact GroupCounter.inOrder_result h.groups value bucket hgroup
  · exact h.values value bucket hvalue

end Tally

/-! ## The way through the records -/

namespace Classifier

namespace Setup

variable {t : Tally} {e : Entry} {entries : List Entry}

theorem inOrder_countValues (s : Setup) (ht : t.InOrder) {r : Record}
    (hr : r.date.InOrder) : (s.countValues t r).InOrder := by
  have hgroups : Tally.InOrder
      { t with groups := t.groups.count (r.tagsOf s.job.category) r.date } :=
    ⟨ht.values, GroupCounter.inOrder_count ht.groups hr _⟩
  exact hgroups.bumpAll hr _

theorem inOrder_visit (s : Setup) (ht : t.InOrder) (he : e.record.date.InOrder) :
    (s.visit t e).1.InOrder := by
  have hbase := (s.base.leaves_matchEntry e).record_eq
  unfold visit
  split
  next => exact ht
  next =>
    split
    next after hmatch => exact ht
    next after hmatch =>
      rw [hmatch] at hbase
      have hlast := (s.noOther.leaves_matchEntry after).record_eq
      dsimp only at hbase ⊢
      rw [← hbase] at he
      have hcounted := s.inOrder_countValues ht he
      split
      · rw [hlast]
        exact hcounted.bump he noneMarker
      · exact hcounted

theorem inOrder_visitEach (s : Setup) (ht : t.InOrder)
    (hentries : ∀ e ∈ entries, e.record.date.InOrder) (places : Places) :
    (s.visitEach t entries places).1.InOrder := by
  induction places generalizing t entries with
  | nil => exact ht
  | cons place places ih =>
      unfold visitEach
      split
      next => exact ih ht hentries
      next e he =>
        have hdate := hentries e (List.mem_of_getElem? he)
        have hvisit := s.inOrder_visit ht hdate
        -- The record that was looked at is the same as before.
        have hafter : (s.visit t e).2.record.date.InOrder := by
          rw [(rewritten_visit s t e).1]
          exact hdate
        have hset : ∀ e' ∈ entries.set place (s.visit t e).2, e'.record.date.InOrder :=
          forall_mem_set hentries hafter
        dsimp only
        split
        · exact hvisit
        · exact ih hvisit hset

end Setup

theorem inOrder_run (job : Classifier) (q : SearchQuery) (store : RecordStore)
    (generation stamp : ℕ) {entries : List Entry}
    (hentries : ∀ e ∈ entries, e.record.date.InOrder) (places : Places) :
    (job.run q store generation stamp entries places).1.InOrder := by
  have hvisited := (job.setup q store generation stamp).inOrder_visitEach
    (Tally.inOrder_start (store.hierarchy.groupMap job.category)) hentries places
  exact hvisited.result

end Classifier

/-- Looking at records leaves their dates as they are. -/
theorem Entry.forall_inOrder_of_rewritten {P : CompiledQuery → Prop}
    {entries entries' : List Entry} (h : List.Forall₂ (Rewritten P) entries entries')
    (hentries : ∀ e ∈ entries, e.record.date.InOrder) :
    ∀ e ∈ entries', e.record.date.InOrder := by
  intro e' he'
  obtain ⟨e, he, hwritten⟩ := exists_mem_of_forall₂ h he'
  rw [hwritten.1]
  exact hentries e he

theorem Overview.inOrder_ofStore (q : SearchQuery) (category : String) {store : RecordStore}
    (generation stamp : ℕ) (hentries : ∀ e ∈ store.entries, e.record.date.InOrder) :
    (ofStore q category store generation stamp).1.images.InOrder ∧
      (ofStore q category store generation stamp).1.videos.InOrder := by
  constructor
  · exact Classifier.inOrder_run _ q store generation stamp hentries _
  · apply Classifier.inOrder_run _ q store (generation + 1) (stamp + 2)
    exact Entry.forall_inOrder_of_rewritten (Classifier.rewritten_run _ q store _ _ _ _) hentries

end TagQuery
