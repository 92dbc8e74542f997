import TagQuery.Proofs.Classification.Counts
import TagQuery.Proofs.DateRange

/-!
# What the dates of a bucket span

A bucket is what becomes of an empty one when the dates of its records are added to it in
the order in which they come up.  So its range depends on that order as far as the range
of a list of dates does: not at all, where all of them are closed on one side.
-/

namespace TagQuery

namespace Bucket

/-- An empty bucket to which some dates are added. -/
def ofDates (dates : List DateRange) : Bucket :=
  dates.foldl add .empty

theorem ofDates_append (dates more : List DateRange) :
    ofDates (dates ++ more) = more.foldl add (ofDates dates) :=
  List.foldl_append

theorem ofDates_eq (dates : List DateRange) :
    ofDates dates = ⟨dates.length, .spanOf dates⟩ := by
  have hfoldl : ∀ b : Bucket, dates.foldl add b =
      ⟨b.count + dates.length, dates.foldl DateRange.extendTo b.dateRange⟩ := by
    induction dates with
    | nil => exact fun _ => rfl
    | cons date dates ih =>
        intro b
        rw [List.foldl_cons, ih, List.length_cons, List.foldl_cons, add]
        congr 1
        dsimp only
        omega
  rw [ofDates, hfoldl, empty, Nat.zero_add, DateRange.spanOf]

end Bucket

/-! ## Groups -/

namespace GroupCounter

/-- The dates of the records that carry a group, in order. -/
def datesOf (groups : TagTable) (category : String) (records : List Record)
    (group : String) : List DateRange :=
  (records.filter (·.carries groups category group)).map (·.date)

/-- The bucket of every group is that of the records that carry it. -/
def Spans (groups : TagTable) (category : String) (records : List Record)
    (counter : GroupCounter) : Prop :=
  ∀ group : String, group ∈ groups →
    counter.buckets[group]? = some (.ofDates (datesOf groups category records group))

variable {groups : TagTable} {category : String} {records : List Record}
  {counter : GroupCounter}

theorem spans_new (groups : TagTable) (category : String) :
    Spans groups category [] (new groups) := by
  intro group hgroup
  obtain ⟨members, hmembers⟩ := mem_table_iff.mp hgroup
  rw [new, Std.ExtTreeMap.getElem?_map, hmembers]
  rfl

theorem Spans.count (h : Spans groups category records counter)
    (hcounted : Counted groups category records counter) (r : Record) :
    Spans groups category (records ++ [r]) (counter.count (r.tagsOf category) r.date) := by
  intro group hgroup
  have hhit := hcounted.mem_groupsHit hgroup r
  rw [GroupCounter.count, Std.ExtTreeMap.getElem?_map, h group hgroup, datesOf, datesOf,
    List.filter_append, List.map_append, Bucket.ofDates_append]
  by_cases hcarries : r.carries groups category group = true
  · have hmem := hhit.mpr hcarries
    simp [hmem, hcarries]
  · have hmem := mt hhit.mp hcarries
    simp [hmem, hcarries]

/-- A group that is shown is shown with the bucket of the records that carry it. -/
theorem Spans.result (h : Spans groups category records counter)
    (hcounted : Counted groups category records counter) {group : String}
    (hshown : group ∈ groups ∧ 0 < records.countP (·.carries groups category group)) :
    counter.result[group]? =
      some (.ofDates (datesOf groups category records group)) := by
  have hbucket := h group hshown.1
  have hcount := hcounted.result group
  rw [if_pos hshown] at hcount
  rw [GroupCounter.result, Std.ExtTreeMap.getElem?_filter, hbucket] at hcount ⊢
  by_cases hpositive : 0 < (Bucket.ofDates (datesOf groups category records group)).count
  · simp [hpositive]
  · simp [hpositive] at hcount

end GroupCounter

/-! ## Values -/

namespace Tally

/-- The buckets of values are those of given dates. -/
def Spans (t : Tally) (dates : String → List DateRange) : Prop :=
  ∀ value : String, t.buckets.getD value .empty = .ofDates (dates value)

variable {t : Tally} {dates dates' : String → List DateRange}

theorem Spans.congr (h : t.Spans dates) (heq : ∀ value, dates value = dates' value) :
    t.Spans dates' := by
  intro value
  rw [← heq value]
  exact h value

theorem spans_start (groups : TagTable) : (start groups).Spans fun _ => [] := by
  intro value
  rw [start, Std.ExtTreeMap.getD_insert]
  split
  · rfl
  · rw [Std.ExtTreeMap.getD_empty]
    rfl

theorem Spans.bump (h : t.Spans dates) (date : DateRange) (value : String) :
    (t.bump date value).Spans
      fun other => dates other ++ if other = value then [date] else [] := by
  intro other
  have hbucket := h value
  simp only [Tally.bump, Std.ExtTreeMap.getD_insert, Std.LawfulEqCmp.compare_eq_iff_eq,
    Bucket.ofDates_append]
  by_cases hother : value = other
  · subst hother
    rw [if_pos rfl, if_pos rfl, hbucket]
    rfl
  · rw [if_neg hother, if_neg (Ne.symm hother), h other]
    rfl

theorem Spans.bumpAll (h : t.Spans dates) (date : DateRange) (values : List String) :
    (values.foldl (·.bump date) t).Spans
      fun other => dates other ++ List.replicate (values.count other) date := by
  induction values generalizing t dates with
  | nil => exact h.congr fun other => by simp
  | cons value values ih =>
      refine (ih (h.bump date value)).congr fun other => ?_
      by_cases hother : other = value
      · subst hother
        rw [if_pos rfl, List.count_cons_self, List.append_assoc, List.replicate_succ]
        rfl
      · rw [if_neg hother, List.append_nil, List.count_cons_of_ne (Ne.symm hother)]

end Tally

namespace Classifier.Setup

/-- The dates that a record adds to the bucket of a value: its own, as one with the value
and, where the value is the marker, once more as one without others. -/
def datesFrom (s : Setup) (value : String) (r : Record) : List DateRange :=
  (if s.countsFor value r then [r.date] else []) ++
    if value = noneMarker ∧ s.noOther.evaluate r = true then [r.date] else []

/-- The dates in the bucket that is shown for a value, which is that of a group where the
group counted something. -/
def datesOf (s : Setup) (groups : TagTable) (records : List Record) (value : String) :
    List DateRange :=
  if value ∈ groups ∧ 0 < records.countP (·.carries groups s.job.category value) then
    GroupCounter.datesOf groups s.job.category records value
  else records.flatMap (s.datesFrom value)

/-- What the buckets span after some records. -/
structure Spans (s : Setup) (groups : TagTable) (records : List Record) (t : Tally) :
    Prop where
  values : t.Spans fun value => records.flatMap (s.datesFrom value)
  groups : t.groups.Spans groups s.job.category records

variable {s : Setup} {groups : TagTable} {records records' : List Record} {t t' : Tally}

theorem spans_start (s : Setup) (groups : TagTable) : s.Spans groups [] (.start groups) where
  values := Tally.spans_start groups
  groups := GroupCounter.spans_new groups s.job.category

theorem Spans.countRecord (h : s.Spans groups records t)
    (hcounts : s.Counts groups records t) (r : Record) :
    s.Spans groups (records ++ [r]) (s.countRecord t r) := by
  have hstart : Tally.Spans
      { t with groups := t.groups.count (r.tagsOf s.job.category) r.date }
      fun value => records.flatMap (s.datesFrom value) :=
    h.values
  have hvalues : (s.countValues t r).Spans fun value => records.flatMap (s.datesFrom value) ++
      if s.countsFor value r then [r.date] else [] := by
    refine (hstart.bumpAll r.date _).congr fun value => ?_
    rw [count_filter_known]
    split
    · rfl
    · rfl
  have hgroups : (s.countValues t r).groups =
      t.groups.count (r.tagsOf s.job.category) r.date :=
    Tally.bumpAll_groups _ _ _
  unfold Setup.countRecord
  by_cases halone : s.noOther.evaluate r = true
  · rw [if_pos halone]
    constructor
    · refine (hvalues.bump r.date noneMarker).congr fun value => ?_
      simp only [List.flatMap_append, List.flatMap_singleton, datesFrom, halone, and_true,
        List.append_assoc]
    · rw [Tally.bump_groups, hgroups]
      exact h.groups.count hcounts.groups r
  · rw [if_neg halone]
    constructor
    · refine hvalues.congr fun value => ?_
      simp only [List.flatMap_append, List.flatMap_singleton, datesFrom, halone,
        Bool.false_eq_true, and_false, if_false, List.append_nil]
    · rw [hgroups]
      exact h.groups.count hcounts.groups r

theorem Spans.foldl (h : s.Spans groups records t) (hcounts : s.Counts groups records t)
    (more : List Record) :
    s.Spans groups (records ++ more) (more.foldl s.countRecord t) := by
  induction more generalizing records t with
  | nil => simpa using h
  | cons r more ih =>
      rw [List.foldl_cons, List.append_cons]
      exact ih (h.countRecord hcounts r) (hcounts.countRecord r)

/-- Every bucket that is shown is that of its dates. -/
theorem Spans.result (h : s.Spans groups records t) (hcounts : s.Counts groups records t)
    {value : String} {bucket : Bucket} (hbucket : t.result[value]? = some bucket) :
    bucket = .ofDates (s.datesOf groups records value) := by
  have hcount := hcounts.groups.result value
  rw [Tally.result, Std.ExtTreeMap.getElem?_union] at hbucket
  unfold datesOf
  by_cases hshown : value ∈ groups ∧
      0 < records.countP (·.carries groups s.job.category value)
  · rw [h.groups.result hcounts.groups hshown, Option.some_or] at hbucket
    rw [if_pos hshown]
    exact (Option.some.inj hbucket).symm
  · rw [if_neg hshown, Option.map_eq_none_iff] at hcount
    rw [hcount, Option.none_or] at hbucket
    have hvalue := h.values value
    rw [Std.ExtTreeMap.getD_eq_getD_getElem?, hbucket, Option.getD_some] at hvalue
    rw [if_neg hshown]
    exact hvalue

theorem datesOf_perm (hperm : records.Perm records') (value : String) :
    (s.datesOf groups records value).Perm (s.datesOf groups records' value) := by
  unfold datesOf
  rw [hperm.countP_eq]
  split
  · exact (hperm.filter _).map _
  · exact hperm.flatMap_right _

/-- Where the dates of a value are closed on one side, it is shown with the same bucket
whatever order the records had. -/
theorem Spans.result_perm (h : s.Spans groups records t) (hcounts : s.Counts groups records t)
    (h' : s.Spans groups records' t') (hcounts' : s.Counts groups records' t')
    (hperm : records.Perm records') {value : String} {side : Side}
    (hside : ∀ date ∈ s.datesOf groups records value, date.ClosedOn side) :
    t.result[value]? = t'.result[value]? := by
  have hshown := hcounts.result_perm hcounts' hperm value
  cases hbucket : t.result[value]? with
  | none =>
      rw [hbucket, Option.map_none, eq_comm, Option.map_eq_none_iff] at hshown
      exact hshown.symm
  | some bucket =>
      rw [hbucket, Option.map_some, eq_comm, Option.map_eq_some_iff] at hshown
      obtain ⟨bucket', hbucket', -⟩ := hshown
      have hdates := @datesOf_perm s groups records records' hperm value
      rw [hbucket', h.result hcounts hbucket, h'.result hcounts' hbucket',
        Bucket.ofDates_eq, Bucket.ofDates_eq, hdates.length_eq,
        DateRange.spanOf_perm hside hdates]

end Classifier.Setup

/-! ## Buckets of a session -/

namespace Classifier

/-- Ranges that are closed on one side make one that covers them all and does not depend
on their order.  The range of a bucket is made of the dates that it counts in that way,
so the whole bucket is the same for any order of the records if its dates are closed on
one side. -/
theorem ranges_cover_in_any_order (ranges : List DateRange) (side : Side)
    (hranges : ∀ r ∈ ranges, r.ClosedOn side) (actions : List Session.Action)
    {entries : List Entry} (hstamp : (Session.start.run actions).stamp + 1 < 2 ^ 64)
    (hentries : ∀ e ∈ entries, ∃ source ∈ (Session.start.run actions).stores,
      e ∈ source.entries) (q : SearchQuery) (job : Classifier)
    (hexact : job.stopEarly = false) (store : RecordStore) (generation : ℕ)
    (places : Places) :
    let stamp := (Session.start.run actions).stamp
    let s := job.setup q store generation stamp
    let buckets := fun places => (job.run q store generation stamp entries places).1
    let dates := s.datesOf (store.hierarchy.groupMap job.category)
      ((Setup.recordsAt (entries.map (·.record)) places).filter s.accepts)
    (∀ r ∈ ranges, r.isNull = false →
        ((DateRange.spanOf ranges).stop = none → r.upper ≤ .latest) →
        r.fit (.spanOf ranges) = .contained) ∧
      (∀ ranges', ranges.Perm ranges' → DateRange.spanOf ranges = .spanOf ranges') ∧
      (∀ (value : String) (bucket : Bucket), (buckets places)[value]? = some bucket →
        bucket = ⟨(dates value).length, .spanOf (dates value)⟩) ∧
      ∀ places', places.Perm places' → ∀ (value : String) (side : Side),
        (∀ date ∈ dates value, date.ClosedOn side) →
          (buckets places)[value]? = (buckets places')[value]? := by
  intro stamp s buckets dates
  have hrun := run_fst actions hstamp hentries q job hexact store generation
  have hcounts := fun records =>
    (Setup.counts_start s (store.hierarchy.groupMap job.category)).foldl records
  have hspans := fun records =>
    (Setup.spans_start s (store.hierarchy.groupMap job.category)).foldl
      (Setup.counts_start s _) records
  refine ⟨fun r hr => DateRange.fit_spanOf hranges hr,
    fun ranges' hperm => DateRange.spanOf_perm hranges hperm, ?_, ?_⟩
  · intro value bucket hbucket
    simp only [buckets] at hbucket
    rw [hrun places] at hbucket
    have hresult := (hspans _).result (hcounts _) hbucket
    rw [hresult, Bucket.ofDates_eq]
    rfl
  · intro places' hperm value side hside
    have hrecords := (hperm.filterMap ((entries.map (·.record))[·]?)).filter s.accepts
    simp only [buckets]
    rw [hrun places, hrun places']
    exact (hspans _).result_perm (hcounts _) (hspans _) (hcounts _) hrecords hside

/-- A range without an end, before and after one that is closed. -/
theorem ranges_cover_in_any_order_of_open_end :
    let since : DateRange := ⟨some (.midnight 2020 1 1), none⟩
    let earlier : DateRange := .instant (.midnight 2019 1 1)
    let fixture : Fixture :=
      { records := [Record.addTag { fileName := "a.jpg", date := since } "Places" "Paris",
          .addTag { fileName := "b.jpg", date := earlier } "Places" "Paris"]
        groups := ∅ }
    let session := Session.start.run [.openStore fixture]
    let store := fixture.store 1
    let job : Classifier := { category := "Places" }
    let buckets := fun places =>
      (job.run (.new 1) store 2 session.stamp store.entries places).1
    (∀ r ∈ [since, earlier], r.ClosedOn .start) ∧
      since.fit (.spanOf [since, earlier]) = .contained ∧
      session.stamp + 1 < 2 ^ 64 ∧ store ∈ session.stores ∧ job.stopEarly = false ∧
      (buckets [0, 1])["Paris"]? = (buckets [1, 0])["Paris"]? := by
  intro since earlier fixture session store job buckets
  have hclosed : ∀ r ∈ [since, earlier], r.ClosedOn .start := by decide
  have hstamp : session.stamp + 1 < 2 ^ 64 := by decide
  have hstore : store ∈ session.stores := List.mem_singleton_self _
  obtain ⟨hcovers, -, -, hbuckets⟩ := ranges_cover_in_any_order [since, earlier] .start
    hclosed [.openStore fixture] hstamp (fun e he => ⟨store, hstore, he⟩) (.new 1) job rfl
    store 2 [0, 1]
  have hdates : ∀ date ∈ (job.setup (.new 1) store 2 session.stamp).datesOf
      (store.hierarchy.groupMap job.category)
      ((Setup.recordsAt (store.entries.map (·.record)) [0, 1]).filter
        (job.setup (.new 1) store 2 session.stamp).accepts) "Paris",
      date.ClosedOn .start := by
    decide +kernel
  exact ⟨hclosed, hcovers since List.mem_cons_self (by decide) fun _ => by decide, hstamp,
    hstore, rfl, hbuckets [1, 0] (.swap 1 0 []) "Paris" .start hdates⟩

/-- A range without a start and one without an end make one that is open on both sides,
as if nothing had been added, and the next range takes its place.  It does not cover the
others, and another order makes another bucket. -/
theorem range_not_covered_of_open_sides :
    let until' : DateRange := ⟨none, some (.midnight 2020 1 1)⟩
    let since : DateRange := ⟨some (.midnight 2020 3 1), none⟩
    let day : DateRange := .instant (.midnight 2020 2 1)
    let fixture : Fixture :=
      { records := [Record.addTag { fileName := "a.jpg", date := until' } "Places" "Paris",
          .addTag { fileName := "b.jpg", date := since } "Places" "Paris",
          .addTag { fileName := "c.jpg", date := day } "Places" "Paris"]
        groups := ∅ }
    let store := fixture.store 1
    let job : Classifier := { category := "Places" }
    let buckets := fun places =>
      (job.run (.new 1) store 2 (Session.start.run [.openStore fixture]).stamp store.entries
        places).1
    (∀ r ∈ [until', since, day], r.lower ≤ r.upper) ∧
      (∀ r ∈ [until', since], r.fit (.spanOf [until', since, day]) ≠ .contained) ∧
      DateRange.spanOf [until', since, day] ≠ .spanOf [day, until', since] ∧
      (buckets [0, 1, 2])["Paris"]?.map (·.dateRange) = some day ∧
      (buckets [2, 0, 1])["Paris"]?.map (·.dateRange) = some .unbounded := by
  decide +kernel

end Classifier

end TagQuery
