import Mathlib.Data.List.Nodup
import TagQuery.Proofs.Classification.Groups
import TagQuery.Proofs.Classification.Visits
import TagQuery.Proofs.Session.Coherence

/-!
# What a classification counts

The counts are read off the list of the records that were counted: `Tally.Counts` says
what every bucket holds after them.  One record keeps it, and so does a whole
classification that does not stop early, whatever else its two compiled queries write
to the caches of the records in between.

Since a bucket only depends on how many of the records have some property, their
order does not matter.
-/

namespace TagQuery

/-! ## Buckets of values -/

/-- How many records a bucket counts; one that is not there counts none. -/
def Buckets.countOf (buckets : Buckets) (value : String) : ℕ :=
  (buckets[value]?.map (·.count)).getD 0

/-- How a bucket shows a number: that of the marker always, others if they count
something. -/
def shownCount (value : String) (count : ℕ) : Option ℕ :=
  if value = noneMarker ∨ 0 < count then some count else none

namespace Tally

/-- The value buckets show given numbers. -/
def Shows (t : Tally) (counts : String → ℕ) : Prop :=
  ∀ value : String, t.buckets[value]?.map (·.count) = shownCount value (counts value)

variable {t : Tally} {counts counts' : String → ℕ}

theorem Shows.congr (h : t.Shows counts) (heq : ∀ value, counts value = counts' value) :
    t.Shows counts' := by
  intro value
  rw [← heq value]
  exact h value

theorem shows_start (groups : TagTable) : (start groups).Shows fun _ => 0 := by
  intro value
  simp only [start, Std.ExtTreeMap.getElem?_insert, Std.LawfulEqCmp.compare_eq_iff_eq,
    shownCount]
  by_cases hvalue : noneMarker = value
  · simp [hvalue, Bucket.empty]
  · simp [hvalue, Ne.symm hvalue]

theorem Shows.getD_eq (h : t.Shows counts) (value : String) :
    (t.buckets.getD value .empty).count = counts value := by
  have hshown := h value
  rw [Std.ExtTreeMap.getD_eq_getD_getElem?]
  unfold shownCount at hshown
  cases hbucket : t.buckets[value]? with
  | some bucket =>
      rw [hbucket] at hshown
      split at hshown
      · exact Option.some.inj hshown
      · contradiction
  | none =>
      rw [hbucket] at hshown
      split at hshown
      · contradiction
      next hzero =>
        have hnot : ¬0 < counts value := fun hpositive => hzero (Or.inr hpositive)
        exact (Nat.eq_zero_of_not_pos hnot).symm

theorem Shows.bump (h : t.Shows counts) (date : DateRange) (value : String) :
    (t.bump date value).Shows
      fun other => counts other + if other = value then 1 else 0 := by
  intro other
  have hcount := h.getD_eq value
  simp only [Tally.bump, Std.ExtTreeMap.getElem?_insert, Std.LawfulEqCmp.compare_eq_iff_eq]
  by_cases hother : other = value
  · simp [hother, Bucket.add, hcount, shownCount]
  · simp [hother, Ne.symm hother, h other]

theorem Shows.bumpAll (h : t.Shows counts) (date : DateRange) (values : List String) :
    (values.foldl (·.bump date) t).Shows
      fun other => counts other + values.count other := by
  induction values generalizing t counts with
  | nil => exact h
  | cons value values ih =>
      refine (ih (h.bump date value)).congr fun other => ?_
      rw [List.count_cons]
      by_cases hother : other = value
      · simp only [hother, if_true, beq_self_eq_true]
        omega
      · simp [hother, Ne.symm hother]

theorem bump_groups (t : Tally) (date : DateRange) (value : String) :
    (t.bump date value).groups = t.groups :=
  rfl

theorem bumpAll_groups (t : Tally) (date : DateRange) (values : List String) :
    (values.foldl (·.bump date) t).groups = t.groups := by
  induction values generalizing t with
  | nil => rfl
  | cons value values ih => exact (ih _).trans (bump_groups t date value)

end Tally

/-! ## Records that count -/

namespace Classifier.Setup

/-- A record counts for a value that is not among those that every match carries. -/
def countsFor (s : Setup) (value : String) (r : Record) : Bool :=
  r.hasTag s.job.category value && !s.known.contains value

/-- How many records the bucket of a value counts. -/
def valueCount (s : Setup) (records : List Record) (value : String) : ℕ :=
  records.countP (s.countsFor value) +
    if value = noneMarker then records.countP s.noOther.evaluate else 0

/-- A record counts once for each of its values. -/
theorem count_filter_known (s : Setup) (r : Record) (value : String) :
    ((r.tagsOf s.job.category).toList.filter (· ∉ s.known)).count value =
      if s.countsFor value r then 1 else 0 := by
  have hnodup := (TagSet.nodup_toList (r.tagsOf s.job.category)).filter (· ∉ s.known)
  have hmem : value ∈ (r.tagsOf s.job.category).toList.filter (· ∉ s.known) ↔
      s.countsFor value r = true := by
    rw [List.mem_filter, Std.ExtTreeSet.mem_toList, countsFor, Bool.and_eq_true,
      Record.hasTag_iff, Bool.not_eq_true', Bool.eq_false_iff, ne_eq,
      Std.ExtTreeSet.contains_iff_mem, decide_eq_true_eq]
  by_cases hcounts : s.countsFor value r = true
  · rw [if_pos hcounts, List.count_eq_one_of_mem hnodup (hmem.mpr hcounts)]
  · rw [if_neg hcounts, List.count_eq_zero_of_not_mem (mt hmem.mp hcounts)]

/-- A record that counts for a value carries the group of that name. -/
theorem countP_countsFor_le (s : Setup) (groups : TagTable) (records : List Record)
    (value : String) :
    records.countP (s.countsFor value) ≤
      records.countP (·.carries groups s.job.category value) := by
  refine List.countP_mono_left fun r _ hcounts => ?_
  rw [countsFor, Bool.and_eq_true] at hcounts
  rw [Record.carries, hcounts.1, Bool.true_or]

/-- What was counted after some records. -/
structure Counts (s : Setup) (groups : TagTable) (records : List Record) (t : Tally) :
    Prop where
  values : t.Shows (s.valueCount records)
  groups : t.groups.Counted groups s.job.category records

theorem counts_start (s : Setup) (groups : TagTable) :
    s.Counts groups [] (.start groups) where
  values := by
    have hzero : s.valueCount [] = fun _ => 0 := by
      funext value
      simp [valueCount]
    rw [hzero]
    exact Tally.shows_start groups
  groups := GroupCounter.counted_new groups s.job.category

variable {s : Setup} {groups : TagTable} {records : List Record} {t : Tally}

/-- A record that the query matches is counted. -/
theorem Counts.countRecord (h : s.Counts groups records t) (r : Record) :
    s.Counts groups (records ++ [r]) (s.countRecord t r) := by
  have hvalues : (s.countValues t r).Shows fun other => s.valueCount records other +
      if s.countsFor other r then 1 else 0 := by
    have hstart : Tally.Shows
        { t with groups := t.groups.count (r.tagsOf s.job.category) r.date }
        (s.valueCount records) :=
      h.values
    refine (hstart.bumpAll r.date _).congr fun other => ?_
    exact congrArg _ (count_filter_known s r other)
  have hgroups : (s.countValues t r).groups =
      t.groups.count (r.tagsOf s.job.category) r.date :=
    Tally.bumpAll_groups _ _ _
  unfold Setup.countRecord
  by_cases halone : s.noOther.evaluate r = true
  · rw [if_pos halone]
    refine ⟨(hvalues.bump r.date noneMarker).congr fun other => ?_, ?_⟩
    · simp only [valueCount, List.countP_append, List.countP_singleton, halone, if_true]
      by_cases hmarker : other = noneMarker
      · simp only [if_pos hmarker]
        omega
      · simp only [if_neg hmarker]
        omega
    · rw [Tally.bump_groups, hgroups]
      exact h.groups.count r
  · rw [if_neg halone]
    refine ⟨hvalues.congr fun other => ?_, ?_⟩
    · simp only [valueCount, List.countP_append, List.countP_singleton, if_neg halone,
        Nat.add_zero]
      omega
    · rw [hgroups]
      exact h.groups.count r

/-! ## Going through records -/

theorem Counts.foldl (h : s.Counts groups records t) (more : List Record) :
    s.Counts groups (records ++ more) (more.foldl s.countRecord t) := by
  induction more generalizing records t with
  | nil => simpa using h
  | cons r more ih =>
      rw [List.foldl_cons, List.append_cons]
      exact ih (h.countRecord r)

/-- What the buckets show in the end: groups that counted something, else values. -/
theorem Counts.result (h : s.Counts groups records t) (value : String) :
    t.result[value]?.map (·.count) =
      if value ∈ groups ∧ 0 < records.countP (·.carries groups s.job.category value) then
        some (records.countP (·.carries groups s.job.category value))
      else shownCount value (s.valueCount records value) := by
  have hgroup := h.groups.result value
  rw [Tally.result, Std.ExtTreeMap.getElem?_union]
  by_cases hcounts : value ∈ groups ∧
      0 < records.countP (·.carries groups s.job.category value)
  · rw [if_pos hcounts, Option.map_eq_some_iff] at hgroup
    obtain ⟨bucket, hbucket, hcount⟩ := hgroup
    rw [if_pos hcounts, hbucket, ← hcount]
    rfl
  · rw [if_neg hcounts, Option.map_eq_none_iff] at hgroup
    rw [if_neg hcounts, hgroup, Option.none_or]
    exact h.values value

/-- The marker always has a bucket. -/
theorem Counts.marker_mem (h : s.Counts groups records t) : noneMarker ∈ t.result := by
  have hresult := h.result noneMarker
  rw [Std.ExtTreeMap.mem_iff_isSome_getElem?, ← Option.isSome_map, hresult]
  split
  · rfl
  · simp [shownCount]

/-- Buckets count the same whatever order the records had. -/
theorem Counts.result_perm {records' : List Record} {t' : Tally}
    (h : s.Counts groups records t) (h' : s.Counts groups records' t')
    (hperm : records.Perm records') (value : String) :
    t.result[value]?.map (·.count) = t'.result[value]?.map (·.count) := by
  have hvalues : s.valueCount records value = s.valueCount records' value := by
    rw [valueCount, valueCount, hperm.countP_eq, hperm.countP_eq]
  rw [h.result, h'.result, hvalues, hperm.countP_eq]

/-- The number that the bucket of a value other than the marker counts, as it is
meant: the records that have a group or anything it holds, and for values that are no
groups those that have them, unless every match does. -/
def expected (s : Setup) (groups : TagTable) (records : List Record) (value : String) :
    ℕ :=
  if value ∈ groups then records.countP (·.carries groups s.job.category value)
  else if value ∈ s.known then 0
  else records.countP (·.hasTag s.job.category value)

theorem Counts.result_eq_expected (h : s.Counts groups records t) {value : String}
    (hvalue : value ≠ noneMarker) :
    t.result[value]?.map (·.count) =
      if s.expected groups records value = 0 then none
      else some (s.expected groups records value) := by
  have hcount : s.valueCount records value = records.countP (s.countsFor value) := by
    rw [valueCount, if_neg hvalue, Nat.add_zero]
  rw [h.result, hcount]
  by_cases hgroup : value ∈ groups
  · have hle := countP_countsFor_le s groups records value
    rw [expected, if_pos hgroup]
    by_cases hpositive : 0 < records.countP (·.carries groups s.job.category value)
    · rw [if_pos ⟨hgroup, hpositive⟩, if_neg (by omega)]
    · rw [if_neg fun hcounts => hpositive hcounts.2, if_pos (by omega), shownCount,
        if_neg]
      rintro (hmarker | hcounts)
      · exact hvalue hmarker
      · omega
  · have hexpected : s.expected groups records value =
        records.countP (s.countsFor value) := by
      rw [expected, if_neg hgroup]
      by_cases hknown : value ∈ s.known
      · rw [if_pos hknown, eq_comm, List.countP_eq_zero]
        intro r _
        simp [countsFor, hknown]
      · rw [if_neg hknown]
        have hcontains : s.known.contains value = false := by
          rw [Bool.eq_false_iff, ne_eq, Std.ExtTreeSet.contains_iff_mem]
          exact hknown
        refine List.countP_congr fun r _ => ?_
        rw [countsFor, hcontains, Bool.not_false, Bool.and_true]
    rw [hexpected, if_neg fun hcounts => hgroup hcounts.1, shownCount]
    by_cases hzero : records.countP (s.countsFor value) = 0
    · rw [if_pos hzero, if_neg]
      rintro (hmarker | hpositive)
      · exact hvalue hmarker
      · omega
    · rw [if_neg hzero, if_pos (Or.inr (Nat.pos_of_ne_zero hzero))]

end Classifier.Setup

/-! ## Classifications of a session -/

namespace Classifier

/-- The records at some places of a store that count: those that the classification
admits and that the query accepts when it is compiled afresh. -/
def matched (job : Classifier) (q : SearchQuery) (store : RecordStore) (stamp : ℕ)
    (places : Places) : List Record :=
  (Setup.recordsAt store.records places).filter fun r =>
    job.admits r && (q.compile store stamp).evaluate r

/-- How many of some records a value is to be shown with. -/
def valueCount (job : Classifier) (q : SearchQuery) (store : RecordStore)
    (records : List Record) (value : String) : ℕ :=
  if store.hierarchy.isGroup job.category value then
    records.countP fun r => r.hasTag job.category value ||
      r.hasAnyTag job.category (store.hierarchy.membersOf job.category value)
  else if value ∈ q.alreadyMatched job.category then 0
  else records.countP (·.hasTag job.category value)

theorem expected_setup (job : Classifier) (q : SearchQuery) {store : RecordStore}
    (hsound : store.hierarchy.Sound) (generation stamp : ℕ) (records : List Record)
    (value : String) :
    (job.setup q store generation stamp).expected
        (store.hierarchy.groupMap job.category) records value =
      job.valueCount q store records value := by
  have hgroup := @Hierarchy.Sound.mem_groupMap_iff _ hsound job.category value
  simp only [Setup.expected, hgroup]
  rfl

/-- No record of a session remembers anything that a classification could take for an
answer of its own. -/
theorem fits_session (actions : List Session.Action) {entries : List Entry}
    (hstamp : (Session.start.run actions).stamp + 1 < 2 ^ 64)
    (hentries : ∀ e ∈ entries, ∃ source ∈ (Session.start.run actions).stores,
      e ∈ source.entries) (q : SearchQuery) (job : Classifier) (store : RecordStore)
    (generation : ℕ) :
    ∀ e ∈ entries,
      (job.setup q store generation (Session.start.run actions).stamp).Fits e := by
  intro e he
  obtain ⟨source, hsource, hmem⟩ := hentries e he
  have hbefore := (Session.dated_run actions).cache_before source hsource e hmem
  exact Setup.fits_of_before job q store generation hstamp hbefore

/-- In a session, a classification takes up the records at its places that count. -/
theorem run_fst (actions : List Session.Action) {entries : List Entry}
    (hstamp : (Session.start.run actions).stamp + 1 < 2 ^ 64)
    (hentries : ∀ e ∈ entries, ∃ source ∈ (Session.start.run actions).stores,
      e ∈ source.entries) (q : SearchQuery) (job : Classifier)
    (hexact : job.stopEarly = false) (store : RecordStore) (generation : ℕ)
    (places : Places) :
    let s := job.setup q store generation (Session.start.run actions).stamp
    (job.run q store generation (Session.start.run actions).stamp entries places).1 =
      (((Setup.recordsAt (entries.map (·.record)) places).filter s.accepts).foldl
        s.countRecord (.start (store.hierarchy.groupMap job.category))).result := by
  intro s
  have hapart := Setup.apart_setup job q store generation hstamp
  have hfits := fits_session actions hstamp hentries q job store generation
  have hvisits := Setup.visitEach_fst (t := .start (store.hierarchy.groupMap job.category))
    hexact hapart hfits places
  exact congrArg Tally.result hvisits

/-- In a session, the buckets are those of a tally of the records that count. -/
theorem exists_counts_run (actions : List Session.Action) {entries : List Entry}
    (hstamp : (Session.start.run actions).stamp + 1 < 2 ^ 64)
    (hentries : ∀ e ∈ entries, ∃ source ∈ (Session.start.run actions).stores,
      e ∈ source.entries) (q : SearchQuery) (job : Classifier)
    (hexact : job.stopEarly = false) (store : RecordStore) (generation : ℕ)
    (places : Places) :
    let s := job.setup q store generation (Session.start.run actions).stamp
    ∃ t, (job.run q store generation (Session.start.run actions).stamp entries places).1 =
        t.result ∧
      s.Counts (store.hierarchy.groupMap job.category)
        ((Setup.recordsAt (entries.map (·.record)) places).filter s.accepts) t := by
  intro s
  have hrun := run_fst actions hstamp hentries q job hexact store generation places
  exact ⟨_, hrun, (Setup.counts_start _ _).foldl _⟩

/-- In a session, a classification counts what is at its places. -/
theorem counts_run (actions : List Session.Action) {store : RecordStore}
    (hstamp : (Session.start.run actions).stamp + 1 < 2 ^ 64)
    (hstore : store ∈ (Session.start.run actions).stores) (q : SearchQuery)
    (job : Classifier) (hexact : job.stopEarly = false) (generation stamp : ℕ)
    (places : Places) :
    ∃ t, (job.run q store generation (Session.start.run actions).stamp store.entries
        places).1 = t.result ∧
      (job.setup q store generation (Session.start.run actions).stamp).Counts
        (store.hierarchy.groupMap job.category) (job.matched q store stamp places) t :=
  exists_counts_run actions hstamp (fun _ he => ⟨store, hstore, he⟩) q job hexact store
    generation places

/-- What a group is shown to hold are the members of its members, however deep; the
buckets show the numbers of records, without those of nothing; the marker always has
a bucket; and the order of the records does not matter. -/
theorem classification_counts (actions : List Session.Action) {store : RecordStore}
    (hstamp : (Session.start.run actions).stamp + 1 < 2 ^ 64)
    (hstore : store ∈ (Session.start.run actions).stores) (q : SearchQuery)
    (job : Classifier) (hexact : job.stopEarly = false) (generation stamp : ℕ)
    (places : Places) :
    let buckets := fun places => (job.run q store generation
      (Session.start.run actions).stamp store.entries places).1
    let count := job.valueCount q store (job.matched q store stamp places)
    (∀ group member, member ∈ store.hierarchy.membersOf job.category group ↔
        Relation.TransGen (store.hierarchy.groups job.category).Leads group member) ∧
      (∀ value : String, value ≠ noneMarker → (buckets places)[value]?.map (·.count) =
        if count value = 0 then none else some (count value)) ∧
      noneMarker ∈ buckets places ∧
      ∀ places', places.Perm places' → ∀ value : String,
        (buckets places)[value]?.map (·.count) =
          (buckets places')[value]?.map (·.count) := by
  intro buckets count
  have hsound := Session.grouped_run actions store hstore
  obtain ⟨t, hresult, hcounts⟩ :=
    counts_run actions hstamp hstore q job hexact generation stamp places
  refine ⟨hsound.mem_membersOf_iff job.category, fun value hvalue => ?_, ?_, ?_⟩
  · have hbucket := hcounts.result_eq_expected hvalue
    rw [expected_setup job q hsound] at hbucket
    simp only [buckets, hresult, hbucket, count]
  · simp only [buckets, hresult]
    exact hcounts.marker_mem
  · intro places' hperm value
    obtain ⟨t', hresult', hcounts'⟩ :=
      counts_run actions hstamp hstore q job hexact generation stamp places'
    have hmatched : (job.matched q store stamp places).Perm
        (job.matched q store stamp places') :=
      (hperm.filterMap _).filter _
    simp only [buckets, hresult, hresult']
    exact hcounts.result_perm hcounts' hmatched value

/-- Two groups that hold each other, of which one is asked for through the other. -/
theorem classification_counts_of_cycle :
    let fixture : Fixture :=
      { records := [Record.addTag { fileName := "a.jpg" } "Places" "Paris",
          { fileName := "b.jpg" }]
        groups := (∅ : GroupTables).insert "Places"
          (((∅ : TagTable).insert "Europe" {"France"}).insert "France"
            {"Paris", "Europe"}) }
    let job : Classifier := { category := "Places" }
    let session := Session.start.run [.openStore fixture]
    session.stamp + 1 < 2 ^ 64 ∧ fixture.store 1 ∈ session.stores ∧
      job.stopEarly = false ∧
      (job.run (.new 1) (fixture.store 1) 2 session.stamp (fixture.store 1).entries
        [1, 0]).1["Europe"]?.map (·.count) = some 1 := by
  intro fixture job session
  have hstamp : session.stamp + 1 < 2 ^ 64 := by decide
  have hstore : fixture.store 1 ∈ session.stores := List.mem_singleton_self _
  have hvalues := (classification_counts [.openStore fixture] hstamp hstore (.new 1) job
    rfl 2 9 [1, 0]).2.1 "Europe" (by decide)
  have hcount : job.valueCount (.new 1) (fixture.store 1)
      (job.matched (.new 1) (fixture.store 1) 9 [1, 0]) "Europe" = 1 := by
    decide +kernel
  rw [hcount] at hvalues
  exact ⟨hstamp, hstore, rfl, hvalues⟩

end Classifier

end TagQuery
