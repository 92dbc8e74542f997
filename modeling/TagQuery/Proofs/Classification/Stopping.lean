import Mathlib.Data.Finset.Card
import TagQuery.Proofs.Classification.Counts

/-!
# Stopping early

A browser that only wants to know whether there is a choice lets the count stop once
two buckets hold something.  What it gets is the full count of the records up to there.
The count of populated buckets is kept beside the buckets, and groups are laid over
these in the end; neither matters, for what holds something goes on to do so.
-/

namespace TagQuery

/-- Two different values have a property. -/
def Several (P : String → Prop) : Prop :=
  ∃ a b : String, a ≠ b ∧ P a ∧ P b

theorem Several.imp {P Q : String → Prop} (h : Several P) (hPQ : ∀ value, P value → Q value) :
    Several Q := by
  obtain ⟨a, b, hab, ha, hb⟩ := h
  exact ⟨a, b, hab, hPQ a ha, hPQ b hb⟩

/-! ## Populated buckets -/

namespace Tally

/-- The number of populated buckets is that of the values for which something is counted. -/
def Tallied (t : Tally) : Prop :=
  ∃ names : Finset String, names.card = t.populated ∧
    ∀ value : String, value ∈ names ↔ 0 < (t.buckets.getD value .empty).count

variable {t : Tally}

theorem tallied_start (groups : TagTable) : (start groups).Tallied := by
  refine ⟨∅, rfl, fun value => ?_⟩
  rw [start, Std.ExtTreeMap.getD_insert]
  split
  · simp [Bucket.empty]
  · simp [Bucket.empty]

theorem Tallied.bump (h : t.Tallied) (date : DateRange) (value : String) :
    (t.bump date value).Tallied := by
  obtain ⟨names, hcard, hnames⟩ := h
  have hcount : ∀ other : String,
      0 < ((t.bump date value).buckets.getD other .empty).count ↔
        other = value ∨ other ∈ names := by
    intro other
    simp only [Tally.bump, Std.ExtTreeMap.getD_insert, Std.LawfulEqCmp.compare_eq_iff_eq]
    by_cases hother : value = other
    · simp [hother, Bucket.add]
    · rw [if_neg hother, hnames, eq_comm (a := other)]
      simp [hother]
  by_cases hold : value ∈ names
  · refine ⟨names, ?_, fun other => ?_⟩
    · have hpositive := (hnames value).mp hold
      rw [hcard, Tally.bump, if_neg (Nat.ne_of_gt hpositive)]
    · rw [hcount]
      constructor
      · exact Or.inr
      · rintro (rfl | hother)
        · exact hold
        · exact hother
  · refine ⟨insert value names, ?_, fun other => ?_⟩
    · have hzero := Nat.eq_zero_of_not_pos (mt (hnames value).mpr hold)
      rw [Finset.card_insert_of_notMem hold, hcard, Tally.bump, if_pos hzero]
    · rw [hcount, Finset.mem_insert]

theorem Tallied.bumpAll (h : t.Tallied) (date : DateRange) (values : List String) :
    (values.foldl (·.bump date) t).Tallied := by
  induction values generalizing t with
  | nil => exact h
  | cons value values ih => exact ih (h.bump date value)

theorem Tallied.one_lt_iff (h : t.Tallied) :
    1 < t.populated ↔ Several fun value => 0 < (t.buckets.getD value .empty).count := by
  obtain ⟨names, hcard, hnames⟩ := h
  rw [← hcard, Finset.one_lt_card]
  constructor
  · rintro ⟨a, ha, b, hb, hab⟩
    exact ⟨a, b, hab, (hnames a).mp ha, (hnames b).mp hb⟩
  · rintro ⟨a, b, hab, ha, hb⟩
    exact ⟨a, (hnames a).mpr ha, b, (hnames b).mpr hb, hab⟩

end Tally

namespace Classifier.Setup

variable {s : Setup} {t : Tally} {entries : List Entry} {place : ℕ} {places : Places}

theorem tallied_countRecord (h : t.Tallied) (r : Record) : (s.countRecord t r).Tallied := by
  -- Counting the groups leaves the value buckets and their number alone.
  have hgroups : Tally.Tallied
      { t with groups := t.groups.count (r.tagsOf s.job.category) r.date } := h
  have hvalues : (s.countValues t r).Tallied := hgroups.bumpAll r.date _
  unfold countRecord
  split
  · exact hvalues.bump r.date noneMarker
  · exact hvalues

theorem tallied_foldl (h : t.Tallied) (records : List Record) :
    (records.foldl s.countRecord t).Tallied := by
  induction records generalizing t with
  | nil => exact h
  | cons r records ih => exact ih (tallied_countRecord h r)

/-! ## Where the count stops -/

/-- The same count, through all records. -/
def throughout (s : Setup) : Setup :=
  { s with job := { s.job with stopEarly := false } }

theorem visitEach_cons_of_none (places : Places) (he : entries[place]? = none) :
    s.visitEach t entries (place :: places) = s.visitEach t entries places := by
  simp only [visitEach, he]

theorem visitEach_throughout_cons (places : Places) {e : Entry}
    (he : entries[place]? = some e) :
    s.throughout.visitEach t entries (place :: places) =
      s.throughout.visitEach (s.visit t e).1 (entries.set place (s.visit t e).2) places := by
  rw [visitEach, he]
  rfl

/-- A full count populates two buckets after so many places, and not before, or has
come to the end without it. -/
structure StopsAfter (s : Setup) (t : Tally) (entries : List Entry) (places : Places)
    (k : ℕ) : Prop where
  le_length : k ≤ places.length
  before : ∀ j < k, (s.throughout.visitEach t entries (places.take j)).1.populated ≤ 1
  enough : 1 < (s.throughout.visitEach t entries (places.take k)).1.populated ∨
    k = places.length

theorem StopsAfter.cons {t' : Tally} {entries' : List Entry} {k : ℕ}
    (h : s.StopsAfter t' entries' places k) (hfew : t.populated ≤ 1)
    (hstep : ∀ rest, s.throughout.visitEach t entries (place :: rest) =
      s.throughout.visitEach t' entries' rest) :
    s.StopsAfter t entries (place :: places) (k + 1) where
  le_length := Nat.succ_le_succ h.le_length
  before j hj := by
    cases j with
    | zero => exact hfew
    | succ j =>
        rw [List.take_succ_cons, hstep]
        exact h.before j (Nat.lt_of_succ_lt_succ hj)
  enough := by
    rw [List.take_succ_cons, hstep, List.length_cons]
    exact h.enough.imp_right (congrArg Nat.succ)

/-- A count that stops early is the full count of the places up to where it stops. -/
theorem visitEach_eq_take (hstop : s.job.stopEarly = true) (hfew : t.populated ≤ 1)
    (entries : List Entry) (places : Places) :
    ∃ k, s.StopsAfter t entries places k ∧
      s.visitEach t entries places = s.throughout.visitEach t entries (places.take k) := by
  induction places generalizing t entries with
  | nil => exact ⟨0, ⟨le_rfl, fun j hj => absurd hj (Nat.not_lt_zero j), Or.inr rfl⟩, rfl⟩
  | cons place places ih =>
      cases he : entries[place]? with
      | none =>
          obtain ⟨k, hk, hsame⟩ := ih hfew entries
          refine ⟨k + 1, hk.cons hfew fun rest => visitEach_cons_of_none rest he, ?_⟩
          rw [List.take_succ_cons, visitEach_cons_of_none _ he, visitEach_cons_of_none _ he,
            hsame]
      | some e =>
          have hstep := fun rest => visitEach_throughout_cons (s := s) (t := t) rest he
          by_cases hmany : 1 < (s.visit t e).1.populated
          · refine ⟨1, ⟨Nat.succ_le_succ (Nat.zero_le _), fun j hj => ?_, Or.inl ?_⟩, ?_⟩
            · rw [Nat.lt_one_iff.mp hj]
              exact hfew
            · rw [List.take_succ_cons, hstep]
              exact hmany
            · rw [List.take_succ_cons, hstep]
              simp [visitEach, he, hstop, hmany]
          · obtain ⟨k, hk, hsame⟩ :=
              ih (Nat.not_lt.mp hmany) (entries.set place (s.visit t e).2)
            refine ⟨k + 1, hk.cons hfew hstep, ?_⟩
            rw [List.take_succ_cons, hstep, ← hsame]
            simp [visitEach, he, hmany]

/-! ## Counts that grow -/

variable {groups : TagTable} {records records' : List Record} {t' : Tally}

/-- What is shown for a value: the count of its group, or else that of its own bucket. -/
theorem Counts.countOf_result (h : s.Counts groups records t) (value : String) :
    t.result.countOf value =
      if value ∈ groups ∧ 0 < records.countP (·.carries groups s.job.category value) then
        records.countP (·.carries groups s.job.category value)
      else s.valueCount records value := by
  rw [Buckets.countOf, h.result]
  split
  · rfl
  · unfold shownCount
    split
    next => rfl
    next hzero =>
      have hnot : ¬0 < s.valueCount records value := fun hpositive => hzero (Or.inr hpositive)
      exact (Nat.eq_zero_of_not_pos hnot).symm

theorem Counts.countOf_pos_iff (h : s.Counts groups records t) (value : String) :
    0 < t.result.countOf value ↔
      (value ∈ groups ∧ 0 < records.countP (·.carries groups s.job.category value)) ∨
        0 < s.valueCount records value := by
  rw [h.countOf_result]
  by_cases hgroup : value ∈ groups ∧
      0 < records.countP (·.carries groups s.job.category value)
  · rw [if_pos hgroup]
    exact iff_of_true hgroup.2 (Or.inl hgroup)
  · rw [if_neg hgroup, or_iff_right hgroup]

theorem valueCount_mono (h : records.Sublist records') (value : String) :
    s.valueCount records value ≤ s.valueCount records' value := by
  unfold valueCount
  split
  · exact Nat.add_le_add (h.countP_le) (h.countP_le)
  · exact h.countP_le

/-- What is shown to hold something is shown to do so after more records. -/
theorem Counts.countOf_pos_mono (h : s.Counts groups records t)
    (h' : s.Counts groups records' t') (hsub : records.Sublist records') {value : String}
    (hpositive : 0 < t.result.countOf value) : 0 < t'.result.countOf value := by
  rw [h'.countOf_pos_iff]
  rcases (h.countOf_pos_iff value).mp hpositive with ⟨hgroup, hcarries⟩ | hvalue
  · exact Or.inl ⟨hgroup, hcarries.trans_le hsub.countP_le⟩
  · exact Or.inr (hvalue.trans_le (valueCount_mono hsub value))

/-- Counts grow with the records.  That of the marker may shrink where a group bears
its name, once the first record counts for the group. -/
theorem Counts.countOf_mono (h : s.Counts groups records t)
    (h' : s.Counts groups records' t') (hsub : records.Sublist records') {value : String}
    (hmarker : value = noneMarker → noneMarker ∉ groups) :
    t.result.countOf value ≤ t'.result.countOf value := by
  by_cases hgroup : value ∈ groups
  · have hvalue : value ≠ noneMarker := by
      rintro rfl
      exact hmarker rfl hgroup
    have hcount : ∀ {records : List Record} {t : Tally}, s.Counts groups records t →
        t.result.countOf value =
          records.countP (·.carries groups s.job.category value) := by
      intro records t h
      have hle := countP_countsFor_le s groups records value
      rw [h.countOf_result, valueCount, if_neg hvalue, Nat.add_zero]
      split
      next => rfl
      next hnone =>
        have hzero : ¬0 < records.countP (·.carries groups s.job.category value) :=
          fun hpositive => hnone ⟨hgroup, hpositive⟩
        omega
    rw [hcount h, hcount h']
    exact hsub.countP_le
  · rw [h.countOf_result, h'.countOf_result, if_neg fun hg => hgroup hg.1,
      if_neg fun hg => hgroup hg.1]
    exact valueCount_mono hsub value

/-- The number of populated buckets is more than one if two values count something. -/
theorem Counts.one_lt_populated_iff (h : s.Counts groups records t) (ht : t.Tallied) :
    1 < t.populated ↔ Several fun value => 0 < s.valueCount records value := by
  rw [ht.one_lt_iff]
  simp only [h.values.getD_eq]

end Classifier.Setup

/-! ## Classifications of a session -/

namespace Classifier

/-- Some record that counts belongs into the bucket of a value: it has the value, which
is not asked for already, or the bucket is the marker's and it has no other value. -/
def Populates (job : Classifier) (q : SearchQuery) (store : RecordStore)
    (generation stamp : ℕ) (records : List Record) (value : String) : Prop :=
  ∃ r ∈ records, job.admits r = true ∧ (q.compile store stamp).evaluate r = true ∧
    (value ∈ r.tagsOf job.category ∧ value ∉ q.alreadyMatched job.category ∨
      value = noneMarker ∧
        ((job.noOtherQuery q generation).compile store stamp).evaluate r = true)

theorem valueCount_pos_iff (job : Classifier) (q : SearchQuery) (store : RecordStore)
    (generation stamp stamp' : ℕ) (records : List Record) (value : String) :
    let s := job.setup q store generation stamp'
    0 < s.valueCount (records.filter s.accepts) value ↔
      job.Populates q store generation stamp records value := by
  intro s
  have hcounts : ∀ r, s.countsFor value r = true ↔
      value ∈ r.tagsOf job.category ∧ value ∉ q.alreadyMatched job.category := by
    intro r
    rw [Setup.countsFor, Bool.and_eq_true, Record.hasTag_iff, Bool.not_eq_true',
      Bool.eq_false_iff, ne_eq, Std.ExtTreeSet.contains_iff_mem]
    rfl
  have haccepts : ∀ r, s.accepts r = true ↔
      job.admits r = true ∧ (q.compile store stamp).evaluate r = true :=
    fun r => Bool.and_eq_true_iff
  have hpositive : 0 < s.valueCount (records.filter s.accepts) value ↔
      ∃ r ∈ records, s.accepts r = true ∧ (s.countsFor value r = true ∨
        value = noneMarker ∧ s.noOther.evaluate r = true) := by
    rw [Setup.valueCount, Nat.add_pos_iff_pos_or_pos]
    by_cases hmarker : value = noneMarker
    · simp only [hmarker, if_true, List.countP_pos_iff, List.mem_filter, true_and, and_or_left,
        exists_or, and_assoc]
    · simp only [hmarker, if_false, List.countP_pos_iff, List.mem_filter, false_and, or_false,
        lt_irrefl, and_assoc]
  rw [hpositive, Populates]
  refine exists_congr fun r => and_congr_right fun _ => ?_
  rw [haccepts, hcounts, and_assoc]
  rfl

section

variable {actions : List Session.Action} {entries : List Entry}
  (hstamp : (Session.start.run actions).stamp + 1 < 2 ^ 64)
  (hentries : ∀ e ∈ entries, ∃ source ∈ (Session.start.run actions).stores,
    e ∈ source.entries)
  (q : SearchQuery) (job : Classifier) (store : RecordStore) (generation stamp : ℕ)

include hstamp hentries

/-- A full count populates two buckets exactly if its records do. -/
theorem one_lt_populated_visitEach (hexact : job.stopEarly = false) (places : Places) :
    1 < ((job.setup q store generation (Session.start.run actions).stamp).visitEach
        (.start (store.hierarchy.groupMap job.category)) entries places).1.populated ↔
      Several (job.Populates q store generation stamp
        (Setup.recordsAt (entries.map (·.record)) places)) := by
  have hapart := Setup.apart_setup job q store generation hstamp
  have hfits := fits_session actions hstamp hentries q job store generation
  have hcounts := (Setup.counts_start
    (job.setup q store generation (Session.start.run actions).stamp)
    (store.hierarchy.groupMap job.category)).foldl
      ((Setup.recordsAt (entries.map (·.record)) places).filter
        (job.setup q store generation (Session.start.run actions).stamp).accepts)
  rw [Setup.visitEach_fst hexact hapart hfits,
    hcounts.one_lt_populated_iff (Setup.tallied_foldl (Tally.tallied_start _) _)]
  simp only [List.nil_append, valueCount_pos_iff job q store generation stamp]

/-- Where a count stops early. -/
theorem exists_run_eq_take (places : Places) :
    let run := fun stopEarly places => ({ job with stopEarly } : Classifier).run q store
      generation (Session.start.run actions).stamp entries places
    let populates := fun places => job.Populates q store generation stamp
      (Setup.recordsAt (entries.map (·.record)) places)
    ∃ k ≤ places.length, (∀ j < k, ¬Several (populates (places.take j))) ∧
      (Several (populates (places.take k)) ∨ k = places.length) ∧
      run true places = run false (places.take k) := by
  intro run populates
  let s := ({ job with stopEarly := true } : Classifier).setup q store generation
    (Session.start.run actions).stamp
  let t := Tally.start (store.hierarchy.groupMap job.category)
  have hpopulated : ∀ places,
      1 < (s.throughout.visitEach t entries places).1.populated ↔
        Several (populates places) :=
    one_lt_populated_visitEach hstamp hentries q { job with stopEarly := false } store
      generation stamp rfl
  obtain ⟨k, hk, hsame⟩ : ∃ k, s.StopsAfter t entries places k ∧
      s.visitEach t entries places = s.throughout.visitEach t entries (places.take k) :=
    Setup.visitEach_eq_take rfl (Nat.zero_le 1) entries places
  refine ⟨k, hk.le_length, fun j hj => ?_, ?_, ?_⟩
  · rw [← hpopulated]
    exact Nat.not_lt.mpr (hk.before j hj)
  · rw [← hpopulated]
    exact hk.enough
  · exact congrArg (fun after : Tally × List Entry => (after.1.result, after.2)) hsame

/-- A bucket that is populated is shown to hold something. -/
theorem countOf_pos_of_populates (hexact : job.stopEarly = false) {places : Places}
    {value : String} (hpopulates : job.Populates q store generation stamp
      (Setup.recordsAt (entries.map (·.record)) places) value) :
    0 < (job.run q store generation (Session.start.run actions).stamp entries
      places).1.countOf value := by
  obtain ⟨t, hrun, hcounts⟩ :=
    exists_counts_run actions hstamp hentries q job hexact store generation places
  rw [hrun, hcounts.countOf_pos_iff]
  exact Or.inr ((valueCount_pos_iff job q store generation stamp _ _ value).mpr hpopulates)

/-- A full count of the first places shows no more than that of all, apart from the marker
where a group bears its name. -/
theorem countOf_take (hexact : job.stopEarly = false) (places : Places) (k : ℕ)
    (value : String) :
    let countOf := fun places => (job.run q store generation
      (Session.start.run actions).stamp entries places).1.countOf value
    (0 < countOf (places.take k) → 0 < countOf places) ∧
      ((value = noneMarker → noneMarker ∉ store.hierarchy.groupMap job.category) →
        countOf (places.take k) ≤ countOf places) := by
  intro countOf
  obtain ⟨part, hpart, hpartCounts⟩ := exists_counts_run actions hstamp hentries q job
    hexact store generation (places.take k)
  obtain ⟨whole, hwhole, hwholeCounts⟩ := exists_counts_run actions hstamp hentries q job
    hexact store generation places
  have hsub := ((List.take_sublist k places).filterMap
    ((entries.map (·.record))[·]?)).filter
      (job.setup q store generation (Session.start.run actions).stamp).accepts
  simp only [countOf, hpart, hwhole]
  exact ⟨hpartCounts.countOf_pos_mono hwholeCounts hsub,
    hpartCounts.countOf_mono hwholeCounts hsub⟩

end

/-- A count that stops early is the full count of the shortest part of the records that
populates two buckets of values or of the marker, or of all records if these do not.
It shows two buckets that hold something exactly if the full count of all records does,
and no greater number than that, except for the marker where a group bears its name. -/
theorem stopping_early_is_exact (actions : List Session.Action) {entries : List Entry}
    (hstamp : (Session.start.run actions).stamp + 1 < 2 ^ 64)
    (hentries : ∀ e ∈ entries, ∃ source ∈ (Session.start.run actions).stores,
      e ∈ source.entries) (q : SearchQuery) (job : Classifier) (store : RecordStore)
    (generation stamp : ℕ) (places : Places) :
    let run := fun stopEarly places => ({ job with stopEarly } : Classifier).run q store
      generation (Session.start.run actions).stamp entries places
    let populates := fun places => job.Populates q store generation stamp
      (Setup.recordsAt (entries.map (·.record)) places)
    (∃ k ≤ places.length, (∀ j < k, ¬Several (populates (places.take j))) ∧
        (Several (populates (places.take k)) ∨ k = places.length) ∧
        run true places = run false (places.take k)) ∧
      ((Several fun value => 0 < (run true places).1.countOf value) ↔
        Several fun value => 0 < (run false places).1.countOf value) ∧
      ∀ value : String,
        (value = noneMarker → noneMarker ∉ store.hierarchy.groupMap job.category) →
          (run true places).1.countOf value ≤ (run false places).1.countOf value := by
  intro run populates
  obtain ⟨k, hk, hbefore, henough, hsame⟩ :=
    exists_run_eq_take hstamp hentries q job store generation stamp places
  have hgrows := countOf_take hstamp hentries q { job with stopEarly := false } store
    generation rfl places k
  have hrun : run true places = run false (places.take k) := hsame
  refine ⟨⟨k, hk, hbefore, henough, hsame⟩, ⟨fun h => ?_, fun h => ?_⟩, ?_⟩
  · rw [hrun] at h
    exact h.imp fun value => (hgrows value).1
  · rcases henough with hseveral | rfl
    · rw [hrun]
      exact hseveral.imp fun value =>
        countOf_pos_of_populates hstamp hentries q { job with stopEarly := false } store
          generation stamp rfl
    · rw [hrun, List.take_length]
      exact h
  · intro value hmarker
    rw [hrun]
    exact (hgrows value).2 hmarker

/-- The third of three records is not counted by a browser that only asks for a choice. -/
theorem stopping_early_is_exact_of_choice :
    let fixture : Fixture :=
      { records := [Record.addTag { fileName := "a.jpg" } "People" "Anne",
          .addTag { fileName := "b.jpg" } "People" "Jim",
          .addTag { fileName := "c.jpg" } "People" "Anne"]
        groups := (∅ : GroupTables).insert "People" ((∅ : TagTable).insert "Family" {"Anne"}) }
    let session := Session.start.run [.openStore fixture]
    let run := fun stopEarly => ({ category := "People", stopEarly } : Classifier).run
      (.new 1) (fixture.store 1) 2 session.stamp (fixture.store 1).entries [0, 1, 2]
    session.stamp + 1 < 2 ^ 64 ∧
      (∀ e ∈ (fixture.store 1).entries, ∃ source ∈ session.stores, e ∈ source.entries) ∧
      noneMarker ∉ (fixture.store 1).hierarchy.groupMap "People" ∧
      (Several fun value => 0 < (run true).1.countOf value) ∧
      (run true).1.countOf "Family" = 1 ∧ (run false).1.countOf "Family" = 2 ∧
      (run true).1.countOf noneMarker ≤ (run false).1.countOf noneMarker := by
  intro fixture session run
  have hstamp : session.stamp + 1 < 2 ^ 64 := by decide
  have hentries : ∀ e ∈ (fixture.store 1).entries,
      ∃ source ∈ session.stores, e ∈ source.entries :=
    fun e he => ⟨fixture.store 1, List.mem_singleton_self _, he⟩
  have hgroup : noneMarker ∉ (fixture.store 1).hierarchy.groupMap "People" := by
    decide +kernel
  obtain ⟨-, hseveral, hle⟩ := stopping_early_is_exact [.openStore fixture] hstamp hentries
    (.new 1) { category := "People" } (fixture.store 1) 2 9 [0, 1, 2]
  refine ⟨hstamp, hentries, hgroup, hseveral.mpr ?_, ?_, ?_, hle noneMarker fun _ => hgroup⟩
  · exact ⟨"Anne", "Jim", by decide, by decide +kernel, by decide +kernel⟩
  · decide +kernel
  · decide +kernel

/-- A group with the marker's name takes the place of the marker's bucket once a record
counts for it.  That record is not reached here by the count that stops early. -/
theorem stopping_early_exceeds_of_marker_group :
    let fixture : Fixture :=
      { records := [{ fileName := "a.jpg" }, { fileName := "b.jpg" },
          Record.addTag { fileName := "c.jpg" } "People" "B",
          .addTag { fileName := "d.jpg" } "People" "A"]
        groups := (∅ : GroupTables).insert "People" ((∅ : TagTable).insert noneMarker {"A"}) }
    let session := Session.start.run [.openStore fixture]
    let run := fun stopEarly => ({ category := "People", stopEarly } : Classifier).run
      (.new 1) (fixture.store 1) 2 session.stamp (fixture.store 1).entries [0, 1, 2, 3]
    (run false).1.countOf noneMarker < (run true).1.countOf noneMarker := by
  decide +kernel

end Classifier

end TagQuery
