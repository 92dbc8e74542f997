import TagQuery.Proofs.Classification.Counts
import TagQuery.Proofs.Query.CategoryRenames

/-!
# Classifications after a rename

Where a category has moved to an unused name, a classification by a query that was
renamed as well takes up the same records, and each of them counts for the same values and
groups of what its category has become.
-/

namespace TagQuery

variable {old new category : String} {store store' : RecordStore} {q q' : SearchQuery}

/-! ## Match texts -/

namespace SearchQuery

/-- A text is set in what its category has become. -/
theorem setText_moveKey {texts : TextTable} (hnew : new ∈ texts → old = new)
    (hname : category = new → old = new) (value : String) :
    setText (moveKey texts old new) (renamed old new category) value =
      moveKey (setText texts category value) old new := by
  refine Std.ExtTreeMap.ext_getElem? fun k => ?_
  unfold setText renamed
  split
  next =>
    simp only [Hierarchy.getElem?_moveKey, Std.ExtTreeMap.getElem?_erase,
      Std.ExtTreeMap.mem_erase, Std.LawfulEqCmp.compare_eq_iff_eq]
    grind
  next =>
    simp only [Hierarchy.getElem?_moveKey, Std.ExtTreeMap.getElem?_insert,
      Std.ExtTreeMap.mem_insert, Std.LawfulEqCmp.compare_eq_iff_eq]
    grind

/-- No text is set in an unused category but in what is renamed to it. -/
theorem mem_setText {texts : TextTable} {value : String} (h : new ∈ setText texts category value) :
    category = new ∨ new ∈ texts := by
  rw [Std.ExtTreeMap.mem_iff_isSome_getElem?, getElem?_setText] at h
  split at h
  next hname => exact Or.inl hname
  next => exact Or.inr (Std.ExtTreeMap.mem_iff_isSome_getElem?.mpr h)

end SearchQuery

/-! ## Records that count -/

namespace Classifier

/-- The same classification over what its category has become. -/
def renamed (job : Classifier) (old new : String) : Classifier :=
  { job with category := TagQuery.renamed old new job.category }

variable {job : Classifier} {r : Record}

theorem admits_renamed (job : Classifier) (r : Record) :
    (job.renamed old new).admits (r.renameCategory old new) = job.admits r := by
  obtain ⟨tags, htags⟩ := r.renameCategory_eq old new
  rw [htags]
  rfl

/-- The queries for no other value are renamed as their queries were. -/
theorem moved_noOtherQuery (hq : q.Moved q' old new) (hname : job.category = new → old = new)
    (generation generation' : ℕ) :
    (job.noOtherQuery q generation).Moved
      ((job.renamed old new).noOtherQuery q' generation') old new where
  filters := hq.filters
  texts := by
    have htext : (job.renamed old new).noOtherText q' = job.noOtherText q := by
      rw [noOtherText, hq.texts, renamed, getElem?_moveKey_eq hq.unused hname, noOtherText]
    rw [noOtherQuery, noOtherQuery, htext, hq.texts]
    exact SearchQuery.setText_moveKey hq.unused hname _
  unused := by
    intro hmem
    rcases SearchQuery.mem_setText hmem with hcategory | hmem
    · exact hname hcategory
    · exact hq.unused hmem

theorem alreadyMatched_renamed (hq : q.Moved q' old new)
    (hname : job.category = new → old = new) :
    q'.alreadyMatched (job.renamed old new).category = q.alreadyMatched job.category := by
  rw [SearchQuery.alreadyMatched, hq.texts, renamed, getElem?_moveKey_eq hq.unused hname,
    SearchQuery.alreadyMatched]

section Setup

variable (hq : q.Moved q' old new) (hmoved : store.Moved store' old new)
  (hunused : store.Unused new) (hsound : store.hierarchy.Sound)
  (generation generation' stamp stamp' : ℕ)

include hq hmoved hunused hsound

theorem accepts_setup_renamed (hr : r ∈ store.records) :
    ((job.renamed old new).setup q' store' generation' stamp').accepts
        (r.renameCategory old new) =
      (job.setup q store generation stamp).accepts r := by
  have hbase := hq.evaluate_eq hmoved hunused hsound hr stamp stamp'
  simp only [Setup.accepts, setup, admits_renamed, hbase]

variable (hname : job.category = new → old = new)

include hname

/-- A record counts for the same after the rename. -/
theorem countRecord_setup_renamed (hr : r ∈ store.records) (t : Tally) :
    ((job.renamed old new).setup q' store' generation' stamp').countRecord t
        (r.renameCategory old new) =
      (job.setup q store generation stamp).countRecord t r := by
  have htags : (r.renameCategory old new).tagsOf (job.renamed old new).category =
      r.tagsOf job.category := hunused.tagsOf_renameCategory hname hr
  have hdate : (r.renameCategory old new).date = r.date := by
    obtain ⟨tags, htags⟩ := r.renameCategory_eq old new
    rw [htags]
  have hvalues : ((job.renamed old new).setup q' store' generation' stamp').countValues t
      (r.renameCategory old new) = (job.setup q store generation stamp).countValues t r := by
    unfold Setup.countValues setup
    dsimp only
    rw [htags, hdate, alreadyMatched_renamed hq hname]
  have halone : ((job.renamed old new).setup q' store' generation' stamp').noOther.evaluate
      (r.renameCategory old new) =
        (job.setup q store generation stamp).noOther.evaluate r :=
    (moved_noOtherQuery hq hname generation generation').evaluate_eq hmoved hunused hsound hr
      _ _
  rw [Setup.countRecord, halone, hvalues, hdate, Setup.countRecord]

/-- The tallies of the records at some places are the same before and after the rename. -/
theorem foldl_countRecord_renamed (places : Places) (t : Tally) :
    ((Setup.recordsAt store'.records places).filter
        ((job.renamed old new).setup q' store' generation' stamp').accepts).foldl
        ((job.renamed old new).setup q' store' generation' stamp').countRecord t =
      ((Setup.recordsAt store.records places).filter
        (job.setup q store generation stamp).accepts).foldl
        (job.setup q store generation stamp).countRecord t := by
  generalize hs : job.setup q store generation stamp = s
  generalize hs' : (job.renamed old new).setup q' store' generation' stamp' = s'
  have hsame : ∀ r ∈ store.records, s'.accepts (r.renameCategory old new) = s.accepts r ∧
      ∀ t, s'.countRecord t (r.renameCategory old new) = s.countRecord t r := by
    intro r hr
    rw [← hs, ← hs']
    exact ⟨accepts_setup_renamed hq hmoved hunused hsound generation generation' stamp stamp' hr,
      countRecord_setup_renamed hq hmoved hunused hsound generation generation' stamp stamp'
        hname hr⟩
  induction places generalizing t with
  | nil => simp only [Setup.recordsAt, List.filterMap_nil, List.filter_nil, List.foldl_nil]
  | cons place places ih =>
      rw [Setup.recordsAt_cons, Setup.recordsAt_cons, List.filter_append, List.foldl_append,
        List.filter_append, List.foldl_append, ih, hmoved.records, List.getElem?_map]
      cases hr : store.records[place]? with
      | none => simp
      | some r =>
          obtain ⟨haccepts, hcount⟩ := hsame r (List.mem_of_getElem? hr)
          rw [Option.map_some, Option.toList_some, Option.toList_some, List.filter_singleton,
            List.filter_singleton, haccepts]
          cases s.accepts r with
          | true => simp [hcount]
          | false => simp

end Setup

end Classifier

end TagQuery
