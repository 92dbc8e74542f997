import TagQuery.Classification
import TagQuery.Proofs.Query.Matching

/-!
# Caches during a classification

A classification asks two compiled queries about the records it looks at, and
does nothing else to them.  Each displaces what the other has written, but neither
takes the other's answers for its own.
-/

namespace TagQuery

namespace Classifier.Setup

/-- The compiled query is one of the two that a classification asks. -/
def Asks (s : Setup) (c : CompiledQuery) : Prop :=
  c = s.base ∨ c = s.noOther

theorem rewritten_visit (s : Setup) (t : Tally) (e : Entry) :
    e.Rewritten s.Asks (s.visit t e).2 := by
  have hbase := (CompiledQuery.leaves_matchEntry s.base e).rewritten
    (P := s.Asks) (Or.inl rfl)
  unfold visit
  split
  · exact Entry.Rewritten.refl _ e
  · split
    next after hmatch =>
      rw [hmatch] at hbase
      exact hbase
    next after hmatch =>
      rw [hmatch] at hbase
      exact hbase.trans
        ((CompiledQuery.leaves_matchEntry s.noOther after).rewritten (Or.inr rfl))

theorem rewritten_visitEach (s : Setup) (t : Tally) (entries : List Entry)
    (places : Places) :
    List.Forall₂ (Entry.Rewritten s.Asks) entries (s.visitEach t entries places).2 := by
  induction places generalizing t entries with
  | nil => exact Entry.rewritten_refl _ _
  | cons place places ih =>
      unfold visitEach
      split
      next => exact ih t entries
      next e he =>
        have hset := forall₂_set (Entry.Rewritten.refl s.Asks) he (rewritten_visit s t e)
        dsimp only
        split
        · exact hset
        · exact forall₂_trans (fun _ _ _ => Entry.Rewritten.trans) hset (ih _ _)

/-! ## Answers -/

/-- A cache contradicts neither of the compiled queries. -/
def Fits (s : Setup) (e : Entry) : Prop :=
  s.base.Agrees e ∧ s.noOther.Agrees e

/-- Neither compiled query answers for the other. -/
def Apart (s : Setup) : Prop :=
  s.base.stamp.toUInt64.toNat ≠ s.noOther.stamp.toUInt64.toNat % 2 ^ 63 ∧
    s.noOther.stamp.toUInt64.toNat ≠ s.base.stamp.toUInt64.toNat % 2 ^ 63

theorem apart_setup (job : Classifier) (q : SearchQuery) (store : RecordStore)
    (generation : ℕ) {stamp : ℕ} (hstamp : stamp + 1 < 2 ^ 64) :
    (job.setup q store generation stamp).Apart := by
  have hbase : stamp.toUInt64.toNat = stamp :=
    MatchCache.toNat_toUInt64 (by omega)
  have hnoOther := MatchCache.toNat_toUInt64 hstamp
  simp only [Apart, setup, SearchQuery.compile, hbase, hnoOther]
  omega

/-- Nothing is remembered yet under the stamps of a classification. -/
theorem fits_of_before (job : Classifier) (q : SearchQuery) (store : RecordStore)
    (generation : ℕ) {stamp : ℕ} (hstamp : stamp + 1 < 2 ^ 64) {e : Entry}
    (he : e.cache.Before stamp) : (job.setup q store generation stamp).Fits e := by
  constructor
  · intro known hknown
    have hnone := he.get?_eq_none (Nat.le_refl stamp) (by omega)
    exact absurd (hnone.symm.trans hknown) (by simp)
  · intro known hknown
    have hnone := he.get?_eq_none (Nat.le_succ stamp) hstamp
    exact absurd (hnone.symm.trans hknown) (by simp)

variable {s : Setup} {e : Entry}

theorem Fits.matchBase (h : s.Fits e) (hs : s.Apart) : s.Fits (s.base.matchEntry e).2 :=
  have hleaves := s.base.leaves_matchEntry e
  ⟨h.1.leaves hleaves, h.2.leaves_other hleaves hs.2⟩

theorem Fits.matchNoOther (h : s.Fits e) (hs : s.Apart) :
    s.Fits (s.noOther.matchEntry e).2 :=
  have hleaves := s.noOther.leaves_matchEntry e
  ⟨h.1.leaves_other hleaves hs.1, h.2.leaves hleaves⟩

end Classifier.Setup

theorem Classifier.rewritten_run (job : Classifier) (q : SearchQuery)
    (store : RecordStore) (generation stamp : ℕ) (entries : List Entry)
    (places : Places) :
    List.Forall₂ (Entry.Rewritten (job.setup q store generation stamp).Asks) entries
      (job.run q store generation stamp entries places).2 :=
  Setup.rewritten_visitEach _ _ entries places

/-- Images and videos are counted by four compiled queries in all. -/
theorem Overview.rewritten_ofStore {P : CompiledQuery → Prop} (q : SearchQuery)
    (category : String) (store : RecordStore) (generation stamp : ℕ)
    (himages : ∀ c, (Classifier.setup { category, media := .images } q store
      generation stamp).Asks c → P c)
    (hvideos : ∀ c, (Classifier.setup { category, media := .videos } q store
      (generation + 1) (stamp + 2)).Asks c → P c) :
    List.Forall₂ (Entry.Rewritten P) store.entries
      (ofStore q category store generation stamp).2 :=
  forall₂_trans (fun _ _ _ => Entry.Rewritten.trans)
    ((Classifier.rewritten_run _ q store generation stamp store.entries _).imp
      fun _ _ he => he.mono himages)
    ((Classifier.rewritten_run _ q store (generation + 1) (stamp + 2) _ _).imp
      fun _ _ he => he.mono hvideos)

end TagQuery
