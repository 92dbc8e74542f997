import Mathlib.Data.List.Induction
import TagQuery.Proofs.Lists
import TagQuery.Proofs.MatchCache

/-!
# What a cache was told last

Caches are set, asked, cleared and copied in any order, under any stamps.  What one of
them holds goes back to the last time that it was set or cleared, and a copy begins with
nothing.  An answer therefore is the one given last, for a stamp that is the same but for
its top bit.
-/

namespace TagQuery.MatchCache

/-- Something that is done with one of several caches. -/
inductive Use where
  | set (place : ℕ) (stamp : UInt64) (matched : Bool)
  | get (place : ℕ) (stamp : UInt64)
  | clear (place : ℕ)
  /-- One more cache, for a copy of the record with the one at a place. -/
  | copy (place : ℕ)
  deriving DecidableEq

namespace Use

/-- The cache at a place is set or cleared. -/
def writes (place : ℕ) : Use → Bool
  | set other _ _ => other == place
  | clear other => other == place
  | _ => false

/-- All caches after a use; one at a place where nothing is changes nothing. -/
def apply (caches : List MatchCache) : Use → List MatchCache
  | set place stamp matched => caches.set place (.set stamp matched)
  | get _ _ => caches
  | clear place => caches.set place .empty
  | copy place => if place < caches.length then caches ++ [.empty] else caches

/-- All caches after some uses of new ones. -/
def run (count : ℕ) (uses : List Use) : List MatchCache :=
  uses.foldl apply (List.replicate count .empty)

/-- The last time that the cache at a place was set or cleared. -/
def lastWrite? (place : ℕ) (uses : List Use) : Option Use :=
  (uses.filter (writes place)).getLast?

variable {count place : ℕ} {uses : List Use} {use : Use} {cache : MatchCache}
  {stamp other : UInt64} {matched answer : Bool}

theorem lastWrite?_concat (place : ℕ) (uses : List Use) (use : Use) :
    lastWrite? place (uses ++ [use]) =
      if use.writes place then some use else lastWrite? place uses := by
  cases hwrites : use.writes place with
  | true => simp [lastWrite?, hwrites]
  | false => simp [lastWrite?, hwrites]

/-- Nothing is remembered, or what was set last. -/
def Told (uses : List Use) (place : ℕ) (cache : MatchCache) : Prop :=
  cache = .empty ∨ ∃ stamp matched,
    lastWrite? place uses = some (set place stamp matched) ∧ cache = .set stamp matched

theorem Told.concat_of_not_writes (h : Told uses place cache)
    (hwrites : use.writes place = false) : Told (uses ++ [use]) place cache := by
  rw [Told, lastWrite?_concat, hwrites, if_neg Bool.false_ne_true]
  exact h

/-- One use more: a cache that is not written to keeps what it holds. -/
theorem told_apply {caches : List MatchCache}
    (h : ∀ place cache, caches[place]? = some cache → Told uses place cache)
    (hcache : (use.apply caches)[place]? = some cache) :
    Told (uses ++ [use]) place cache := by
  cases use with
  | get source stamp => exact (h place cache hcache).concat_of_not_writes rfl
  | copy source =>
      rw [apply] at hcache
      split at hcache
      · rcases getElem?_concat_cases hcache with hcache | rfl
        · exact (h place cache hcache).concat_of_not_writes rfl
        · exact Or.inl rfl
      · exact (h place cache hcache).concat_of_not_writes rfl
  | set target stamp matched =>
      rcases getElem?_set_cases hcache with ⟨rfl, rfl⟩ | ⟨htarget, hcache⟩
      · refine Or.inr ⟨stamp, matched, ?_, rfl⟩
        rw [lastWrite?_concat, writes, if_pos (beq_self_eq_true target)]
      · exact (h place cache hcache).concat_of_not_writes (beq_false_of_ne htarget)
  | clear target =>
      rcases getElem?_set_cases hcache with ⟨-, rfl⟩ | ⟨htarget, hcache⟩
      · exact Or.inl rfl
      · exact (h place cache hcache).concat_of_not_writes (beq_false_of_ne htarget)

theorem told_run (count : ℕ) (uses : List Use) :
    ∀ place cache, (run count uses)[place]? = some cache → Told uses place cache := by
  induction uses using List.reverseRecOn with
  | nil =>
      intro place cache hcache
      exact Or.inl (List.eq_of_mem_replicate (List.mem_of_getElem? hcache))
  | append_singleton uses use ih =>
      intro place cache hcache
      rw [run, List.foldl_append] at hcache
      exact told_apply ih hcache

/-- An answer is the one that was set last, for a stamp that may differ in the top bit. -/
theorem exists_lastWrite?_of_get? (hcache : (run count uses)[place]? = some cache)
    (hget : cache.get? other = some answer) :
    ∃ stamp, lastWrite? place uses = some (set place stamp answer) ∧
      other.toNat = stamp.toNat % 2 ^ 63 := by
  rcases told_run count uses place cache hcache with rfl | ⟨stamp, matched, hlast, rfl⟩
  · rw [get?_empty] at hget
    contradiction
  · rw [get?_set] at hget
    split at hget
    next hsame =>
      cases hget
      exact ⟨stamp, hlast, hsame.1⟩
    next => contradiction

/-- A cache answers for a stamp only if it was last set to this answer under this stamp,
as long as the stamp that it was last set under has no top bit. -/
theorem lastWrite?_eq_of_get?
    (hfits : ∀ stamp matched, lastWrite? place uses = some (set place stamp matched) →
      stamp.toNat < 2 ^ 63)
    (hcache : (run count uses)[place]? = some cache)
    (hget : cache.get? other = some answer) :
    lastWrite? place uses = some (set place other answer) := by
  obtain ⟨stamp, hlast, hstamp⟩ := exists_lastWrite?_of_get? hcache hget
  rw [Nat.mod_eq_of_lt (hfits stamp answer hlast), UInt64.toNat_inj] at hstamp
  rw [hstamp]
  exact hlast

/-- The first cache is set once more after it was copied, and the copy is set too. -/
theorem lastWrite?_eq_of_get?_of_copy :
    let uses := [set 0 7 true, copy 0, set 1 8 false, get 1 7, set 0 8 true]
    (run 1 uses)[1]? = some (.set 8 false) ∧ (MatchCache.set 8 false).get? 8 = some false ∧
      lastWrite? 1 uses = some (set 1 8 false) := by
  intro uses
  have hfits : ∀ stamp matched, lastWrite? 1 uses = some (set 1 stamp matched) →
      stamp.toNat < 2 ^ 63 := by
    intro stamp matched hlast
    have height : lastWrite? 1 uses = some (set 1 8 false) := by decide
    rw [height] at hlast
    cases hlast
    decide
  have hcache : (run 1 uses)[1]? = some (.set 8 false) := by decide
  have hget : (MatchCache.set 8 false).get? 8 = some false := by decide
  exact ⟨hcache, hget, lastWrite?_eq_of_get? hfits hcache hget⟩

/-- The top bit of a stamp is lost, so that two stamps are taken for one. -/
theorem get?_answers_for_other_stamp :
    let uses := [set 0 0x8000000000000005 true]
    ((run 1 uses)[0]?.bind (·.get? 5)) = some true ∧
      lastWrite? 0 uses ≠ some (set 0 5 true) := by
  decide

end Use

end TagQuery.MatchCache
