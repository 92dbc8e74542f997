import Mathlib.Algebra.Group.Nat.Defs
import TagQuery.MatchCache

/-!
# What a match cache remembers

Stamp and answer share a word, so a stamp is only kept whole if it fits in the
upper 63 bits.  The exact statement is `MatchCache.get?_set`.  Numbers below
`2 ^ 63` are told apart, and a cache never answers for a stamp that was not drawn
yet.
-/

namespace TagQuery

namespace MatchCache

theorem get?_empty (stamp : UInt64) : empty.get? stamp = none := by
  simp [get?]

/-- The stamp loses its top bit, and the answer takes the lowest one. -/
theorem toNat_slot_set (stamp : UInt64) (matched : Bool) :
    (set stamp matched).slot.toNat =
      2 * (stamp.toNat % 2 ^ 63) + matched.toNat := by
  have hshift : (stamp <<< 1).toNat = 2 * (stamp.toNat % 2 ^ 63) := by
    simp [UInt64.toNat_shiftLeft, Nat.shiftLeft_eq]
    omega
  cases matched with
  | false => simp [set, hshift]
  | true =>
      have hor := Nat.shiftLeft_add_eq_or_of_lt (i := 1) (b := 1) (by decide)
        (stamp.toNat % 2 ^ 63)
      rw [Nat.shiftLeft_eq] at hor
      simp only [set, if_true, UInt64.toNat_or, hshift, Bool.toNat_true]
      simpa [Nat.mul_comm] using hor.symm

theorem slot_eq_empty_iff (cache : MatchCache) :
    cache.slot = empty.slot ↔ cache.slot.toNat = 2 ^ 64 - 1 := by
  rw [← UInt64.toNat_inj]
  rfl

/-- A cache answers for the stamp without its top bit, unless the word is the
one that stands for nothing. -/
theorem get?_set (stamp other : UInt64) (matched : Bool) :
    (set stamp matched).get? other =
      if other.toNat = stamp.toNat % 2 ^ 63 ∧
          ¬(other.toNat = 2 ^ 63 - 1 ∧ matched) then
        some matched
      else none := by
  have hslot := toNat_slot_set stamp matched
  have hstamp : (set stamp matched).slot >>> 1 = other ↔
      other.toNat = stamp.toNat % 2 ^ 63 := by
    rw [← UInt64.toNat_inj, UInt64.toNat_shiftRight, hslot]
    cases matched <;> simp [Nat.shiftRight_eq_div_pow] <;> omega
  have hanswer : ((set stamp matched).slot &&& 1 == 1) = matched := by
    rw [Bool.eq_iff_iff, beq_iff_eq, ← UInt64.toNat_inj, UInt64.toNat_and, hslot]
    cases matched <;> simp
  have hempty : (set stamp matched).slot = empty.slot ↔
      stamp.toNat % 2 ^ 63 = 2 ^ 63 - 1 ∧ matched := by
    rw [slot_eq_empty_iff, hslot]
    cases matched <;> simp <;> omega
  simp only [get?, hanswer, hempty, ne_eq, hstamp]
  by_cases h : other.toNat = stamp.toNat % 2 ^ 63
  · cases matched <;> simp [h]
  · rw [if_pos (Or.inr h), if_neg fun hsame => h hsame.1]

theorem toNat_toUInt64 {stamp : ℕ} (hstamp : stamp < 2 ^ 64) :
    stamp.toUInt64.toNat = stamp := by
  rw [Nat.toUInt64_eq, UInt64.toNat_ofNat']
  exact Nat.mod_eq_of_lt hstamp

/-- Stamps that fit are told apart. -/
theorem get?_set_toUInt64 {stamp other : ℕ} {matched answer : Bool}
    (hstamp : stamp < 2 ^ 63) (hother : other < 2 ^ 64)
    (hget : (set stamp.toUInt64 matched).get? other.toUInt64 = some answer) :
    other = stamp ∧ answer = matched := by
  have hself : stamp.toUInt64.toNat = stamp := toNat_toUInt64 (by omega)
  rw [get?_set, hself, toNat_toUInt64 hother, Nat.mod_eq_of_lt hstamp] at hget
  by_cases h : other = stamp ∧ ¬(other = 2 ^ 63 - 1 ∧ matched)
  · rw [if_pos h] at hget
    exact ⟨h.1, (Option.some.inj hget).symm⟩
  · rw [if_neg h] at hget
    contradiction

/-- Nothing is remembered, or an answer under a stamp below the bound. -/
def Before (cache : MatchCache) (bound : ℕ) : Prop :=
  cache = empty ∨
    ∃ stamp < bound, ∃ matched, cache = set stamp.toUInt64 matched

theorem before_empty (bound : ℕ) : empty.Before bound :=
  Or.inl rfl

theorem before_set {stamp bound : ℕ} (hstamp : stamp < bound) (matched : Bool) :
    (set stamp.toUInt64 matched).Before bound :=
  Or.inr ⟨stamp, hstamp, matched, rfl⟩

theorem Before.mono {cache : MatchCache} {bound bound' : ℕ}
    (h : cache.Before bound) (hle : bound ≤ bound') : cache.Before bound' := by
  rcases h with rfl | ⟨stamp, hstamp, matched, rfl⟩
  · exact before_empty bound'
  · exact before_set (Nat.lt_of_lt_of_le hstamp hle) matched

/-- A stamp from the bound on is not answered for.  It need not fit, since a stamp
that lost its top bit is smaller. -/
theorem Before.get?_eq_none {cache : MatchCache} {bound stamp : ℕ}
    (h : cache.Before bound) (hle : bound ≤ stamp) (hstamp : stamp < 2 ^ 64) :
    cache.get? stamp.toUInt64 = none := by
  rcases h with rfl | ⟨known, hknown, matched, rfl⟩
  · exact get?_empty _
  · have hother := toNat_toUInt64 hstamp
    have hsmaller : known.toUInt64.toNat % 2 ^ 63 ≤ known := by
      rw [Nat.toUInt64_eq, UInt64.toNat_ofNat']
      omega
    rw [get?_set, if_neg]
    rintro ⟨heq, -⟩
    omega

end MatchCache

end TagQuery
