import Mathlib.Order.Defs.LinearOrder
import Mathlib.Tactic.Common
import TagQuery.Timestamp

/-!
# The order of timestamps

Timestamps are in one order: by the second, and then within it.
-/

namespace TagQuery

namespace Timestamp

theorem le_iff {a b : Timestamp} :
    a ≤ b ↔ a.second < b.second ∨ a.second = b.second ∧ a.nano ≤ b.nano :=
  Iff.rfl

instance : LinearOrder Timestamp where
  le_refl a := le_iff.mpr (Or.inr ⟨rfl, Nat.le_refl _⟩)
  le_trans a b c := by
    simp only [le_iff]
    omega
  le_antisymm a b := by
    simp only [le_iff]
    intro hab hba
    obtain ⟨second, nano, _, _, _⟩ := a
    obtain ⟨second', nano', _, _, _⟩ := b
    have hsecond : second = second' := by dsimp only at hab hba; omega
    have hnano : nano = nano' := by dsimp only at hab hba; omega
    subst hsecond hnano
    rfl
  le_total a b := by
    simp only [le_iff]
    omega
  lt_iff_le_not_ge a b := by
    refine ⟨fun h => ⟨?_, h⟩, fun h => h.2⟩
    have hnot : ¬b ≤ a := h
    rw [le_iff] at hnot ⊢
    omega
  toDecidableLE := inferInstance
  min_def _ _ := rfl
  max_def _ _ := rfl

end Timestamp

end TagQuery
