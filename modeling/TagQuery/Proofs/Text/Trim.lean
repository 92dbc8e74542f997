import Mathlib.Data.List.Infix
import Mathlib.Data.List.TakeWhile
import Mathlib.Tactic.Common
import TagQuery.Text.Blank

/-!
# Texts without blank ends

Trimming takes blanks from both ends of a text and nothing else: the text is what is left
between two stretches of blanks, and does not end with one itself.
-/

namespace TagQuery.Text

variable {text : List Char}

/-! ## What is taken away -/

/-- A text is what is left of it between two stretches of blanks. -/
theorem exists_eq_append_trim (text : List Char) :
    ∃ front back, text = front ++ (trim text ++ back) ∧
      (∀ c ∈ front, isBlank c = true) ∧ ∀ c ∈ back, isBlank c = true := by
  refine ⟨text.takeWhile isBlank, ((trimStart text).reverse.takeWhile isBlank).reverse,
    ?_, ?_, ?_⟩
  · have hend : trim text ++ ((trimStart text).reverse.takeWhile isBlank).reverse =
        trimStart text := by
      rw [trim, trimEnd, ← List.reverse_append, List.takeWhile_append_dropWhile,
        List.reverse_reverse]
    rw [hend, trimStart, List.takeWhile_append_dropWhile]
  · intro c hc
    exact List.mem_takeWhile_imp hc
  · intro c hc
    exact List.mem_takeWhile_imp (List.mem_reverse.mp hc)

theorem length_trim_le (text : List Char) : (trim text).length ≤ text.length := by
  obtain ⟨front, back, htext, -, -⟩ := exists_eq_append_trim text
  have hlength := congrArg List.length htext
  simp only [List.length_append] at hlength
  omega

theorem trimEnd_eq_nil_iff : trimEnd text = [] ↔ ∀ c ∈ text, isBlank c = true := by
  rw [trimEnd, List.reverse_eq_nil_iff, List.dropWhile_eq_nil_iff]
  simp only [List.mem_reverse]

/-- Nothing is left of blanks, and only of these. -/
theorem trim_eq_nil_iff : trim text = [] ↔ ∀ c ∈ text, isBlank c = true := by
  constructor
  · intro htrim
    obtain ⟨front, back, htext, hfront, hback⟩ := exists_eq_append_trim text
    rw [htrim, List.nil_append] at htext
    intro c hc
    rw [htext, List.mem_append] at hc
    exact hc.elim (hfront c) (hback c)
  · intro hblank
    rw [trim, trimEnd_eq_nil_iff]
    intro c hc
    exact hblank c (List.dropWhile_subset _ hc)

/-- Blanks that are taken from the front before do not matter. -/
theorem trim_dropWhile {kind : Char → Bool} (hkind : ∀ c, kind c = true → isBlank c = true)
    (text : List Char) : trim (text.dropWhile kind) = trim text := by
  have hstart : trimStart (text.dropWhile kind) = trimStart text := by
    induction text with
    | nil => rfl
    | cons c text ih =>
        by_cases hc : kind c = true
        · rw [List.dropWhile_cons_of_pos hc, ih, trimStart, trimStart,
            List.dropWhile_cons_of_pos (hkind c hc)]
        · rw [List.dropWhile_cons_of_neg hc]
  rw [trim, trim, hstart]

/-- Blanks in front of a text are taken away with those that it begins with. -/
theorem trim_append_left {front : List Char} (hfront : ∀ c ∈ front, isBlank c = true)
    (text : List Char) : trim (front ++ text) = trim text := by
  rw [trim, trimStart, List.dropWhile_append_of_pos hfront, trim, trimStart]

/-- Blanks behind a text are taken away with those that it ends with. -/
theorem trim_append_right {back : List Char} (hback : ∀ c ∈ back, isBlank c = true)
    (text : List Char) : trim (text ++ back) = trim text := by
  by_cases hblank : ∀ c ∈ text, isBlank c = true
  · rw [trim_append_left hblank, trim_eq_nil_iff.mpr hback, trim_eq_nil_iff.mpr hblank]
  · have hstart : trimStart (text ++ back) = trimStart text ++ back := by
      rw [trimStart, List.dropWhile_append, if_neg, trimStart]
      rwa [List.isEmpty_iff, List.dropWhile_eq_nil_iff]
    have hreverse : ∀ c ∈ back.reverse, isBlank c = true :=
      fun c hc => hback c (List.mem_reverse.mp hc)
    rw [trim, hstart, trimEnd, List.reverse_append, List.dropWhile_append_of_pos hreverse, trim,
      trimEnd]

/-! ## What is left -/

theorem trimEnd_cons_of_not_blank {c : Char} (hc : isBlank c = false) (text : List Char) :
    trimEnd (c :: text) = c :: trimEnd text := by
  have hlast : [c].dropWhile isBlank = [c] :=
    List.dropWhile_cons_of_neg (Bool.eq_false_iff.mp hc)
  rw [trimEnd, List.reverse_cons, List.dropWhile_append]
  split
  next hnone =>
    rw [List.isEmpty_iff] at hnone
    rw [hlast, trimEnd, hnone]
    rfl
  next => rw [List.reverse_append, List.reverse_singleton, List.singleton_append, trimEnd]

theorem trim_cons_of_not_blank {c : Char} (hc : isBlank c = false) (text : List Char) :
    trim (c :: text) = c :: trimEnd text := by
  rw [trim, trimStart, List.dropWhile_cons_of_neg (Bool.eq_false_iff.mp hc),
    trimEnd_cons_of_not_blank hc]

/-- What is left does not end with a blank. -/
theorem isBlank_of_mem_getLast?_trim {c : Char} (hc : c ∈ (trim text).getLast?) :
    isBlank c = false := by
  rw [trim, trimEnd, List.getLast?_reverse] at hc
  have hnot := List.head?_dropWhile_not isBlank (trimStart text).reverse
  rw [hc] at hnot
  simpa using hnot

end TagQuery.Text
