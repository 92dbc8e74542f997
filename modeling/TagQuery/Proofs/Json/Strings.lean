import Mathlib.Tactic.Common
import TagQuery.Json
import TagQuery.Json.Reader

/-!
# Lists of strings that are written and read back

A string is written with every character that could be taken for its end, for an escape
or for no character at all written as an escape, so that a reader finds the characters
that were written, whatever they are.  The same then holds of a list of strings.
-/

namespace TagQuery.Json

variable {sofar rest : List Char} {fuel : ℕ}

/-! ## Characters -/

theorem hexNumber?_hexDigit :
    ∀ n < 0x20, Text.hexNumber? ['0', '0', hexDigit (n / 16), hexDigit (n % 16)] = some n := by
  decide

/-- A control character is read back from its code. -/
theorem codeEscape_hexDigit {c : Char} (hc : c.toNat < 0x20) (rest : List Char) :
    codeEscape ('0' :: '0' :: hexDigit (c.toNat / 16) :: hexDigit (c.toNat % 16) :: rest) =
      .ok (c, rest) := by
  have hunit : hexUnit ('0' :: '0' :: hexDigit (c.toNat / 16) :: hexDigit (c.toNat % 16) ::
      rest) = .ok (c.toNat, rest) := by
    rw [hexUnit, hexNumber?_hexDigit c.toNat hc]
  have hhigh : (decide (0xdc00 ≤ c.toNat) && decide (c.toNat < 0xe000)) = false := by
    simp only [Bool.and_eq_false_iff, decide_eq_false_iff_not]
    omega
  have hlow : (decide (c.toNat < 0xd800) || decide (0xe000 ≤ c.toNat)) = true := by
    simp only [Bool.or_eq_true, decide_eq_true_eq]
    omega
  rw [codeEscape, hunit]
  simp only [Except.bind, bind, hhigh, hlow, if_true]
  simp [pure, Except.pure, Char.ofNat_toNat]

/-- A character is written with a letter of its own, by its code, or as it is. -/
theorem escapedChar_cases (c : Char) :
    (∃ letter, letter ≠ 'u' ∧ shortEscape? letter = some c ∧ escapedChar c = ['\\', letter]) ∨
      (c.toNat < 0x20 ∧ escapedChar c =
        ['\\', 'u', '0', '0', hexDigit (c.toNat / 16), hexDigit (c.toNat % 16)]) ∨
      (c ≠ '"' ∧ c ≠ '\\' ∧ ¬c.toNat < 0x20 ∧ escapedChar c = [c]) := by
  by_cases hshort : c ∈ ['"', '\\', '\x08', '\x0c', '\n', '\r', '\t']
  · refine Or.inl ?_
    simp only [List.mem_cons, List.not_mem_nil, or_false] at hshort
    rcases hshort with rfl | rfl | rfl | rfl | rfl | rfl | rfl
    · exact ⟨'"', by decide, rfl, rfl⟩
    · exact ⟨'\\', by decide, rfl, rfl⟩
    · exact ⟨'b', by decide, rfl, rfl⟩
    · exact ⟨'f', by decide, rfl, rfl⟩
    · exact ⟨'n', by decide, rfl, rfl⟩
    · exact ⟨'r', by decide, rfl, rfl⟩
    · exact ⟨'t', by decide, rfl, rfl⟩
  · simp only [List.mem_cons, List.not_mem_nil, or_false, not_or] at hshort
    obtain ⟨hquote, hbackslash, hb, hf, hn, hr, ht⟩ := hshort
    by_cases hcontrol : c.toNat < 0x20
    · refine Or.inr (Or.inl ⟨hcontrol, ?_⟩)
      simp [escapedChar, hquote, hbackslash, hb, hf, hn, hr, ht, hcontrol]
    · refine Or.inr (Or.inr ⟨hquote, hbackslash, hcontrol, ?_⟩)
      simp [escapedChar, hquote, hbackslash, hb, hf, hn, hr, ht, hcontrol]

/-- One character is read back in one step. -/
theorem stringRest_escapedChar (c : Char) (rest : List Char) :
    stringRest sofar (fuel + 1) (escapedChar c ++ rest) = stringRest (c :: sofar) fuel rest := by
  rcases escapedChar_cases c with ⟨letter, hletter, hshort, hescaped⟩ |
    ⟨hcontrol, hescaped⟩ | ⟨hquote, hbackslash, hcontrol, hescaped⟩
  · rw [hescaped]
    simp [stringRest, hshort]
  · have hcode := codeEscape_hexDigit hcontrol rest
    rw [hescaped]
    simp [stringRest, hcode]
  · rw [hescaped]
    simp [stringRest, hquote, hbackslash, hcontrol]

theorem length_le_flatMap_escapedChar (s : List Char) :
    s.length ≤ (s.flatMap escapedChar).length := by
  induction s with
  | nil => exact Nat.le_refl 0
  | cons c s ih =>
      have hpos : 0 < (escapedChar c).length := by
        rcases escapedChar_cases c with ⟨letter, -, -, hescaped⟩ | ⟨-, hescaped⟩ |
          ⟨-, -, -, hescaped⟩
        · simp [hescaped]
        · simp [hescaped]
        · simp [hescaped]
      rw [List.flatMap_cons, List.length_append, List.length_cons]
      omega

/-! ## Strings -/

/-- The characters up to the closing quote are those that were written. -/
theorem stringRest_flatMap (s : List Char) (hfuel : s.length < fuel) :
    stringRest sofar fuel (s.flatMap escapedChar ++ '"' :: rest) =
      .ok (sofar.reverse ++ s, rest) := by
  induction s generalizing sofar fuel with
  | nil =>
      obtain ⟨fuel, rfl⟩ := Nat.exists_eq_succ_of_ne_zero (Nat.ne_of_gt hfuel)
      simp [stringRest]
  | cons c s ih =>
      obtain ⟨fuel, rfl⟩ := Nat.exists_eq_succ_of_ne_zero (Nat.ne_of_gt (Nat.zero_lt_of_lt hfuel))
      rw [List.flatMap_cons, List.append_assoc, stringRest_escapedChar,
        ih (Nat.lt_of_succ_lt_succ hfuel), List.reverse_cons, List.append_assoc,
        List.singleton_append]

namespace Reader

theorem string_stringChars (s : String) (rest : List Char) :
    string (stringChars s ++ rest) = .ok (s, rest) := by
  have hfuel : s.toList.length <
      (s.toList.flatMap escapedChar ++ '"' :: rest).length := by
    have hle := length_le_flatMap_escapedChar s.toList
    rw [List.length_append, List.length_cons]
    omega
  have hread : finishString (s.toList.flatMap escapedChar ++ '"' :: rest) = .ok (s, rest) := by
    rw [finishString, stringRest_flatMap s.toList hfuel]
    simp [bind, Except.bind, pure, Except.pure]
  have hchars : stringChars s ++ rest = '"' :: (s.toList.flatMap escapedChar ++ '"' :: rest) := by
    simp [stringChars]
  rw [hchars, string]
  simp [skipSpace, isSpace, hread]

/-! ## Lists -/

theorem scalarChars_str (s : String) : scalarChars (.str s) = stringChars s :=
  rfl

theorem chars_str (layout : Layout) (depth : ℕ) (s : String) :
    chars layout depth (.str s) = stringChars s := by
  simp only [chars, scalarChars_str]

theorem moreItems_cons (name : String) (names : List String) :
    moreItems .compact 0 ((name :: names).map .str) =
      ',' :: (stringChars name ++ moreItems .compact 0 (names.map .str)) := by
  simp [moreItems, Layout.compact, chars_str]

theorem length_lt_moreItems (names : List String) :
    names.length < (moreItems .compact 0 (names.map .str)).length := by
  induction names with
  | nil => exact Nat.zero_lt_one
  | cons name names ih =>
      rw [moreItems_cons, List.length_cons, List.length_cons, List.length_append]
      omega

/-- After an item there are the other items and the closing bracket. -/
theorem items_moreItems (names : List String) {sofar : List String} {rest : List Char}
    {fuel : ℕ} (hfuel : names.length < fuel) :
    items string false sofar (moreItems .compact 0 (names.map .str) ++ rest) fuel =
      .ok (sofar.reverse ++ names, rest) := by
  induction names generalizing sofar fuel with
  | nil =>
      obtain ⟨fuel, rfl⟩ := Nat.exists_eq_succ_of_ne_zero (Nat.ne_of_gt hfuel)
      rw [List.append_nil]
      rfl
  | cons name names ih =>
      obtain ⟨fuel, rfl⟩ := Nat.exists_eq_succ_of_ne_zero (Nat.ne_of_gt (Nat.zero_lt_of_lt hfuel))
      have hnext : nextItem false
          (',' :: (stringChars name ++ (moreItems .compact 0 (names.map .str) ++ rest))) =
          .ok (.item (stringChars name ++ (moreItems .compact 0 (names.map .str) ++ rest))) :=
        rfl
      rw [moreItems_cons, List.cons_append, List.append_assoc, items, hnext]
      simp only [bind, Except.bind, string_stringChars]
      rw [ih (Nat.lt_of_succ_lt_succ hfuel), List.reverse_cons, List.append_assoc,
        List.singleton_append]

theorem list_chars (names : List String) :
    Reader.list string ((Json.arr (names.map .str)).chars .compact 0) = .ok (names, []) := by
  cases names with
  | nil => rfl
  | cons name names =>
      have hchars : (Json.arr ((name :: names).map .str)).chars .compact 0 =
          '[' :: (stringChars name ++ moreItems .compact 0 (names.map .str)) := by
        simp [chars, Layout.compact, scalarChars_str]
      have hfuel : names.length <
          (stringChars name ++ moreItems .compact 0 (names.map .str)).length := by
        have hlt := length_lt_moreItems names
        rw [List.length_append]
        omega
      have hnext : nextItem true (stringChars name ++ moreItems .compact 0 (names.map .str)) =
          .ok (.item (stringChars name ++ moreItems .compact 0 (names.map .str))) := rfl
      have hitems := @items_moreItems names [name] [] _ hfuel
      rw [List.append_nil] at hitems
      rw [hchars]
      change items string true [] _ (_ + 1) = _
      rw [items, hnext]
      simp only [bind, Except.bind, string_stringChars]
      exact hitems

/-- A list of strings is read back as it was written. -/
theorem whole_compact (names : List String) :
    whole (.list .string) (Json.arr (names.map .str)).compact = .ok names := by
  rw [whole, compact, String.toList_ofList, list_chars]
  rfl

end Reader

end TagQuery.Json
