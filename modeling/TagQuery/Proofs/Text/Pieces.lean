import Mathlib.Data.List.Infix
import Mathlib.Tactic.Common
import TagQuery.Text.Pieces

/-!
# Pieces of a text

The pieces of a text go by its front: where a separator stands there, an empty piece
is cut off, and where none stands, the next character belongs to the first piece of
what follows.  Inductions on pieces follow these two cases.
-/

namespace TagQuery.Text

variable {separator text : List Char}

theorem piecesFrom_eq_pieces_drop (separator text : List Char) (skip : ℕ) :
    piecesFrom separator skip text = pieces separator (text.drop skip) := by
  induction text generalizing skip with
  | nil => simp [pieces, piecesFrom]
  | cons c rest ih =>
      cases skip with
      | zero => rfl
      | succ skip =>
          rw [piecesFrom, List.drop_succ_cons]
          exact ih skip

theorem pieces_nil (separator : List Char) : pieces separator [] = [[]] :=
  rfl

/-- A separator at the front ends an empty piece. -/
theorem pieces_separator_append (hne : separator ≠ []) (text : List Char) :
    pieces separator (separator ++ text) = [] :: pieces separator text := by
  obtain ⟨d, ds, rfl⟩ := List.exists_cons_of_ne_nil hne
  have hprefix : (d :: ds).isPrefixOf (d :: (ds ++ text)) = true :=
    List.isPrefixOf_iff_prefix.mpr (List.prefix_append (d :: ds) text)
  rw [List.cons_append, pieces, piecesFrom, if_pos hprefix, piecesFrom_eq_pieces_drop,
    List.length_cons, Nat.add_sub_cancel, List.drop_left]

theorem pieces_ne_nil (separator text : List Char) : pieces separator text ≠ [] := by
  suffices h : ∀ skip, piecesFrom separator skip text ≠ [] from h 0
  induction text with
  | nil => exact fun skip => List.cons_ne_nil _ _
  | cons c rest ih =>
      intro skip
      cases skip with
      | succ skip => exact ih skip
      | zero =>
          rw [piecesFrom]
          split
          · exact List.cons_ne_nil _ _
          · split
            · exact List.cons_ne_nil _ _
            · exact List.cons_ne_nil _ _

/-- Where no separator stands, a character belongs to the first piece. -/
theorem exists_pieces_cons {c : Char} (h : ¬separator <+: c :: text) :
    ∃ piece more, pieces separator text = piece :: more ∧
      pieces separator (c :: text) = (c :: piece) :: more := by
  obtain ⟨piece, more, hpieces⟩ := List.exists_cons_of_ne_nil (pieces_ne_nil separator text)
  have hrest : piecesFrom separator 0 text = piece :: more := hpieces
  refine ⟨piece, more, hpieces, ?_⟩
  rw [pieces, piecesFrom, if_neg (mt List.isPrefixOf_iff_prefix.mp h), hrest]

/-- Texts are gone through by the separators and the characters at their fronts. -/
theorem pieces_induction {P : List Char → Prop} (hne : separator ≠ []) (hnil : P [])
    (hseparator : ∀ text, P text → P (separator ++ text))
    (hcons : ∀ c text, ¬separator <+: c :: text → P text → P (c :: text))
    (text : List Char) : P text := by
  induction hlength : text.length using Nat.strong_induction_on generalizing text with
  | _ length ih =>
      cases text with
      | nil => exact hnil
      | cons c rest =>
          by_cases hprefix : separator <+: c :: rest
          · obtain ⟨after, hafter⟩ := hprefix
            have hpos := List.length_pos_of_ne_nil hne
            rw [← hafter, List.length_append] at hlength
            rw [← hafter]
            exact hseparator after (ih after.length (by omega) after rfl)
          · rw [List.length_cons] at hlength
            exact hcons c rest hprefix (ih rest.length (by omega) rest rfl)

/-- A text of one piece stays one with a character before it, unless that makes a
separator. -/
theorem pieces_cons_of_whole {c : Char} (h : ¬separator <+: c :: text)
    (hwhole : pieces separator text = [text]) :
    pieces separator (c :: text) = [c :: text] := by
  obtain ⟨piece, more, hpieces, hcons⟩ := exists_pieces_cons h
  rw [hwhole] at hpieces
  cases hpieces
  exact hcons

/-- A text in which no separator starts is one piece. -/
theorem pieces_of_not_mem {c : Char} (hseparator : c ∈ separator) (htext : c ∉ text) :
    pieces separator text = [text] := by
  induction text with
  | nil => rfl
  | cons d rest ih =>
      have hprefix : ¬separator <+: d :: rest :=
        fun h => htext (h.subset hseparator)
      rw [List.mem_cons, not_or] at htext
      exact pieces_cons_of_whole hprefix (ih htext.2)

theorem mem_of_mem_pieces (hne : separator ≠ []) {piece : List Char}
    (hpiece : piece ∈ pieces separator text) {c : Char} (hc : c ∈ piece) : c ∈ text := by
  induction text using pieces_induction hne generalizing piece with
  | hnil =>
      rw [pieces_nil, List.mem_singleton] at hpiece
      rwa [hpiece] at hc
  | hseparator text ih =>
      rw [pieces_separator_append hne] at hpiece
      rcases List.mem_cons.mp hpiece with rfl | hpiece
      · contradiction
      · exact List.mem_append_right _ (ih hpiece hc)
  | hcons d text hprefix ih =>
      obtain ⟨first, more, hpieces, hcons⟩ := exists_pieces_cons hprefix
      rw [hpieces] at ih
      rw [hcons] at hpiece
      rcases List.mem_cons.mp hpiece with rfl | hpiece
      · rcases List.mem_cons.mp hc with rfl | hc
        · exact List.mem_cons_self
        · exact List.mem_cons_of_mem _ (ih List.mem_cons_self hc)
      · exact List.mem_cons_of_mem _ (ih (List.mem_cons_of_mem _ hpiece) hc)

theorem not_mem_of_mem_pieces {c : Char} {piece : List Char}
    (hpiece : piece ∈ pieces [c] text) : c ∉ piece := by
  induction text using pieces_induction (List.cons_ne_nil c []) generalizing piece with
  | hnil =>
      rw [pieces_nil, List.mem_singleton] at hpiece
      rw [hpiece]
      exact List.not_mem_nil
  | hseparator text ih =>
      rw [pieces_separator_append (List.cons_ne_nil c [])] at hpiece
      rcases List.mem_cons.mp hpiece with rfl | hpiece
      · exact List.not_mem_nil
      · exact ih hpiece
  | hcons d text hprefix ih =>
      obtain ⟨first, more, hpieces, hcons⟩ := exists_pieces_cons hprefix
      rw [hpieces] at ih
      rw [hcons] at hpiece
      rcases List.mem_cons.mp hpiece with rfl | hpiece
      · rw [List.mem_cons, not_or]
        refine ⟨?_, ih List.mem_cons_self⟩
        rintro rfl
        exact hprefix (List.prefix_append [c] text)
      · exact ih (List.mem_cons_of_mem _ hpiece)

/-! ## The last piece -/

/-- What follows the last separator of a text. -/
def lastPiece (separator text : List Char) : List Char :=
  (pieces separator text).getLast (pieces_ne_nil separator text)

theorem lastPiece_eq_of_pieces {front : List (List Char)} {last : List Char}
    (h : pieces separator text = front ++ [last]) : lastPiece separator text = last := by
  simp only [lastPiece, h, List.getLast_append_singleton]

theorem pieces_eq_dropLast_append (separator text : List Char) :
    pieces separator text =
      (pieces separator text).dropLast ++ [lastPiece separator text] :=
  (List.dropLast_append_getLast (pieces_ne_nil separator text)).symm

theorem lastPiece_separator_append (hne : separator ≠ []) (text : List Char) :
    lastPiece separator (separator ++ text) = lastPiece separator text := by
  simp only [lastPiece, pieces_separator_append hne]
  exact List.getLast_cons (pieces_ne_nil separator text)

/-- The last piece grows at its front or not at all. -/
theorem lastPiece_suffix_lastPiece_cons {c : Char} (h : ¬separator <+: c :: text) :
    lastPiece separator text <:+ lastPiece separator (c :: text) := by
  obtain ⟨piece, more, hpieces, hcons⟩ := exists_pieces_cons h
  simp only [lastPiece, hpieces, hcons]
  cases more with
  | nil => exact List.suffix_cons c piece
  | cons next more => exact List.suffix_refl _

/-- What is written after a text without a separator of one character becomes part of
the last piece. -/
theorem pieces_append_of_not_mem {c : Char} {more : List Char} (hmore : c ∉ more)
    (text : List Char) :
    pieces [c] (text ++ more) =
      (pieces [c] text).dropLast ++ [lastPiece [c] text ++ more] := by
  -- The pieces before the last one are named, so that the induction can keep them.
  suffices h : ∃ front last, pieces [c] text = front ++ [last] ∧
      pieces [c] (text ++ more) = front ++ [last ++ more] by
    obtain ⟨front, last, htext, happend⟩ := h
    simp only [lastPiece, htext, happend, List.dropLast_concat, List.getLast_append_singleton]
  induction text using pieces_induction (List.cons_ne_nil c []) with
  | hnil => exact ⟨[], [], rfl, pieces_of_not_mem List.mem_cons_self hmore⟩
  | hseparator text ih =>
      obtain ⟨front, last, htext, happend⟩ := ih
      refine ⟨[] :: front, last, ?_, ?_⟩
      · rw [pieces_separator_append (List.cons_ne_nil c []), htext, List.cons_append]
      · rw [List.append_assoc, pieces_separator_append (List.cons_ne_nil c []), happend,
          List.cons_append]
  | hcons d text hprefix ih =>
      obtain ⟨front, last, htext, happend⟩ := ih
      have hd : ∀ rest, ¬[c] <+: d :: rest := by
        intro rest h
        exact hprefix (List.cons_prefix_cons.mpr
          ⟨(List.cons_prefix_cons.mp h).1, List.nil_prefix⟩)
      obtain ⟨piece, others, hpieces, hcons⟩ := exists_pieces_cons (hd text)
      obtain ⟨piece', others', hpieces', hcons'⟩ := exists_pieces_cons (hd (text ++ more))
      rw [htext] at hpieces
      rw [happend] at hpieces'
      rw [List.cons_append, hcons, hcons']
      cases front with
      | nil =>
          cases hpieces
          cases hpieces'
          exact ⟨[], d :: last, rfl, rfl⟩
      | cons head front =>
          cases hpieces
          cases hpieces'
          exact ⟨(d :: piece) :: front, last, rfl, rfl⟩

theorem lastPiece_append_of_not_mem {c : Char} {more : List Char} (hmore : c ∉ more)
    (text : List Char) :
    lastPiece [c] (text ++ more) = lastPiece [c] text ++ more :=
  lastPiece_eq_of_pieces (pieces_append_of_not_mem hmore text)

end TagQuery.Text
