import TagQuery.MatchText.Check
import TagQuery.Proofs.MatchText.Splitting

/-!
# Cuts of a text

Where a text is to be cut is said without a scanner and without a program: at the first
occurrence of the separator, and then in the same way behind it.  An occurrence that overlaps
one at which the text was cut is not behind it and stays in a piece.  There is exactly one
such cut of a text, and both tokenisers, the scanner and the plain cut, find it.
-/

namespace TagQuery

namespace Text

/-- A text cut from left to right at the occurrences of a separator, none of which overlaps
the one before. -/
inductive Cut (separator : List Char) : List Char → List (List Char) → Prop
  /-- Nowhere in the text is a separator. -/
  | whole {text : List Char} (h : ¬separator <:+: text) : Cut separator text [text]
  /-- No separator starts before the end of the front. -/
  | cut {front rest : List Char} {more : List (List Char)}
      (hfirst : ∀ before after, front ++ (separator ++ rest) = before ++ (separator ++ after) →
        front.length ≤ before.length)
      (h : Cut separator rest more) : Cut separator (front ++ (separator ++ rest)) (front :: more)

variable {separator text : List Char} {parts parts' : List (List Char)}

/-- A character at whose place no separator starts goes to the first piece. -/
theorem Cut.cons {c : Char} {piece : List Char} {more : List (List Char)}
    (hfree : ¬separator <+: c :: text) (h : Cut separator text (piece :: more)) :
    Cut separator (c :: text) ((c :: piece) :: more) := by
  cases h with
  | whole h =>
      refine .whole fun hinfix => ?_
      exact (List.infix_cons_iff.mp hinfix).elim hfree h
  | @cut front rest more hfirst h =>
      refine @Cut.cut separator (c :: piece) rest more (fun before after heq => ?_) h
      cases before with
      | nil =>
          have hstart : separator <+: separator ++ after := List.prefix_append _ _
          rw [List.nil_append, List.cons_append] at heq
          exact absurd (heq ▸ hstart) hfree
      | cons d before =>
          rw [List.cons_append, List.cons_append, List.cons.injEq] at heq
          exact Nat.succ_le_succ (hfirst before after heq.2)

theorem cut_pieces (hne : separator ≠ []) (text : List Char) :
    Cut separator text (pieces separator text) := by
  induction text using pieces_induction hne with
  | hnil =>
      refine .whole fun hinfix => hne ?_
      exact List.infix_nil.mp hinfix
  | hseparator text ih =>
      rw [pieces_separator_append hne]
      exact @Cut.cut separator [] text _ (fun _ _ _ => Nat.zero_le _) ih
  | hcons c text hfree ih =>
      obtain ⟨piece, more, hpieces, hcons⟩ := exists_pieces_cons hfree
      rw [hpieces] at ih
      rw [hcons]
      exact ih.cons hfree

/-- A text is cut in one way only. -/
theorem Cut.unique (h : Cut separator text parts) (h' : Cut separator text parts') :
    parts' = parts := by
  induction h generalizing parts' with
  | @whole text hwhole =>
      cases h' with
      | whole => rfl
      | cut => exact absurd (List.infix_append' _ _ _) hwhole
  | @cut front rest more hfirst h ih =>
      generalize htext : front ++ (separator ++ rest) = text at h'
      cases h' with
      | whole hwhole =>
          rw [← htext] at hwhole
          exact absurd (List.infix_append' _ _ _) hwhole
      | @cut front' rest' more' hfirst' h' =>
          have hlength : front.length = front'.length :=
            Nat.le_antisymm (hfirst front' rest' htext) (hfirst' front rest htext.symm)
          obtain ⟨rfl, hbehind⟩ := List.append_inj htext hlength
          obtain rfl := List.append_cancel_left hbehind
          rw [ih h']

theorem Cut.ne_nil (h : Cut separator text parts) : parts ≠ [] := by
  cases h with
  | whole => exact List.cons_ne_nil _ _
  | cut => exact List.cons_ne_nil _ _

/-- The pieces with a separator between them are the text. -/
theorem Cut.intercalate_eq (h : Cut separator text parts) :
    separator.intercalate parts = text := by
  induction h with
  | whole => exact List.intercalate_singleton
  | cut hfirst h ih =>
      rw [List.intercalate_cons_of_ne_nil h.ne_nil, ih, List.append_assoc]

end Text

namespace MatchText

open Text

/-- The scanner of a match text never gives up and leaves nothing.  Its parts are those of the
one cut of the text, as the pieces of the plain cut are, and joined with the separator they
are the text.  What it is used for goes by these pieces: the alternatives and the terms as
they are written are the pieces that are not empty, in their order, and the check looks at
the pieces between bars. -/
theorem scanner_cuts_text (text : String) :
    (∀ separator ∈ [orSeparator, andSeparator], ∃ parts,
        Scanner.separated (Scanner.literal separator) (pieceScanner separator) text.toList =
            some (parts, []) ∧
          (∀ other, Cut separator text.toList other ↔ other = parts) ∧
          pieces separator text.toList = parts ∧
          separator.intercalate parts = text.toList) ∧
      (orBranches text).map (·.toList) =
        (pieces orSeparator text.toList).filter (!·.isEmpty) ∧
      (andTerms text).map (·.toList) =
        (pieces andSeparator text.toList).filter (!·.isEmpty) ∧
      flaw? text =
        if isBlankText text then none
        else (pieces orSeparator text.toList).findSome? (branchFlaw? text.toList) := by
  have hchars : ∀ parts : List (List Char), (parts.map String.ofList).map (·.toList) = parts := by
    intro parts
    simp [Function.comp_def]
  refine ⟨?_, ?_, ?_, ?_⟩
  · intro separator hseparator
    have hne : separator ≠ [] := by
      rintro rfl
      revert hseparator
      decide
    have hcut := cut_pieces hne text.toList
    refine ⟨pieces separator text.toList, separated_eq_pieces hne text.toList, ?_, rfl,
      hcut.intercalate_eq⟩
    intro other
    constructor
    · exact hcut.unique
    · rintro rfl
      exact hcut
  · rw [orBranches, hchars, splitOn_eq_filter_pieces (by decide)]
  · rw [andTerms, hchars, splitOn_eq_filter_pieces (by decide)]
  · rw [flaw?, scanParts_eq_pieces (by decide), Option.getD_some]

/-- The second separator overlaps the one that the text begins with, and stays in a piece. -/
theorem scanner_cuts_text_of_overlap :
    let text := " & & b"
    let parts := [[], "& b".toList]
    andSeparator ∈ [orSeparator, andSeparator] ∧
      Scanner.separated (Scanner.literal andSeparator) (pieceScanner andSeparator) text.toList =
        some (parts, []) ∧
      Cut andSeparator text.toList parts ∧ andSeparator.intercalate parts = text.toList ∧
      (andTerms text).map (·.toList) = ["& b".toList] := by
  intro text parts
  have hmem : andSeparator ∈ [orSeparator, andSeparator] := by decide
  have hpieces : pieces andSeparator text.toList = parts := by decide +kernel
  obtain ⟨hscan, -, hterms, -⟩ := scanner_cuts_text text
  obtain ⟨found, hfound, hcut, hsame, hjoin⟩ := hscan andSeparator hmem
  obtain rfl : found = parts := hsame.symm.trans hpieces
  refine ⟨hmem, hfound, (hcut parts).mpr rfl, hjoin, ?_⟩
  rw [hterms, hpieces]
  decide +kernel

end MatchText

end TagQuery
