import TagQuery.MatchText
import TagQuery.Proofs.Text.Pieces

/-!
# Scanned parts are pieces

The scanner of a match text takes parts and separators in turns.  It never gives up,
and its parts are the pieces of the plain cut, so that what a text asks for can be read
off its pieces: those at the bars, and of each of them those at the joining ampersands.
-/

namespace TagQuery.MatchText

open Text

variable {separator text : List Char}

/-! ## Parts of a text -/

theorem upTo_separator_append (hne : separator ≠ []) (text : List Char) :
    Scanner.upTo separator (separator ++ text) = some ([], separator ++ text) := by
  obtain ⟨d, ds, rfl⟩ := List.exists_cons_of_ne_nil hne
  have hprefix : (d :: ds).isPrefixOf (d :: (ds ++ text)) = true :=
    List.isPrefixOf_iff_prefix.mpr (List.prefix_append (d :: ds) text)
  rw [List.cons_append, Scanner.upTo, if_pos hprefix]

theorem upTo_cons {c : Char} (h : ¬separator <+: c :: text) :
    Scanner.upTo separator (c :: text) =
      (Scanner.upTo separator text).map fun (front, back) => (c :: front, back) := by
  rw [Scanner.upTo, if_neg (mt List.isPrefixOf_iff_prefix.mp h)]

/-- A text holds no separator and is one piece, or what stands before the first
separator is the first piece. -/
theorem upTo_cases (hne : separator ≠ []) (text : List Char) :
    (Scanner.upTo separator text = none ∧ pieces separator text = [text]) ∨
      ∃ front after, Scanner.upTo separator text = some (front, separator ++ after) ∧
        text = front ++ (separator ++ after) ∧
        pieces separator text = front :: pieces separator after := by
  induction text using pieces_induction hne with
  | hnil => exact Or.inl ⟨by simp [Scanner.upTo, hne], rfl⟩
  | hseparator text ih =>
      exact Or.inr ⟨[], text, upTo_separator_append hne text, rfl,
        pieces_separator_append hne text⟩
  | hcons c text hprefix ih =>
      obtain ⟨piece, more, hpieces, hcons⟩ := exists_pieces_cons hprefix
      rw [upTo_cons hprefix, hcons]
      rcases ih with ⟨hnone, hone⟩ | ⟨front, after, hsome, htext, hmore⟩
      · rw [hpieces] at hone
        cases hone
        exact Or.inl ⟨by rw [hnone]; rfl, rfl⟩
      · rw [hpieces] at hmore
        cases hmore
        exact Or.inr ⟨c :: piece, after, by rw [hsome]; rfl, by rw [htext]; rfl, rfl⟩

/-- A part is the first piece, and what is left is nothing, or a separator with the
other pieces behind it. -/
theorem pieceScanner_cases (hne : separator ≠ []) (text : List Char) :
    (pieceScanner separator text = some (text, []) ∧ pieces separator text = [text]) ∨
      ∃ front after, pieceScanner separator text = some (front, separator ++ after) ∧
        text = front ++ (separator ++ after) ∧
        pieces separator text = front :: pieces separator after := by
  rcases upTo_cases hne text with ⟨hnone, hone⟩ | ⟨front, after, hsome, htext, hmore⟩
  · refine Or.inl ⟨?_, hone⟩
    rw [pieceScanner, Scanner.orElse, hnone]
    rfl
  · refine Or.inr ⟨front, after, ?_, htext, hmore⟩
    rw [pieceScanner, Scanner.orElse, hsome]
    rfl

theorem literal_separator_append (separator text : List Char) :
    Scanner.literal separator (separator ++ text) = some (separator, text) := by
  have hprefix : separator.isPrefixOf (separator ++ text) = true :=
    List.isPrefixOf_iff_prefix.mpr (List.prefix_append _ _)
  rw [Scanner.literal, if_pos hprefix, List.drop_left]

theorem separatedMore_nil (hne : separator ≠ []) :
    Scanner.separatedMore (Scanner.literal separator) (pieceScanner separator) [] =
      some ([], []) := by
  obtain ⟨d, ds, rfl⟩ := List.exists_cons_of_ne_nil hne
  rw [Scanner.separatedMore]
  rfl

/-- Where a separator stands, the scanner goes on and takes all pieces behind it. -/
theorem separatedMore_separator_append (hne : separator ≠ []) (text : List Char) :
    Scanner.separatedMore (Scanner.literal separator) (pieceScanner separator)
      (separator ++ text) = some (pieces separator text, []) := by
  have hpos := List.length_pos_of_ne_nil hne
  induction hlength : text.length using Nat.strong_induction_on generalizing text with
  | _ length ih =>
      rw [Scanner.separatedMore, literal_separator_append]
      rcases pieceScanner_cases hne text with ⟨hitem, hone⟩ | ⟨front, after, hitem, htext, hmore⟩
      · have hshorter : ([] : List Char).length < (separator ++ text).length := by
          rw [List.length_append, List.length_nil]
          omega
        simp only [hitem, if_pos hshorter, separatedMore_nil hne, hone, Option.map_some]
      · have hlengths := congrArg List.length htext
        simp only [List.length_append] at hlengths
        have hshorter : (separator ++ after).length < (separator ++ text).length := by
          simp only [List.length_append]
          omega
        have hbehind := ih after.length (by omega) after rfl
        simp only [hitem, if_pos hshorter, hbehind, hmore, Option.map_some]

/-- The scanner never gives up, and takes the pieces of the text. -/
theorem separated_eq_pieces (hne : separator ≠ []) (text : List Char) :
    Scanner.separated (Scanner.literal separator) (pieceScanner separator) text =
      some (pieces separator text, []) := by
  rcases pieceScanner_cases hne text with ⟨hitem, hone⟩ | ⟨front, after, hitem, -, hmore⟩
  · simp only [Scanner.separated, hitem, separatedMore_nil hne, hone, Option.map_some]
  · simp only [Scanner.separated, hitem, separatedMore_separator_append hne, hmore,
      Option.map_some]

theorem scanParts_eq_pieces (hne : separator ≠ []) (text : List Char) :
    scanParts separator text = some (pieces separator text) := by
  rw [scanParts, separated_eq_pieces hne, Option.map_some]

theorem splitOn_eq_filter_pieces (hne : separator ≠ []) (text : List Char) :
    splitOn separator text = (pieces separator text).filter (!·.isEmpty) := by
  rw [splitOn, scanParts_eq_pieces hne, Option.getD_some]

/-! ## Terms and alternatives -/

/-- The terms of an alternative are those of its pieces; an empty piece has none. -/
theorem branchTerms_eq_filterMap (branch : List Char) :
    branchTerms branch = (pieces andSeparator branch).filterMap termOfChars? := by
  rw [branchTerms, splitOn_eq_filter_pieces (by decide), List.filterMap_filter]
  refine List.filterMap_congr fun piece _ => ?_
  cases piece with
  | nil => rfl
  | cons c piece => rfl

theorem branchTerms_nil : branchTerms [] = [] :=
  branchTerms_eq_filterMap []

/-- The alternatives of a text are those of its pieces that have terms. -/
theorem parseChars_eq_filter (text : List Char) :
    parseChars text =
      ((pieces orSeparator text).map branchTerms).filter (!·.isEmpty) := by
  rw [parseChars, splitOn_eq_filter_pieces (by decide), List.filter_map, List.filter_filter,
    List.filter_map]
  refine congrArg _ (List.filter_congr fun branch _ => ?_)
  cases branch with
  | nil => simp [branchTerms_nil]
  | cons c branch => simp

end TagQuery.MatchText
