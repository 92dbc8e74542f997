import TagQuery.Proofs.MatchText.Padding
import TagQuery.Proofs.Query.Constraints

/-!
# Match texts with white space around their terms

What a query asks of a category rests on the terms that its match text is read as, and
these do not change with the white space around them, negation marks apart.
-/

namespace TagQuery

open Text MatchText

theorem MatchText.accepts_of_parse {groups : Hierarchy} {category text text' : String}
    {r : Record} (h : parse text' = parse text) :
    Accepts groups category text' r ↔ Accepts groups category text r := by
  rw [Accepts, Accepts, h]

namespace SearchQuery

/-- A query for a category accepts the same records for texts that are read alike. -/
theorem evaluate_setText_of_parse {q : SearchQuery} {category text text' : String}
    (h : parse text' = parse text) (store : RecordStore) (stamp : ℕ) (r : Record) :
    (({ q with texts := setText q.texts category text' } : SearchQuery).compile store
        stamp).evaluate r =
      (({ q with texts := setText q.texts category text } : SearchQuery).compile store
        stamp).evaluate r := by
  have hset := fun value => @evaluate_setText q { q with texts := setText q.texts category value }
    category value store stamp r rfl rfl
  rw [Bool.eq_iff_iff, hset text', hset text, accepts_of_parse h]

/-- White space around a term leaves it as it is exactly if what comes in front of a
negation mark is passed over there, and white space around the terms of a match text that
leaves each of them as it is does not change which records a query accepts. -/
theorem blanks_around_terms {front back : String} (hfront : isBlankText front = true)
    (hback : isBlankText back = true) (term : String) :
    (parseTerm? (front ++ term ++ back) = parseTerm? term ↔
        (∀ c ∈ front.toList, isMargin c = true) ∨ ¬Marked term.toList) ∧
      ∀ text padded : String, Padded text.toList padded.toList →
        ∀ (q : SearchQuery) (category : String) (store : RecordStore) (stamp : ℕ) (r : Record),
          (({ q with texts := setText q.texts category padded } : SearchQuery).compile store
              stamp).evaluate r =
            (({ q with texts := setText q.texts category text } : SearchQuery).compile store
              stamp).evaluate r := by
  constructor
  · rw [isBlankText, List.all_eq_true] at hfront hback
    rw [parseTerm?, parseTerm?, String.toList_append, String.toList_append, List.append_assoc]
    exact termOfChars?_padded_iff hfront hback term.toList
  · intro text padded hpadded q category store stamp r
    exact evaluate_setText_of_parse hpadded.parseChars_eq store stamp r

/-- Blanks of several kinds around two terms, one of which is negated. -/
theorem blanks_around_terms_of_wide_blanks :
    let text := "Anne & !Jim"
    let padded := "\u00a0Anne  & \t!Jim\u2003"
    let store := RecordStore.ofRecords [] ∅ 1
    let r : Record := { fileName := "a.jpg" }
    (isBlankText "\t " = true ∧ isBlankText "\u2003" = true ∧
      parseTerm? ("\t " ++ "!Jim" ++ "\u2003") = parseTerm? "!Jim") ∧
    Padded text.toList padded.toList ∧
      (({ new 1 with texts := setText ∅ "People" padded } : SearchQuery).compile store
          1).evaluate r =
        (({ new 1 with texts := setText ∅ "People" text } : SearchQuery).compile store
          1).evaluate r := by
  intro text padded store r
  have hfront : isBlankText "\t " = true := by decide +kernel
  have hback : isBlankText "\u2003" = true := by decide +kernel
  obtain ⟨hterm, htexts⟩ := blanks_around_terms hfront hback "!Jim"
  have hmargin : ∀ c ∈ "\t ".toList, isMargin c = true :=
    List.all_eq_true.mp (by decide +kernel)
  have hpadded : Padded text.toList padded.toList := by
    have hbranch : pieces orSeparator text.toList = [text.toList] := by decide +kernel
    have hbranch' : pieces orSeparator padded.toList = [padded.toList] := by decide +kernel
    have hpieces : pieces andSeparator text.toList = ["Anne".toList, "!Jim".toList] := by
      decide +kernel
    have hpieces' : pieces andSeparator padded.toList =
        ["\u00a0Anne ".toList, "\t!Jim\u2003".toList] := by
      decide +kernel
    have hanne : PaddedPiece "Anne".toList "\u00a0Anne ".toList :=
      ⟨['\u00a0'], [' '], by decide +kernel, List.all_eq_true.mp (by decide +kernel),
        List.all_eq_true.mp (by decide +kernel), Or.inr (by decide +kernel)⟩
    have hjim : PaddedPiece "!Jim".toList "\t!Jim\u2003".toList :=
      ⟨['\t'], ['\u2003'], by decide +kernel, List.all_eq_true.mp (by decide +kernel),
        List.all_eq_true.mp (by decide +kernel),
        Or.inl (List.all_eq_true.mp (by decide +kernel))⟩
    rw [Padded, hbranch, hbranch']
    refine .cons ?_ .nil
    rw [hpieces, hpieces']
    exact .cons hanne (.cons hjim .nil)
  exact ⟨⟨hfront, hback, hterm.mpr (Or.inl hmargin)⟩, hpadded,
    htexts text padded hpadded (new 1) "People" store 1 r⟩

/-- Behind a blank that is not passed over, a mark is read as part of the value. -/
theorem mark_read_as_value :
    isBlankText "\u00a0" = true ∧ parseTerm? "!Jim" = some ⟨"Jim", true⟩ ∧
      parseTerm? ("\u00a0" ++ "!Jim") = some ⟨"!Jim", false⟩ := by
  decide +kernel

end SearchQuery

end TagQuery
