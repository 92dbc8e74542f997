import TagQuery.Text.CodeSet

/-!
# Blank characters

White space in the sense of Unicode, and what is done with it at the ends of a
text and between words.  Texts are lists of characters here, so that the usual
list lemmas apply to them.
-/

namespace TagQuery.Text

/-- The ranges of characters with the Unicode property `White_Space`. -/
def blankRanges : List (Char × Char) := [
    ('\t', '\r'), (' ', ' '), ('\u0085', '\u0085'), ('\u00a0', '\u00a0'),
    ('\u1680', '\u1680'), ('\u2000', '\u200a'), ('\u2028', '\u2029'),
    ('\u202f', '\u202f'), ('\u205f', '\u205f'), ('\u3000', '\u3000')]

/-- A character with the Unicode property `White_Space`. -/
def isBlank (c : Char) : Bool :=
  blankRanges.any fun (first, last) => first ≤ c && c ≤ last

def blanks : CodeSet :=
  .ofRanges blankRanges

/-- The text without the blanks at its front. -/
def trimStart (text : List Char) : List Char :=
  text.dropWhile isBlank

/-- The text without the blanks at its end. -/
def trimEnd (text : List Char) : List Char :=
  (text.reverse.dropWhile isBlank).reverse

/-- The text without the blanks at either end. -/
def trim (text : List Char) : List Char :=
  trimEnd (trimStart text)

/-- The stretches between blanks; two blanks in a row enclose an empty one. -/
def stretches : List Char → List (List Char)
  | [] => [[]]
  | c :: rest =>
    if isBlank c then [] :: stretches rest
    else match stretches rest with
      | [] => [[c]]
      | word :: more => (c :: word) :: more

/-- The longest stretches without a blank, in order. -/
def words (text : List Char) : List (List Char) :=
  (stretches text).filter (!·.isEmpty)

/-- A string of blanks only; the empty string is one. -/
def isBlankText (s : String) : Bool :=
  s.toList.all isBlank

/-- The words of a string with one space between them. -/
def singleSpaced (s : String) : String :=
  " ".intercalate ((words s.toList).map String.ofList)

end TagQuery.Text
