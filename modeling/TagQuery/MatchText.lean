import TagQuery.Text.Blank
import TagQuery.Text.Pieces
import TagQuery.Text.Scan

/-!
# Match text

The text that says which values of one category a record has to carry, such as
`Jesper & !Jim | Anne`.  Bars separate alternatives, an ampersand between two
spaces joins terms, and a leading exclamation mark negates a term.  A single
ampersand belongs to a value; a value's own ampersands are written twice.

Reading is permissive: empty alternatives and empty terms are dropped, and
anything else is a value.
-/

namespace TagQuery

/-- The reserved value that stands for "no other value in this category". -/
def noneMarker : String := "**NONE**"

/-- One required value of an alternative, or one that must be absent. -/
structure Term where
  value : String
  negated : Bool
  deriving DecidableEq, Repr

namespace MatchText

open Text

def orSeparator : List Char := ['|']

def andSeparator : List Char := [' ', '&', ' ']

/-- White space that may stand before the negation mark. -/
def isMargin (c : Char) : Bool :=
  c == ' ' || c == '\t' || c == '\r' || c == '\n'

/-- The scanner of everything up to the next separator or to the end. -/
def pieceScanner (separator : List Char) : Scanner (List Char) :=
  Scanner.orElse (Scanner.upTo separator) Scanner.remainder

/-- All parts between separators, the empty ones among them. -/
def scanParts (separator text : List Char) : Option (List (List Char)) :=
  (Scanner.separated (Scanner.literal separator) (pieceScanner separator) text).map (·.1)

/-- The non-empty parts between separators; a text that cannot be scanned is one part. -/
def splitOn (separator text : List Char) : List (List Char) :=
  ((scanParts separator text).getD [text]).filter (!·.isEmpty)

/-- The non-empty alternatives of a match text, as written. -/
def orBranches (text : String) : List String :=
  (splitOn orSeparator text.toList).map String.ofList

/-- The non-empty terms of an alternative, as written. -/
def andTerms (branch : String) : List String :=
  (splitOn andSeparator branch.toList).map String.ofList

/-- Writes every ampersand of a value twice. -/
def escapeChars (value : List Char) : List Char :=
  value.flatMap fun c => if c == '&' then ['&', '&'] else [c]

/-- Makes one ampersand of every two. -/
def unescapeChars : List Char → List Char
  | '&' :: '&' :: rest => '&' :: unescapeChars rest
  | c :: rest => c :: unescapeChars rest
  | [] => []

/-- A value as it is written in a match text. -/
def escape (value : String) : String :=
  String.ofList (escapeChars value.toList)

/-- The value that is written as the given text. -/
def unescape (text : String) : String :=
  String.ofList (unescapeChars text.toList)

/-- The text of a term without its margin and its negation mark, and whether it had the mark. -/
def stripNegation (term : List Char) : Bool × List Char :=
  match term.dropWhile isMargin with
  | '!' :: rest => (true, rest)
  | rest => (false, rest)

/-- The term that a piece of match text stands for; a blank one stands for none. -/
def termOfChars? (term : List Char) : Option Term :=
  let (negated, text) := stripNegation term
  match trim text with
  | [] => none
  | value => some ⟨String.ofList (unescapeChars value), negated⟩

/-- `termOfChars?` on strings. -/
def parseTerm? (term : String) : Option Term :=
  termOfChars? term.toList

/-- The terms of one alternative. -/
def branchTerms (branch : List Char) : List Term :=
  (splitOn andSeparator branch).filterMap termOfChars?

def parseChars (text : List Char) : List (List Term) :=
  ((splitOn orSeparator text).map branchTerms).filter (!·.isEmpty)

/-- The alternatives that a match text stands for, each with its terms. -/
def parse (text : String) : List (List Term) :=
  parseChars text.toList

end MatchText

end TagQuery
