import TagQuery.MatchText
import TagQuery.Text.Quoted

/-!
# Suspicious match texts

Reading a match text never fails, so that a slip of the pen silently becomes
part of a value.  The check here names the first slip and where it is.
-/

namespace TagQuery.MatchText

open Text

/-- What can be wrong with a match text. -/
inductive Flaw where
  /-- Nothing between two bars. -/
  | emptyBranch
  /-- Nothing between two joining ampersands. -/
  | emptyTerm
  /-- Negation marks with nothing to negate. -/
  | danglingNegation
  /-- An ampersand that neither joins terms nor is written twice. -/
  | strayAmpersand
  deriving DecidableEq, Repr

/-- The name under which a flaw is reported. -/
def Flaw.name : Flaw → String
  | .emptyBranch => "EmptyBranch"
  | .emptyTerm => "EmptyTerm"
  | .danglingNegation => "DanglingNegation"
  | .strayAmpersand => "StrayAmpersand"

/-- A flaw and the part of the match text that shows it. -/
structure FlawReport where
  flaw : Flaw
  location : String
  deriving DecidableEq, Repr

/-- The message for a flaw. -/
def FlawReport.message (report : FlawReport) : String :=
  report.flaw.name ++ " at " ++ quoted report.location

/-- A run of ampersands has an odd length, given the parity of the run so far. -/
def hasOddRun (odd : Bool) : List Char → Bool
  | [] => odd
  | c :: rest => if c == '&' then hasOddRun (!odd) rest else odd || hasOddRun false rest

/-- The flaw of one term. -/
def termFlaw? (branch term : List Char) : Option FlawReport :=
  let bare := trim term
  if bare.isEmpty then some ⟨.emptyTerm, String.ofList branch⟩
  else if (trim (bare.dropWhile (· == '!'))).isEmpty then
    some ⟨.danglingNegation, String.ofList term⟩
  else if hasOddRun false bare then some ⟨.strayAmpersand, String.ofList term⟩
  else none

/-- The first flaw of one alternative. -/
def branchFlaw? (text branch : List Char) : Option FlawReport :=
  if branch.all isBlank then some ⟨.emptyBranch, String.ofList text⟩
  else (pieces andSeparator branch).findSome? (termFlaw? branch)

/-- The first flaw of a match text; a blank text has none. -/
def flaw? (text : String) : Option FlawReport :=
  if isBlankText text then none
  else
    ((scanParts orSeparator text.toList).getD [text.toList]).findSome?
      (branchFlaw? text.toList)

end TagQuery.MatchText
