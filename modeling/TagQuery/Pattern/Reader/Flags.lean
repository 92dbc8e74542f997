import TagQuery.Pattern.Simplified
import TagQuery.Text.Blank
import TagQuery.Text.Folding

/-!
# Flags of a regular expression

How the characters of an expression are understood: whether letters match all
their forms, what the dot and the line anchors mean, whether blanks count, and
which repetitions are lazy.
-/

namespace TagQuery.Pattern

/-- How the characters of an expression are understood. -/
structure Flags where
  /-- Letters match all their forms. -/
  ignoreCase : Bool
  /-- The line anchors look at lines instead of the whole text. -/
  multiLine : Bool
  /-- The dot matches line feeds too. -/
  dotAll : Bool
  /-- Blanks and comments do not count. -/
  verbose : Bool
  /-- Repetitions are lazy unless they are marked. -/
  swapLazy : Bool

def Flags.plain : Flags :=
  ⟨false, false, false, false, false⟩

/-- A set as it is understood under the flags. -/
def Flags.widen (flags : Flags) (set : Text.CodeSet) : Text.CodeSet :=
  if flags.ignoreCase then set.allForms else set

/-- The expression for a single character. -/
def Flags.literal (flags : Flags) (c : Char) : Expr :=
  if flags.ignoreCase then .ofSet (.ofCodes ((Text.forms c).map (·.toNat))) else .literal [c]

/-- The text without the blanks and comments at its front; a comment ends with its line. -/
def skipBlanks (inComment : Bool) : List Char → List Char
  | [] => []
  | c :: rest =>
    if inComment then skipBlanks (c != '\n') rest
    else if Text.isBlank c then skipBlanks false rest
    else if c == '#' then skipBlanks true rest
    else c :: rest

/-- The text without what does not count at its front. -/
def Flags.skip (flags : Flags) (text : List Char) : List Char :=
  if flags.verbose then skipBlanks false text else text

end TagQuery.Pattern
