/-!
# What a JSON reader is

A reader takes one value from the front of a text and leaves the rest.  The text
is read from left to right, and the first problem found is the one reported.
-/

namespace TagQuery.Json

/-- Why a text cannot be read. -/
inductive Problem where
  /-- The text ends too early. -/
  | ended
  /-- The text is not JSON, or something follows the value. -/
  | malformed
  /-- The text is JSON, but not the value that is expected. -/
  | unsuitable
  deriving DecidableEq, Repr

/-- Takes a value from the front of a text. -/
abbrev Reader (α : Type) :=
  List Char → Except Problem (α × List Char)

def isSpace (c : Char) : Bool :=
  c == ' ' || c == '\n' || c == '\t' || c == '\r'

/-- The text without the white space at its front. -/
def skipSpace (text : List Char) : List Char :=
  text.dropWhile isSpace

/-- The rest of a word whose first letter has been seen. -/
def finishWord : List Char → List Char → Except Problem (List Char)
  | [], rest => .ok rest
  | _ :: _, [] => .error .ended
  | c :: word, d :: rest => if c = d then finishWord word rest else .error .malformed

end TagQuery.Json
