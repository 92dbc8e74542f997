import TagQuery.DateIndex
import TagQuery.Decimal.Digits
import TagQuery.Text.Blank
import TagQuery.Text.Lowercase

/-!
# Settings

What the environment of the program can change.  A value that is missing or that
cannot be read leaves the default.
-/

namespace TagQuery

/-- The settings of the program. -/
structure Settings where
  /-- Which events are logged. -/
  logFilter : String := "info"
  /-- How many answers a date index keeps; at least one. -/
  dateCacheCapacity : Nat := DateIndex.defaultCapacity
  /-- Classification stops once two values were counted. -/
  partialCount : Bool := false
  deriving DecidableEq, Repr

namespace Settings

/-- The variable for the log filter. -/
def logVariable : String := "TAGSIFT_LOG"

/-- The variable for the capacity of date indexes. -/
def capacityVariable : String := "TAGSIFT_DATE_CACHE"

/-- The variable for stopping early. -/
def partialVariable : String := "TAGSIFT_PARTIAL_COUNT"

def variableNames : List String :=
  [logVariable, capacityVariable, partialVariable]

/-- The largest capacity that can be asked for. -/
def maxCapacity : Nat := UInt64.size - 1

/-- A whole number in decimal digits, which may have a plus sign. -/
def readNat? (text : List Char) : Option Nat :=
  let digits :=
    match text with
    | '+' :: rest => rest
    | _ => text
  if digits.isEmpty || !digits.all Char.isDigit then none
  else some (Decimal.ofDigits digits)

/-- A capacity, with blanks around it. -/
def readCapacity? (value : String) : Option Nat :=
  (readNat? (Text.trim value.toList)).filter fun n => 0 < n && n ≤ maxCapacity

/-- A truth value in one of several spellings, with blanks around it. -/
def readBool? (value : String) : Option Bool :=
  let word := String.ofList (Text.lower (Text.trim value.toList))
  if ["true", "1", "yes", "on"].contains word then some true
  else if ["false", "0", "no", "off"].contains word then some false
  else none

/-- The settings for the values of variables. -/
def ofLookup (lookup : String → Option String) : Settings :=
  let defaults : Settings := {}
  { logFilter :=
      ((lookup logVariable).filter (!Text.isBlankText ·)).getD defaults.logFilter
    dateCacheCapacity :=
      ((lookup capacityVariable).bind readCapacity?).getD defaults.dateCacheCapacity
    partialCount :=
      ((lookup partialVariable).bind readBool?).getD defaults.partialCount }

end Settings

end TagQuery
