/-!
# Decimal digits

The numbers that digits write.  The digits are those of ASCII.
-/

namespace TagQuery.Decimal

def digitValue (digit : Char) : Nat :=
  digit.toNat - '0'.toNat

/-- The number that digits write, the most significant one first. -/
def ofDigits (digits : List Char) : Nat :=
  digits.foldl (fun n digit => 10 * n + digitValue digit) 0

end TagQuery.Decimal
