/-!
# The shortest decimal that reads back

A double is a dyadic number with an interval of reals that round to it.  The
shortest decimal is looked for on coarser grids first: with one digit, with two,
and so on, of the two grid points next to the double the one that lies in the
interval and is nearer is taken.
-/

namespace TagQuery.Decimal

/-- The decimal `digits * 10 ^ exponent`. -/
structure Scientific where
  digits : Nat
  exponent : Int
  deriving DecidableEq, Repr

/--
A positive number and the interval of those that round to it, as fractions with
one denominator.
-/
structure Rounding where
  value : Nat
  low : Nat
  high : Nat
  denominator : Nat
  /-- The ends of the interval belong to it. -/
  closed : Bool

namespace Rounding

/-- The interval of a double that is `significand * 2 ^ exponent`. -/
def ofDyadic (significand : Nat) (exponent : Int) (narrowBelow : Bool) : Rounding :=
  let scale := Nat.pow 2 (exponent - 2).toNat
  { value := 4 * significand * scale
    low := (4 * significand - if narrowBelow then 1 else 2) * scale
    high := (4 * significand + 2) * scale
    denominator := Nat.pow 2 (2 - exponent).toNat
    closed := significand % 2 == 0 }

/-- A fraction with the same denominator lies in the interval. -/
def holds (r : Rounding) (point : Nat) : Bool :=
  if r.closed then r.low ≤ point && point ≤ r.high else r.low < point && point < r.high

/-- The interval with all its numbers multiplied by a factor. -/
def magnified (r : Rounding) (factor : Nat) : Rounding :=
  { r with value := r.value * factor, low := r.low * factor, high := r.high * factor }

/-- The multiple of `10 ^ exponent` next to the value that lies in the interval. -/
def onGrid? (r : Rounding) (exponent : Int) : Option Scientific :=
  let fine := r.magnified (Nat.pow 10 (-exponent).toNat)
  let unit := r.denominator * Nat.pow 10 exponent.toNat
  let below := fine.value / unit
  let belowFits := fine.holds (below * unit)
  let aboveFits := fine.holds ((below + 1) * unit)
  let belowNearer := 2 * (fine.value - below * unit) ≤ unit
  if belowFits && (belowNearer || !aboveFits) then some ⟨below, exponent⟩
  else if aboveFits then some ⟨below + 1, exponent⟩
  else none

/-- The power of ten of the leading digit of a number below one, counted down from `-tried`. -/
def smallMagnitude (r : Rounding) (tried : Nat) : Nat → Int
  | 0 => -tried
  | fuel + 1 =>
    if r.denominator ≤ r.value * Nat.pow 10 tried then -tried
    else smallMagnitude r (tried + 1) fuel

/-- The power of ten of the leading digit. -/
def magnitude (r : Rounding) : Int :=
  if r.denominator ≤ r.value then
    ((Nat.toDigits 10 (r.value / r.denominator)).length : Int) - 1
  else r.smallMagnitude 1 400

/-- The first grid with a hit, among those with `digits` digits and more. -/
def search (r : Rounding) (digits : Nat) : Nat → Scientific
  | 0 => ⟨0, 0⟩
  | fuel + 1 =>
    match r.onGrid? (r.magnitude + 1 - digits) with
    | some found => found
    | none => search r (digits + 1) fuel

end Rounding

/-- The shortest decimal that reads back as the magnitude of a finite double. -/
def shortest (x : Float) : Scientific :=
  let bits : Nat := x.toBits.toNat % Nat.pow 2 63
  let biased : Nat := bits / Nat.pow 2 52
  let fraction : Nat := bits % Nat.pow 2 52
  if bits = 0 then ⟨0, 0⟩
  else if biased = 0 then
    (Rounding.ofDyadic fraction (-1074) false).search 1 17
  else
    (Rounding.ofDyadic (fraction + Nat.pow 2 52) (biased - 1075)
      (fraction == 0 && 1 < biased)).search 1 17

end TagQuery.Decimal
