import TagQuery.Decimal.Digits
import TagQuery.Json.Reader.Basic

/-!
# JSON numbers

A whole number that a word can hold is read exactly.  Any other becomes a double:
as many digits as fit a word, scaled by a power of ten.
-/

namespace TagQuery.Json

/-- A number as it was written. -/
inductive Numeral where
  /-- A whole number that is not negative. -/
  | nat (n : Nat)
  /-- A negative whole number. -/
  | negative (n : Nat)
  /-- A number with a fraction or an exponent, or one too long to be whole. -/
  | float (x : Float)

/-- The largest whole number that is kept as such. -/
def maxWhole : Nat := UInt64.size - 1

/-- Exact powers of ten from which a double is scaled. -/
def powerOfTen (exponent : Nat) : Float :=
  Float.ofScientific 1 false exponent

/--
Scales a number by a power of ten, in steps that a double can hold; `none` is too
large a number.  Each step brings the exponent closer to zero.
-/
def scaleFloat? (x : Float) (exponent : Int) : Nat → Option Float
  | 0 => some x
  | fuel + 1 =>
    if exponent.natAbs ≤ 308 then
      if 0 ≤ exponent then
        let scaled := x * powerOfTen exponent.natAbs
        if scaled.isInf then none else some scaled
      else some (x / powerOfTen exponent.natAbs)
    else if x == 0 then some x
    else if 0 ≤ exponent then none
    else scaleFloat? (x / 1e308) (exponent + 308) fuel

/-- The double `significand * 10 ^ exponent`, with a sign. -/
def floatNumeral (negative : Bool) (significand : Nat) (exponent : Int) :
    Except Problem Numeral :=
  match scaleFloat? (Float.ofNat significand) exponent (exponent.natAbs / 308 + 1) with
  | some x => .ok (.float (if negative then -x else x))
  | none => .error .malformed

/--
Adds digits to a significand as long as it stays within a word, and gives the
significand and the digits that are left.
-/
def takeDigits (significand : Nat) : List Char → Nat × List Char
  | [] => (significand, [])
  | d :: digits =>
    let more := 10 * significand + Decimal.digitValue d
    if maxWhole < more then (significand, d :: digits) else takeDigits more digits

/-- The exponent of a number after its letter, and the number. -/
def exponentPart (negative : Bool) (significand : Nat) (exponent : Int) :
    Reader Numeral := fun text => do
  let (down, text) :=
    match text with
    | '+' :: rest => (false, rest)
    | '-' :: rest => (true, rest)
    | _ => (false, text)
  let digits := text.takeWhile Char.isDigit
  let rest := text.dropWhile Char.isDigit
  if digits.isEmpty then throw (if text.isEmpty then .ended else .malformed)
  else
    let size := Decimal.ofDigits digits
    if Nat.pow 2 31 ≤ size then
      if significand != 0 && !down then throw .malformed
      else return (.float (if negative then -0.0 else 0.0), rest)
    else
      let exponent := if down then exponent - size else exponent + size
      return (← floatNumeral negative significand exponent, rest)

/-- What may follow the whole part or the fraction of a number. -/
def afterDigits (negative : Bool) (significand : Nat) (exponent : Int) :
    Reader Numeral := fun text =>
  match text with
  | 'e' :: rest => exponentPart negative significand exponent rest
  | 'E' :: rest => exponentPart negative significand exponent rest
  | _ => do return (← floatNumeral negative significand exponent, text)

/-- The fraction of a number after the point. -/
def fractionPart (negative : Bool) (significand : Nat) (exponent : Int) :
    Reader Numeral := fun text =>
  let digits := text.takeWhile Char.isDigit
  let rest := text.dropWhile Char.isDigit
  if digits.isEmpty then .error (if text.isEmpty then .ended else .malformed)
  else
    let (significand, unused) := takeDigits significand digits
    let taken : Int := digits.length - unused.length
    afterDigits negative significand (exponent - taken) rest

/-- A whole number that a word can hold, negative or not. -/
def wholeNumeral (negative : Bool) (n : Nat) : Numeral :=
  if !negative then .nat n
  else if n = 0 || Nat.pow 2 63 < n then .float (-Float.ofNat n)
  else .negative n

/-- A number whose sign has been seen. -/
def unsignedNumber (negative : Bool) : Reader Numeral := fun text =>
  let digits := text.takeWhile Char.isDigit
  let rest := text.dropWhile Char.isDigit
  match digits with
  | [] => .error (if text.isEmpty then .ended else .malformed)
  | '0' :: _ :: _ => .error .malformed
  | _ =>
    let (significand, unused) := takeDigits 0 digits
    let exponent : Int := unused.length
    match rest with
    | '.' :: rest => fractionPart negative significand exponent rest
    | 'e' :: rest => exponentPart negative significand exponent rest
    | 'E' :: rest => exponentPart negative significand exponent rest
    | _ =>
      if unused.isEmpty then .ok (wholeNumeral negative significand, rest)
      else do return (← floatNumeral negative significand exponent, rest)

/-- A number whose first character is a hyphen or a digit. -/
def numeral : Reader Numeral
  | '-' :: rest => unsignedNumber true rest
  | text => unsignedNumber false text

end TagQuery.Json
