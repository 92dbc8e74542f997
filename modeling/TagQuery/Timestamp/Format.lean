import TagQuery.Text.Blank
import TagQuery.Text.Scan
import TagQuery.Timestamp

/-!
# Timestamps as text

Timestamps are written as in RFC 3339, in universal time.  Reading is lenient
about blanks and missing zeros, but the time of day and the distance from
universal time have to be there.
-/

namespace TagQuery.Timestamp

open Text

/-! ## Writing -/

/-- A number with at least `width` digits. -/
def padded (width n : Nat) : List Char :=
  let digits := Nat.toDigits 10 n
  List.replicate (width - digits.length) '0' ++ digits

/-- A year: four digits, and beyond those a sign and at least four. -/
def yearChars (year : Int) : List Char :=
  if 0 ≤ year && year ≤ 9999 then padded 4 year.toNat
  else (if year < 0 then '-' else '+') :: padded 4 year.natAbs

/-- The part of a second: nothing, or the fewest of three, six or nine digits. -/
def fractionChars (nano : Nat) : List Char :=
  if nano == 0 then []
  else if nano % 1000000 == 0 then '.' :: padded 3 (nano / 1000000)
  else if nano % 1000 == 0 then '.' :: padded 6 (nano / 1000)
  else '.' :: padded 9 nano

def text (t : Timestamp) : String :=
  let day := Calendar.Day.ofNumber (t.second / 86400)
  let clock := (t.second % 86400).toNat
  let leap := t.nano / nanosPerSecond
  String.ofList <|
    yearChars day.year ++ '-' :: padded 2 day.month ++ '-' :: padded 2 day.day ++
      'T' :: padded 2 (clock / 3600) ++ ':' :: padded 2 (clock / 60 % 60) ++
      ':' :: padded 2 (clock % 60 + leap) ++ fractionChars (t.nano % nanosPerSecond) ++ ['Z']

/-! ## Reading -/

/-- A fixed character after any blanks. -/
def mark (c : Char) : Scanner Unit := do
  discard <| Scanner.many isBlank
  discard <| Scanner.one (· == c)

/-- A number of one or two digits after any blanks. -/
def twoDigits : Scanner Nat := do
  discard <| Scanner.many isBlank
  Scanner.number 2

/-- A year: up to four digits, or a sign and any number of digits. -/
def year : Scanner Int := do
  discard <| Scanner.many isBlank
  match ← Scanner.optional (Scanner.one fun c => c == '-' || c == '+') with
  | none => return (← Scanner.number 4 : Nat)
  | some sign =>
    let size ← fun text => Scanner.number text.length text
    return if sign == '-' then -(size : Int) else (size : Int)

/-- A day of the calendar, with the given hyphens; its numbers may have blanks before them. -/
def dayScanner (hyphen : Scanner Unit) : Scanner Calendar.Day := do
  let year ← year
  hyphen
  let month ← twoDigits
  hyphen
  let day ← twoDigits
  return ⟨year, month, day⟩

/-- The digits after the decimal point as nanoseconds; those after the ninth do not count. -/
def fraction : Scanner Nat := do
  match ← Scanner.optional (Scanner.one (· == '.')) with
  | none => return 0
  | some _ =>
    let before ← get
    let digits ← Scanner.number 9
    let after ← get
    discard <| Scanner.many Char.isDigit
    return digits * Nat.pow 10 (9 - (before.length - after.length))

/-- Seconds since midnight, and nanoseconds, which run past the second in a leap second. -/
def clockScanner : Scanner (Nat × Nat) := do
  let hour ← twoDigits
  mark ':'
  let minute ← twoDigits
  mark ':'
  let second ← twoDigits
  let nano ← fraction
  if hour < 24 && minute < 60 && second ≤ 60 then
    let midnight := 3600 * hour + 60 * minute
    if second == 60 then return (midnight + 59, nanosPerSecond + nano)
    else return (midnight + second, nano)
  else failure

def digitPair : Scanner Nat := do
  let tens ← Scanner.one Char.isDigit
  let units ← Scanner.one Char.isDigit
  return Decimal.ofDigits [tens, units]

/-- Hours and minutes with a sign; colons and blanks may stand between them. -/
def signedOffset : Scanner Int := do
  let sign ← Scanner.one fun c => c == '+' || c == '-' || c == '\u2212'
  let hours ← digitPair
  discard <| Scanner.many fun c => c == ':' || isBlank c
  let minutes ← digitPair
  if hours < 24 && minutes < 60 then
    let size : Int := 3600 * hours + 60 * minutes
    return if sign == '+' then size else -size
  else failure

/-- The letters that stand for universal time. -/
def universal : Scanner Int := fun text =>
  if (text.take 3).map Char.toUpper == ['U', 'T', 'C'] then some (0, text.drop 3)
  else match text with
    | 'Z' :: rest => some (0, rest)
    | 'z' :: rest => some (0, rest)
    | _ => none

/-- How many seconds the local time is ahead of universal time. -/
def offset : Scanner Int := do
  discard <| Scanner.many isBlank
  Scanner.orElse universal signedOffset

/-- A timestamp in local time with its distance from universal time; blanks may follow. -/
def scanner : Scanner Timestamp := do
  let day ← dayScanner (mark '-')
  discard <| Scanner.one fun c => c == 't' || c == 'T' || c == ' '
  let (clock, nano) ← clockScanner
  let ahead ← offset
  discard <| Scanner.many isBlank
  if day.isValid then
    match ofParts? (day.toNumber * 86400 + clock - ahead) nano with
    | some t => return t
    | none => failure
  else failure

/-- The timestamp that a text stands for. -/
def read? (s : String) : Option Timestamp :=
  Scanner.whole? scanner s.toList

/--
The midnight that a date without a time stands for.  Blanks may stand around the
date and before its numbers, but not before a hyphen.
-/
def readDay? (s : String) : Option Timestamp :=
  (Scanner.whole? (dayScanner (discard <| Scanner.one (· == '-'))) (trim s.toList)).bind ofDay?

end TagQuery.Timestamp
