import TagQuery.Calendar

/-!
# Points in time

A timestamp is a second of universal time and a position within it.  The last
second of a minute may be a leap second, which runs on past its end, so that it
sorts after all of that second and before the next.
-/

namespace TagQuery

/-- How far inside a second a timestamp can be, in a leap second. -/
def nanosPerLeapSecond : Nat := 2000000000

/-- How many nanoseconds an ordinary second has. -/
def nanosPerSecond : Nat := 1000000000

structure Timestamp where
  /-- Seconds since the beginning of 1970. -/
  second : Int
  /-- Nanoseconds since the beginning of the second. -/
  nano : Nat
  /-- No timestamp is before the first year. -/
  earliest_le : -8334601228800 ≤ second
  /-- No timestamp is after the last year. -/
  le_latest : second ≤ 8210266876799
  /-- Only the last second of a minute runs on. -/
  nano_lt : nano < nanosPerSecond ∨ nano < nanosPerLeapSecond ∧ second % 60 = 59
  deriving DecidableEq

namespace Timestamp

/-- A timestamp comes before or is another, by the second and then within it. -/
def AtMost (a b : Timestamp) : Prop :=
  a.second < b.second ∨ a.second = b.second ∧ a.nano ≤ b.nano

instance : LE Timestamp := ⟨AtMost⟩

instance : LT Timestamp := ⟨fun a b => ¬ b ≤ a⟩

instance (a b : Timestamp) : Decidable (a ≤ b) :=
  inferInstanceAs (Decidable (a.second < b.second ∨ a.second = b.second ∧ a.nano ≤ b.nano))

instance (a b : Timestamp) : Decidable (a < b) :=
  inferInstanceAs (Decidable (¬ b ≤ a))

instance : Min Timestamp := minOfLe

instance : Max Timestamp := maxOfLe

/-- The timestamp with the given second and position, if there is one. -/
def ofParts? (second : Int) (nano : Nat) : Option Timestamp :=
  if low : -8334601228800 ≤ second then
    if high : second ≤ 8210266876799 then
      if inside : nano < nanosPerSecond ∨ nano < nanosPerLeapSecond ∧ second % 60 = 59 then
        some ⟨second, nano, low, high, inside⟩
      else none
    else none
  else none

def epoch : Timestamp :=
  ⟨0, 0, by decide, by decide, by decide⟩

/-- The first instant of the first year. -/
def earliest : Timestamp :=
  ⟨-8334601228800, 0, by decide, by decide, by decide⟩

/-- The last instant of the last year, leap seconds apart. -/
def latest : Timestamp :=
  ⟨8210266876799, 999999999, by decide, by decide, by decide⟩

/-- Midnight at the beginning of a day, if the day exists. -/
def ofDay? (d : Calendar.Day) : Option Timestamp :=
  if d.isValid then ofParts? (d.toNumber * 86400) 0 else none

/-- Midnight at the beginning of a day; of a day that does not exist, the epoch. -/
def midnight (year : Int) (month day : Nat) : Timestamp :=
  (ofDay? ⟨year, month, day⟩).getD epoch

end Timestamp

end TagQuery
