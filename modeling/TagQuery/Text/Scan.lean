import TagQuery.Decimal.Digits

/-!
# Scanners

A scanner looks at the front of a text and either takes a part of it or
declines.  Lists of items between separators are scanned with a guard: an item
and its separator have to take at least one character together, so a scan ends.
-/

namespace TagQuery.Text

/-- What is taken from the front of a text, and the text that is left; `none` declines. -/
abbrev Scanner (α : Type) :=
  StateT (List Char) Option α

namespace Scanner

/-- Takes one fixed word. -/
def literal (word : List Char) : Scanner (List Char) :=
  fun text =>
    if word.isPrefixOf text then some (word, text.drop word.length) else none

/-- Takes all before the first occurrence of a word, and declines where there is none. -/
def upTo (word : List Char) : Scanner (List Char)
  | [] => if word.isEmpty then some ([], []) else none
  | c :: rest =>
    if word.isPrefixOf (c :: rest) then some ([], c :: rest)
    else (upTo word rest).map fun (front, back) => (c :: front, back)

def remainder : Scanner (List Char) :=
  fun text => some (text, [])

/-- The first scanner, and where it declines the second. -/
def orElse (first second : Scanner α) : Scanner α :=
  fun text => (first text).or (second text)

/-- Takes one character of the given kind. -/
def one (kind : Char → Bool) : Scanner Char
  | [] => none
  | c :: rest => if kind c then some (c, rest) else none

/-- Takes the longest front of characters of the given kind, which may be empty. -/
def many (kind : Char → Bool) : Scanner (List Char) :=
  fun text => some (text.takeWhile kind, text.dropWhile kind)

/-- Takes what the scanner takes; where it declines, nothing. -/
def optional (scanner : Scanner α) : Scanner (Option α) :=
  fun text =>
    match scanner text with
    | none => some (none, text)
    | some (x, rest) => some (some x, rest)

/-- Takes between one and `most` decimal digits, read as a number. -/
def number (most : Nat) : Scanner Nat :=
  fun text =>
    let digits := (text.take most).takeWhile Char.isDigit
    if digits.isEmpty then none
    else some (Decimal.ofDigits digits, text.drop digits.length)

/-- The value of a text that the scanner takes as a whole. -/
def whole? (scanner : Scanner α) (text : List Char) : Option α :=
  match scanner text with
  | some (x, []) => some x
  | _ => none

/-- Takes pairs of a separator and an item as long as both are there. -/
def separatedMore (separator : Scanner β) (item : Scanner α) (text : List Char) :
    Option (List α × List Char) :=
  match separator text with
  | none => some ([], text)
  | some (_, afterSeparator) =>
    match item afterSeparator with
    | none => some ([], text)
    | some (x, rest) =>
      if rest.length < text.length then
        (separatedMore separator item rest).map fun (xs, left) => (x :: xs, left)
      else none
termination_by text.length

/--
Takes items with separators between them.  Declines only where a separator and
an item together take nothing.
-/
def separated (separator : Scanner β) (item : Scanner α) : Scanner (List α) :=
  fun text =>
    match item text with
    | none => some ([], text)
    | some (x, rest) =>
      (separatedMore separator item rest).map fun (xs, left) => (x :: xs, left)

end Scanner

end TagQuery.Text
