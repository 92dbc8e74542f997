import TagQuery.Text.Casing

/-!
# Lower case

Lower case by the full rules of Unicode that hold in every language: `İ` becomes
two characters, and a capital sigma at the end of a word becomes a final sigma.
-/

namespace TagQuery.Text

/-- The lower case of a character that does not look at its neighbours. -/
def lowerChar (c : Char) : List Char :=
  if c == '\u0130' then ['i', '\u0307']
  else
    match lowerShifts.findSome? (·.moved? c.toNat) with
    | some code => [Char.ofNat code]
    | none => [c]

/-- Looking away from a place, a letter with case is the first thing that counts. -/
def meetsCased (side : List Char) : Bool :=
  match side.dropWhile caseIgnorable.contains with
  | [] => false
  | c :: _ => cased.contains c

/-- The lower case of a text that stands after the reversed text `before`. -/
def lowerAfter (before : List Char) : List Char → List Char
  | [] => []
  | c :: rest =>
    let lowered :=
      if c == 'Σ' then [if meetsCased before && !meetsCased rest then 'ς' else 'σ']
      else lowerChar c
    lowered ++ lowerAfter (c :: before) rest

def lower (text : List Char) : List Char :=
  lowerAfter [] text

end TagQuery.Text
