/-!
# Cutting a text at a separator

The plain way to cut a text: from left to right, at every occurrence of the
separator that does not overlap the one before.  Joining the pieces with the
separator gives the text back.
-/

namespace TagQuery.Text

/--
The pieces of a text of which the first `skip` characters belong to a separator
that has already been seen.
-/
def piecesFrom (separator : List Char) (skip : Nat) : List Char → List (List Char)
  | [] => [[]]
  | c :: rest =>
    match skip with
    | skip + 1 => piecesFrom separator skip rest
    | 0 =>
      if separator.isPrefixOf (c :: rest) then
        [] :: piecesFrom separator (separator.length - 1) rest
      else match piecesFrom separator 0 rest with
        | [] => [[c]]
        | piece :: more => (c :: piece) :: more

/-- The pieces between the occurrences of a separator, which is not empty. -/
def pieces (separator text : List Char) : List (List Char) :=
  piecesFrom separator 0 text

/-- The text before and after the first occurrence of a separator. -/
def cutFirst? (separator : List Char) : List Char → Option (List Char × List Char)
  | [] => none
  | c :: rest =>
    if separator.isPrefixOf (c :: rest) then
      some ([], (c :: rest).drop separator.length)
    else
      (cutFirst? separator rest).map fun (front, back) => (c :: front, back)

/-- Some stretch of the text is the given word. -/
def occursIn (word : List Char) : List Char → Bool
  | [] => word.isEmpty
  | c :: rest => word.isPrefixOf (c :: rest) || occursIn word rest

/-- The text with every occurrence of a word replaced by another, from left to right. -/
def replaceAll (word replacement text : List Char) : List Char :=
  replacement.intercalate (pieces word text)

end TagQuery.Text
