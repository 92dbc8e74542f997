import TagQuery.Query

/-!
# Queries in words

What a query asks of categories, in words that the caller can choose.
-/

namespace TagQuery

/-- The words in which a query is told; braces in a phrase stand for the category. -/
structure Wording where
  and : String
  or : String
  not : String
  noTag : String
  noOther : String
  /-- Stands between categories, and between terms where there are no alternatives. -/
  separator : String

namespace Wording

/-- The words used where nothing else is said. -/
def english : Wording :=
  { and := "and", or := "or", not := "not", noTag := "No \x7b\x7d",
    noOther := "No other \x7b\x7d", separator := " / " }

/-- A phrase with the category in place of the braces. -/
def fill (phrase category : String) : String :=
  String.ofList (Text.replaceAll ['\x7b', '\x7d'] category.toList phrase.toList)

/-- A term in words. -/
def term (words : Wording) (value : String) (negated : Bool) : String :=
  if negated then words.not ++ " " ++ value else value

mutual

/-- A matcher in words, with the given text between the terms of an alternative. -/
def tell (words : Wording) (and : String) : Matcher → String
  | .or children => (" " ++ words.or ++ " ").intercalate (tellAll words and children)
  | .and children => and.intercalate (tellAll words and children)
  | .not child => words.not ++ " " ++ tell words and child
  | .value v => v.value
  | .noTag category => fill words.noOther category
  | .exact category terms =>
    and.intercalate
      (terms.map (fun t => words.term t.value.value t.negated) ++ [fill words.noOther category])
  | .wildcard w => w.pattern.source

def tellAll (words : Wording) (and : String) : List Matcher → List String
  | [] => []
  | child :: children => tell words and child :: tellAll words and children

end

/-- The matcher of a whole category in words. -/
def tellRoot (words : Wording) (root : Matcher) : String :=
  let told :=
    match root with
    | .or _ => tell words (" " ++ words.and ++ " ") root
    | .noTag category => fill words.noTag category
    | _ => tell words words.separator root
  Text.singleSpaced told

end Wording

/-- What the query asks of categories, in words. -/
def SearchQuery.describe (q : SearchQuery) (words : Wording) : String :=
  words.separator.intercalate ((Matcher.ofTexts (.empty 0) q.texts).map words.tellRoot)

end TagQuery
