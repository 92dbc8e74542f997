import Std.Data.ExtTreeSet
import TagQuery.Text.WordChars

/-!
# Regular expressions and where they match

An expression takes a set of places in a text to the set of places at which it
can end when it begins at one of them.  Places are never visited twice, so a
repetition of something empty does no harm.
-/

namespace TagQuery.Pattern

/-- A property of a place between two characters. -/
inductive Anchor where
  | textStart
  | textEnd
  | lineStart
  | lineEnd
  | wordBoundary
  | noWordBoundary
  | wordStart
  | wordEnd
  /-- No word character comes before. -/
  | wordStartHalf
  /-- No word character comes after. -/
  | wordEndHalf
  deriving DecidableEq, Repr

/-- A regular expression. -/
inductive Expr where
  | empty
  /-- The characters of a text, one after the other. -/
  | literal (text : List Char)
  /-- One character of a set. -/
  | oneOf (set : Text.CodeSet)
  /-- The empty text at places with a property. -/
  | anchor (property : Anchor)
  | group (number : Nat) (body : Expr)
  /-- One expression after the other; a longer sequence goes on in the second. -/
  | seq (first rest : Expr)
  /-- Either of two expressions; of more alternatives the earlier ones are in the first. -/
  | alt (earlier last : Expr)
  /--
  At least so many times the expression, and at most so many if there is a limit.
  A lazy repetition matches the same texts.
  -/
  | repeated (body : Expr) (least : Nat) (most : Option Nat) (isLazy : Bool)
  deriving DecidableEq, Repr

/-- Places in a text, as the number of characters before them. -/
abbrev Places := Std.ExtTreeSet Nat

/-- The character before a place, if there is one. -/
def charBefore? (text : Array Char) (place : Nat) : Option Char :=
  if place = 0 then none else text[place - 1]?

/-- A word character; no character at all is none. -/
def isWord (c? : Option Char) : Bool :=
  c?.any Text.wordChars.contains

/-- The place has the property. -/
def Anchor.holds (text : Array Char) (place : Nat) (anchor : Anchor) : Bool :=
  let before := charBefore? text place
  let after := text[place]?
  match anchor with
  | .textStart => before.isNone
  | .textEnd => after.isNone
  | .lineStart => before.isNone || before == some '\n'
  | .lineEnd => after.isNone || after == some '\n'
  | .wordBoundary => isWord before != isWord after
  | .noWordBoundary => isWord before == isWord after
  | .wordStart => !isWord before && isWord after
  | .wordEnd => isWord before && !isWord after
  | .wordStartHalf => !isWord before
  | .wordEndHalf => !isWord after

/-- The places after the characters that are accepted at the given ones. -/
def advance (text : Array Char) (accepts : Char → Bool) (places : Places) : Places :=
  .ofList (places.toList.filterMap fun place =>
    match text[place]? with
    | some c => if accepts c then some (place + 1) else none
    | none => none)

/-- Applies a step as often as given; once it changes nothing it is not taken again. -/
def times (step : Places → Places) (places : Places) : Nat → Places
  | 0 => places
  | n + 1 =>
    let stepped := step places
    if stepped.toList = places.toList then places else times step stepped n

/--
Adds what a step reaches, as often as given or until nothing new is reached.  A
step is taken only from places that are new, because it leads from a set to what
it leads to from each of its places.
-/
def growing (step : Places → Places) (reached fresh : Places) : Nat → Places
  | 0 => reached
  | n + 1 =>
    let next := (step fresh).filter fun place => !reached.contains place
    if next.isEmpty then reached else growing step (reached.insertMany next.toList) next n

/-- The places at which the expression can end when it begins at one of the given ones. -/
def Expr.ends (text : Array Char) : Expr → Places → Places
  | .empty, places => places
  | .literal chars, places => chars.foldl (fun places c => advance text (· == c) places) places
  | .oneOf set, places => advance text set.contains places
  | .anchor property, places => places.filter fun place => property.holds text place
  | .group _ body, places => body.ends text places
  | .seq first rest, places => rest.ends text (first.ends text places)
  | .alt earlier last, places => earlier.ends text places ∪ last.ends text places
  | .repeated body least most _, places =>
    let reached := times (fun from_ => body.ends text from_) places least
    let more := match most with
      | none => text.size + 1
      | some limit => limit - least
    growing (fun from_ => body.ends text from_) reached reached more

def Expr.occursIn (expr : Expr) (text : Array Char) : Bool :=
  !(expr.ends text (.ofList (List.range (text.size + 1)))).isEmpty

end TagQuery.Pattern
