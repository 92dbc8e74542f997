import TagQuery.Pattern.Automaton.Characters
import TagQuery.Pattern.Automaton.Words
import TagQuery.Pattern.Simplified

/-!
# The automaton of an expression

An expression stands for two automata, one that reads a text forward and one that
reads it backward.  They are never run here, since matches are told from the
expression itself; but an expression is too large when one of them does not fit
into the room there is.
-/

namespace TagQuery.Pattern

namespace Expr

/-! ## Where matches lie -/

/-- Some part is a set without members. -/
def hasEmptySet : Expr → Bool
  | .oneOf set => set.isEmpty
  | .group _ body => body.hasEmptySet
  | .seq first rest => first.hasEmptySet || rest.hasEmptySet
  | .alt earlier last => earlier.hasEmptySet || last.hasEmptySet
  | .repeated body _ _ _ => body.hasEmptySet
  | _ => false

/-- No match is empty, going by the parts alone. -/
def alwaysConsumes : Expr → Bool
  | .empty => false
  | .literal _ => true
  | .oneOf _ => true
  | .anchor _ => false
  | .group _ body => body.alwaysConsumes
  | .seq first rest => first.alwaysConsumes || rest.alwaysConsumes
  | .alt earlier last => earlier.alwaysConsumes && last.alwaysConsumes
  | .repeated body least _ _ => 0 < least && body.alwaysConsumes

/-- Every match begins where the property holds. -/
def beginsAt (property : Anchor) : Expr → Bool
  | .anchor found => found = property
  | .group _ body => body.beginsAt property
  | .seq first rest =>
    first.beginsAt property || (!first.mayConsume && rest.beginsAt property)
  | .alt earlier last => earlier.beginsAt property && last.beginsAt property
  | .repeated body least _ _ => 0 < least && body.beginsAt property
  | _ => false

/-- Every match ends where the property holds. -/
def endsAt (property : Anchor) : Expr → Bool
  | .anchor found => found = property
  | .group _ body => body.endsAt property
  | .seq first rest =>
    rest.endsAt property || (!rest.mayConsume && first.endsAt property)
  | .alt earlier last => earlier.endsAt property && last.endsAt property
  | .repeated body least _ _ => 0 < least && body.endsAt property
  | _ => false

def isChoice : Expr → Bool
  | .alt _ _ => true
  | _ => false

/-- The octets of a plain text. -/
def word? : Expr → Option Automaton.Word
  | .literal text => some (text.flatMap String.utf8EncodeChar)
  | _ => none

end Expr

namespace Automaton

/-- The direction in which an automaton reads a text. -/
inductive Direction where
  | forward
  | backward
  deriving DecidableEq, Repr

/-- Lays out one character of a set. -/
def laySet (direction : Direction) (set : Text.CodeSet) : Assembly Unit := do
  if set.isAscii then
    let _ ← newState
    discard <| newTable set.runs.length
  else
    match direction with
    | .forward => layForward set.octetSequences
    | .backward => layBackward set.octetSequences

/-- Lays out a repetition of a part. -/
def layRepeated (part : Assembly Exit) (alwaysConsumes : Bool) (least : Nat) :
    Option Nat → Assembly Exit
  | none =>
    match least with
    | 0 => do
      if alwaysConsumes then
        let _ ← newState
        let exit ← part
        grow { links := 1 }
        exit.join
        return .fork
      else
        let exit ← part
        exit.join
        grow { states := 3, links := 4 }
        return .plain
    | 1 => do
      let exit ← part
      exit.join
      grow { states := 1, links := 1 }
      return .fork
    | more + 2 => do
      let before ← repeatTimes part (more + 1)
      let exit ← part
      before.join
      exit.join
      grow { states := 1, links := 1 }
      return .fork
  | some most => do
    if least = 0 && most = 1 then
      let _ ← newState
      let exit ← part
      exit.join
      grow { states := 1, links := 2 }
      return .plain
    else
      let before ← repeatTimes part least
      if least = most then return before
      else
        let _ ← newState
        let exit ← repeatOptional part before (most - least)
        exit.join
        return .plain

/--
Lays out an expression; `continued` tells that more alternatives follow those of
the expression, so that they share their fork and their end.
-/
def lay (direction : Direction) (continued : Bool) : Expr → Assembly Exit
  | .empty => do
    let _ ← newState
    return .plain
  | .literal text => do
    grow { states := text.foldl (fun octets c => octets + c.utf8Size) 0 }
    return .plain
  | .oneOf set => do
    laySet direction set
    return .plain
  | .anchor _ => do
    let _ ← newState
    return .plain
  | .group _ body =>
    match direction with
    | .forward => do
      let _ ← newState
      let exit ← lay direction false body
      let _ ← newState
      exit.join
      return .plain
    | .backward => lay direction false body
  | .seq first rest =>
    match direction with
    | .forward => do
      let exit ← lay direction false first
      let last ← lay direction false rest
      exit.join
      return last
    | .backward => do
      let exit ← lay direction false rest
      let last ← lay direction false first
      exit.join
      return last
  | .alt earlier last => do
    let words? := if continued then none else (Expr.alt earlier last).branches.mapM (·.word?)
    match words? with
    | some words =>
      layWords (match direction with
        | .forward => words
        | .backward => words.map List.reverse)
      return .plain
    | none =>
      let exit ← lay direction true earlier
      let lastExit ← lay direction false last
      if !earlier.isChoice then
        grow { states := 2, links := 1 }
        exit.join
      grow { links := 1 }
      lastExit.join
      return .plain
  | .repeated body least most _ =>
    layRepeated (lay direction false body) (body.alwaysConsumes && !body.hasEmptySet) least most

/--
Lays out the whole automaton.  Unless every match is bound to the end of the text
at which reading starts, a loop in front skips what comes before a match.
-/
def layWhole (direction : Direction) (expr : Expr) : Assembly Unit := do
  let bound := match direction with
    | .forward => expr.beginsAt .textStart
    | .backward => expr.endsAt .textEnd
  if bound then grow { states := 1 } else grow { states := 3, arcs := 1, links := 1 }
  match direction with
  | .forward =>
    let _ ← newState
    let exit ← lay direction false expr
    exit.join
    grow { states := 2 }
  | .backward =>
    let exit ← lay direction false expr
    exit.join
    grow { states := 1 }
  if !bound then grow { links := 1 }

/-- The automaton fits into the room there is. -/
def fits (direction : Direction) (expr : Expr) : Bool :=
  ((layWhole direction expr).run {}).isSome

end Automaton

/-- Both automata of the expression fit into the room there is. -/
def Expr.isSmall (expr : Expr) : Bool :=
  Automaton.fits .backward expr && Automaton.fits .forward expr

end TagQuery.Pattern
