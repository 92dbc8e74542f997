import TagQuery.Pattern.Reader.Depth
import TagQuery.Pattern.Reader.Escape
import TagQuery.Pattern.Reader.Flags

/-!
# Bracketed classes

Sets of characters between brackets: single characters and ranges, classes by
name, classes inside classes, and the operations of sets on what stands to the
left and to the right of an operator.
-/

namespace TagQuery.Pattern

open Text (CodeSet)

/-- The classes that are named between colons inside a bracketed class. -/
def namedClass? (name : List Char) : Option CodeSet :=
  (match String.ofList name with
  | "alnum" => some [('0', '9'), ('A', 'Z'), ('a', 'z')]
  | "alpha" => some [('A', 'Z'), ('a', 'z')]
  | "ascii" => some [('\x00', '\x7f')]
  | "blank" => some [('\t', '\t'), (' ', ' ')]
  | "cntrl" => some [('\x00', '\x1f'), ('\x7f', '\x7f')]
  | "digit" => some [('0', '9')]
  | "graph" => some [('!', '~')]
  | "lower" => some [('a', 'z')]
  | "print" => some [(' ', '~')]
  | "punct" => some [('!', '/'), (':', '@'), ('[', '\x60'), ('\x7b', '~')]
  | "space" => some [('\t', '\r'), (' ', ' ')]
  | "upper" => some [('A', 'Z')]
  | "word" => some [('0', '9'), ('A', 'Z'), ('_', '_'), ('a', 'z')]
  | "xdigit" => some [('0', '9'), ('A', 'F'), ('a', 'f')]
  | _ => none).map CodeSet.ofRanges

/-- A set that was read, negated if a caret came before it. -/
def Flags.finishSet (flags : Flags) (negated : Bool) (set : CodeSet) : CodeSet :=
  if negated then (flags.widen set).compl else flags.widen set

/-- A named class after its opening bracket and colon, up to its closing ones. -/
def namedClassEnd? (flags : Flags) (text : List Char) : Option (CodeSet × List Char) :=
  let (negated, text) := match text with
    | '^' :: rest => (true, rest)
    | _ => (false, text)
  match text.dropWhile Char.isLower with
  | ':' :: ']' :: rest =>
    (namedClass? (text.takeWhile Char.isLower)).map fun set =>
      (flags.finishSet negated set, rest)
  | _ => none

/-- One item of a class: a character, or a class of its own. -/
def classItem? : List Char → Option (Escape × List Char)
  | [] => none
  | '\\' :: rest => escape? rest
  | c :: rest => some (.literal c, rest)

/-- How the part of a class before an operator is joined to the part after it. -/
inductive ClassJoin where
  | intersection
  | difference
  | symmetricDifference

/-- The two parts of a class under the operator between them. -/
def ClassJoin.apply : ClassJoin → CodeSet → CodeSet → CodeSet
  | .intersection => .inter
  | .difference => .diff
  | .symmetricDifference => .symmDiff

/-- The class read so far: a finished left part with its operator, and the part being read. -/
structure ClassSoFar where
  left : Option (Nested CodeSet × ClassJoin)
  /-- What the items of the part being read have between them. -/
  right : CodeSet
  /-- How deeply each of these items is nested. -/
  depths : List Nat

namespace ClassSoFar

def start : ClassSoFar :=
  ⟨none, .empty, []⟩

def add (sofar : ClassSoFar) (item : Nested CodeSet) : ClassSoFar :=
  { sofar with right := sofar.right.union item.value, depths := item.depth :: sofar.depths }

def addChar (sofar : ClassSoFar) (c : Char) : ClassSoFar :=
  sofar.add ⟨.singleton c, 0⟩

def finish (sofar : ClassSoFar) (flags : Flags) : Nested CodeSet :=
  let right : Nested CodeSet := ⟨flags.widen sofar.right, Nested.depthOf sofar.depths⟩
  match sofar.left with
  | none => right
  | some (left, join) =>
    ⟨join.apply left.value right.value, Nested.depthOf [left.depth, right.depth]⟩

/-- What has been read becomes the left part of an operator. -/
def join (sofar : ClassSoFar) (flags : Flags) (operator : ClassJoin) : ClassSoFar :=
  ⟨some (sofar.finish flags, operator), .empty, []⟩

end ClassSoFar

/-- A range of characters, or the single item where no range follows. -/
def classRange? (flags : Flags) (text : List Char) : Option (CodeSet × List Char) := do
  let (first, rest) ← classItem? text
  let rest := flags.skip rest
  let isRange := match rest with
    | '-' :: more => match flags.skip more with
      | c :: _ => c != ']' && c != '-'
      | [] => true
    | _ => false
  if isRange then
    match first, ← classItem? (flags.skip (rest.drop 1)) with
    | .literal low, (.literal high, rest) =>
      if low ≤ high then return (.ofRange low high, rest) else none
    | _, _ => none
  else
    match first with
    | .literal c => return (.singleton c, rest)
    | .charClass set => return (set, rest)
    | .anchor _ => none

/-- Hyphens at the front of a class stand for themselves; every step takes a character. -/
def leadingHyphens (flags : Flags) (sofar : ClassSoFar) (text : List Char) :
    Nat → ClassSoFar × List Char
  | 0 => (sofar, text)
  | fuel + 1 =>
    match text with
    | '-' :: rest => leadingHyphens flags (sofar.addChar '-') (flags.skip rest) fuel
    | _ => (sofar, text)

/--
The opening of a class after its bracket: whether it is negated, and the items
that stand for themselves only here.
-/
def classOpening (flags : Flags) (text : List Char) : Bool × ClassSoFar × List Char :=
  let (negated, text) := match flags.skip text with
    | '^' :: rest => (true, flags.skip rest)
    | text => (false, text)
  match text with
  | ']' :: rest => (negated, ClassSoFar.start.addChar ']', rest)
  | _ => (negated, leadingHyphens flags .start text text.length)

/--
The rest of a class up to its closing bracket, inside so many others; every step
takes a character.
-/
def classRest? (flags : Flags) (enclosing : Nat) (negated : Bool) (sofar : ClassSoFar)
    (text : List Char) : Nat → Option (Nested CodeSet × List Char)
  | 0 => none
  | fuel + 1 =>
    let goOn (sofar : ClassSoFar) (rest : List Char) :=
      classRest? flags enclosing negated sofar rest fuel
    match flags.skip text with
    | [] => none
    | ']' :: rest =>
      some ((sofar.finish flags).wrap fun set => if negated then set.compl else set, rest)
    | '&' :: '&' :: rest => goOn (sofar.join flags .intersection) rest
    | '-' :: '-' :: rest => goOn (sofar.join flags .difference) rest
    | '~' :: '~' :: rest => goOn (sofar.join flags .symmetricDifference) rest
    | '[' :: rest =>
      let named? := match rest with
        | ':' :: name => namedClassEnd? flags name
        | _ => none
      match named? with
      | some (set, rest) => goOn (sofar.add ⟨set, 0⟩) rest
      | none =>
        if maxDepth < enclosing then none
        else
          let (innerNegated, inner, rest) := classOpening flags rest
          match classRest? flags (enclosing + 1) innerNegated inner rest fuel with
          | some (item, rest) => goOn (sofar.add item) rest
          | none => none
    | text =>
      match classRange? flags text with
      | some (set, rest) => goOn (sofar.add ⟨set, 0⟩) rest
      | none => none

/-- A bracketed class after its opening bracket. -/
def bracketed? (flags : Flags) (text : List Char) : Option (Nested CodeSet × List Char) :=
  let (negated, sofar, rest) := classOpening flags text
  classRest? flags 0 negated sofar rest (text.length + 1)

end TagQuery.Pattern
