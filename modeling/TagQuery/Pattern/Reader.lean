import TagQuery.Decimal.Digits
import TagQuery.Pattern.Reader.Bracketed

/-!
# Reading regular expressions

The dialect has literals, the dot, anchors, bracketed classes with nesting and
set operations, the Unicode classes `\d`, `\s` and `\w`, groups, flags,
alternatives and repetitions.  It has no look-around and no references to
earlier groups, and an expression that uses them cannot be read.  Expressions are
simplified as they are read.
-/

namespace TagQuery.Pattern

/-! ## Repetitions -/

/-- The digits at the front of a text, and the text after them; each may be followed by blanks. -/
def digitsOf (flags : Flags) : Nat → List Char → List Char × List Char
  | 0, text => ([], text)
  | fuel + 1, text =>
    match text with
    | [] => ([], [])
    | c :: rest =>
      if c.isDigit then
        let (digits, rest) := digitsOf flags fuel (flags.skip rest)
        (c :: digits, rest)
      else ([], c :: rest)

/-- The text without the white space at its front, whether it counts or not. -/
def skipSpaces (flags : Flags) : Nat → List Char → List Char
  | 0, text => text
  | fuel + 1, text =>
    match text with
    | [] => []
    | c :: rest => if Text.isBlank c then skipSpaces flags fuel (flags.skip rest) else c :: rest

/-- A decimal number of 32 bits with white space around it. -/
def count? (flags : Flags) (text : List Char) : Option (Nat × List Char) :=
  let (digits, rest) := digitsOf flags text.length (text.dropWhile Text.isBlank)
  let n := Decimal.ofDigits digits
  if digits.isEmpty || UInt32.size ≤ n then none
  else some (n, skipSpaces flags rest.length rest)

/--
The bounds of a repetition after the opening brace, up to the closing one.  A
comma that no number follows stands right before the closing brace.
-/
def bounds? (flags : Flags) (text : List Char) : Option ((Nat × Option Nat) × List Char) := do
  let (least, rest) ← count? flags (flags.skip text)
  match rest with
  | '\x7d' :: rest => return ((least, some least), rest)
  | ',' :: rest =>
    match flags.skip rest with
    | '\x7d' :: rest => return ((least, none), rest)
    | rest =>
      let (most, rest) ← count? flags rest
      match rest with
      | '\x7d' :: rest =>
        if least ≤ most then return ((least, some most), rest) else none
      | _ => none
  | _ => none

/-- A mark after a repetition: whether it is there, and the text after it. -/
def lazyMark : List Char → Bool × List Char
  | '?' :: rest => (true, rest)
  | text => (false, text)

/-! ## Groups -/

/-- Sets or clears one flag; the flag for Unicode is always set. -/
def Flags.put? (flags : Flags) (c : Char) (value : Bool) : Option Flags :=
  match c with
  | 'i' => some { flags with ignoreCase := value }
  | 'm' => some { flags with multiLine := value }
  | 's' => some { flags with dotAll := value }
  | 'x' => some { flags with verbose := value }
  | 'U' => some { flags with swapLazy := value }
  | 'u' => if value then some flags else none
  | _ => none

/--
The flags written before a colon or a closing parenthesis: the flags that result,
whether any was written, and the text from that character on.  A flag is written
once, and a hyphen, after which flags are cleared, has one behind it.
-/
def flagList? (flags : Flags) (seen : List Char) (value : Bool) :
    List Char → Option (Flags × List Char)
  | [] => none
  | c :: rest =>
    if c == ':' || c == ')' then
      if seen.head? == some '-' then none else some (flags, c :: rest)
    else if seen.contains c then none
    else if c == '-' then flagList? flags ('-' :: seen) false rest
    else
      match flags.put? c value with
      | some flags => flagList? flags (c :: seen) value rest
      | none => none

/-- The opening of a group, or a mere change of flags. -/
inductive Opening where
  /-- A group that only joins its contents, which are read under the flags. -/
  | group (flags : Flags)
  /-- A group with a number of its own, and its name or an empty one. -/
  | numbered (name : List Char)
  /-- A change of flags up to the end of the enclosing group. -/
  | change (flags : Flags)

/-- A name of a group: a letter or an underscore, then digits, dots and brackets too. -/
def isGroupName : List Char → Bool
  | [] => false
  | c :: rest =>
    (c == '_' || c.isAlpha) &&
      rest.all fun c => c == '_' || c == '.' || c == '[' || c == ']' || c.isAlphanum

/-- The name of a group up to its closing angle bracket. -/
def groupName? (text : List Char) : Option (Opening × List Char) :=
  match text.dropWhile (· != '>') with
  | _ :: rest =>
    let name := text.takeWhile (· != '>')
    if isGroupName name then some (.numbered name, rest) else none
  | [] => none

/-- What follows an opening parenthesis. -/
def opening? (flags : Flags) : List Char → Option (Opening × List Char)
  | '?' :: 'P' :: '<' :: rest => groupName? rest
  | '?' :: '<' :: c :: rest =>
    if c == '=' || c == '!' then none else groupName? (c :: rest)
  | '?' :: rest =>
    match flagList? flags [] true rest with
    | some (flags, ':' :: rest) => some (.group flags, rest)
    | some (changed, ')' :: after) =>
      if rest.head? == some ')' then none else some (.change changed, after)
    | _ => none
  | text => some (.numbered [], text)

/-! ## Expressions -/

/-- The alternatives of a group read so far, and the parts of the one being read. -/
structure GroupSoFar where
  /-- Finished alternatives, the last one first. -/
  alternatives : List (Nested Expr)
  /-- The parts of the alternative being read, the last one first. -/
  parts : List (Nested Expr)
  /-- The last part can be repeated. -/
  repeatable : Bool

namespace GroupSoFar

def start : GroupSoFar :=
  ⟨[], [], false⟩

def add (sofar : GroupSoFar) (part : Nested Expr) : GroupSoFar :=
  { sofar with parts := part :: sofar.parts, repeatable := true }

/-- A change of flags has been read, which matches nothing of its own. -/
def addChange (sofar : GroupSoFar) : GroupSoFar :=
  { sofar with parts := ⟨.empty, 0⟩ :: sofar.parts, repeatable := false }

/-- The last part is repeated. -/
def repeatLast? (sofar : GroupSoFar) (least : Nat) (most : Option Nat) (isLazy : Bool) :
    Option GroupSoFar :=
  match sofar.parts with
  | part :: parts =>
    if sofar.repeatable then
      some { sofar with parts := part.wrap (·.repetition least most isLazy) :: parts }
    else none
  | [] => none

/-- The parts of the alternative being read, one after the other. -/
def current (sofar : GroupSoFar) : Nested Expr :=
  Nested.combine Expr.sequence sofar.parts.reverse

def next (sofar : GroupSoFar) : GroupSoFar :=
  ⟨sofar.current :: sofar.alternatives, [], false⟩

def finish (sofar : GroupSoFar) : Nested Expr :=
  Nested.combine Expr.alternatives (sofar.current :: sofar.alternatives).reverse

end GroupSoFar

def Flags.escaped (flags : Flags) : Escape → Expr
  | .literal c => flags.literal c
  | .charClass set => .ofSet set
  | .anchor property => .anchor property

def Flags.dot (flags : Flags) : Expr :=
  .oneOf (if flags.dotAll then .full else (Text.CodeSet.singleton '\n').compl)

/-- Where a group is read. -/
structure GroupPlace where
  /-- How many groups enclose it. -/
  enclosing : Nat
  /-- The names of the groups with a number that have been opened, the last one first. -/
  opened : List (List Char)

/-- A numbered group can be opened: no other has its name. -/
def GroupPlace.allows (place : GroupPlace) (name : List Char) : Bool :=
  name.isEmpty || !place.opened.contains name

/--
The rest of an expression, up to the closing parenthesis if it is inside a group,
with the names of the groups that have been opened then; every step takes a
character.
-/
def exprRest? (place : GroupPlace) (flags : Flags) (sofar : GroupSoFar) (text : List Char) :
    Nat → Option (Nested Expr × List (List Char) × List Char)
  | 0 => none
  | fuel + 1 =>
    let goOn (part : Expr) (rest : List Char) :=
      exprRest? place flags (sofar.add ⟨part, 0⟩) rest fuel
    let repeated (least : Nat) (most : Option Nat) (rest : List Char) :=
      let (marked, rest) := lazyMark rest
      match sofar.repeatLast? least most (marked != flags.swapLazy) with
      | some sofar => exprRest? place flags sofar rest fuel
      | none => none
    match flags.skip text with
    | [] => if place.enclosing = 0 then some (sofar.finish, place.opened, []) else none
    | ')' :: rest =>
      if place.enclosing = 0 then none else some (sofar.finish, place.opened, rest)
    | '|' :: rest => exprRest? place flags sofar.next rest fuel
    | '(' :: rest =>
      if maxDepth < place.enclosing then none
      else
        match opening? flags rest with
        | none => none
        | some (.change flags, rest) => exprRest? place flags sofar.addChange rest fuel
        | some (.group inner, rest) =>
          let inside := { place with enclosing := place.enclosing + 1 }
          match exprRest? inside inner .start rest fuel with
          | some (part, opened, rest) =>
            exprRest? { place with opened } flags (sofar.add (part.wrap id)) rest fuel
          | none => none
        | some (.numbered name, rest) =>
          if !place.allows name then none
          else
            let inside := ⟨place.enclosing + 1, name :: place.opened⟩
            match exprRest? inside flags .start rest fuel with
            | some (part, opened, rest) =>
              let group := part.wrap (.group inside.opened.length)
              exprRest? { place with opened } flags (sofar.add group) rest fuel
            | none => none
    | '[' :: rest =>
      match bracketed? flags rest with
      | some (part, rest) =>
        exprRest? place flags (sofar.add ⟨.ofSet part.value, part.depth⟩) rest fuel
      | none => none
    | '\\' :: rest =>
      match escape? rest with
      | some (escape, rest) => goOn (flags.escaped escape) rest
      | none => none
    | '*' :: rest => repeated 0 none rest
    | '+' :: rest => repeated 1 none rest
    | '?' :: rest => repeated 0 (some 1) rest
    | '\x7b' :: rest =>
      match bounds? flags rest with
      | some ((least, most), rest) => repeated least most (flags.skip rest)
      | none => none
    | '.' :: rest => goOn flags.dot rest
    | '^' :: rest => goOn (.anchor (if flags.multiLine then .lineStart else .textStart)) rest
    | '$' :: rest => goOn (.anchor (if flags.multiLine then .lineEnd else .textEnd)) rest
    | c :: rest => goOn (flags.literal c) rest

/-- The expression that a text writes, if it writes one that is not nested too deeply. -/
def read? (flags : Flags) (source : List Char) : Option Expr :=
  match exprRest? ⟨0, []⟩ flags .start source (source.length + 1) with
  | some (expr, _, _) => if expr.depth ≤ maxDepth then some expr.value else none
  | none => none

end TagQuery.Pattern
