import TagQuery.Pattern.Expr

/-!
# Simplified expressions

Sequences, alternatives and repetitions in a simplified form with the same
matches: nested ones are joined, characters side by side become one text,
alternative characters become one set, and what alternatives begin with in
common is moved to the front.  How much room an automaton takes depends on this
form.
-/

namespace TagQuery.Pattern.Expr

/-- Some match takes at least one character, or there is no bound on how much a match takes. -/
def mayConsume : Expr → Bool
  | .empty => false
  | .literal _ => true
  | .oneOf _ => true
  | .anchor _ => false
  | .group _ body => body.mayConsume
  | .seq first rest => first.mayConsume || rest.mayConsume
  | .alt earlier last => earlier.mayConsume || last.mayConsume
  | .repeated body _ most _ => most.isNone || body.mayConsume

/-- The number of parts an expression is made of. -/
def size : Expr → Nat
  | .group _ body => body.size + 1
  | .seq first rest => first.size + rest.size + 1
  | .alt earlier last => earlier.size + last.size + 1
  | .repeated body _ _ _ => body.size + 1
  | _ => 1

/-- One character of a set; a set of a single character is that character. -/
def ofSet (set : Text.CodeSet) : Expr :=
  match set.single? with
  | some c => .literal [c]
  | none => .oneOf set

/-! ## Sequences -/

/-- The parts of a sequence; the empty expression has none. -/
def parts : Expr → List Expr
  | .empty => []
  | .seq first rest => first :: rest.parts
  | expr => [expr]

/-- The parts with texts side by side joined to one. -/
def joinLiterals : List Expr → List Expr
  | [] => []
  | .literal text :: rest =>
    match joinLiterals rest with
    | .literal more :: later => .literal (text ++ more) :: later
    | later => .literal text :: later
  | part :: rest => part :: joinLiterals rest

def ofParts : List Expr → Expr
  | [] => .empty
  | [part] => part
  | part :: rest => .seq part (ofParts rest)

def sequence (exprs : List Expr) : Expr :=
  ofParts (joinLiterals (exprs.flatMap parts))

/-! ## Alternatives -/

/-- The alternatives of an expression in front of more of them. -/
def branchesOnto (later : List Expr) : Expr → List Expr
  | .alt earlier last => branchesOnto (last :: later) earlier
  | expr => expr :: later

/-- The alternatives of an expression; most expressions are their own only one. -/
def branches (expr : Expr) : List Expr :=
  branchesOnto [] expr

/-- The alternatives as they are; without any, nothing matches. -/
def ofBranches : List Expr → Expr
  | [] => .oneOf .empty
  | first :: later => later.foldl .alt first

/-- The character of a text with just one. -/
def singleChar? : Expr → Option Char
  | .literal [c] => some c
  | _ => none

/-- The set of an expression for one character of a set. -/
def set? : Expr → Option Text.CodeSet
  | .oneOf set => some set
  | _ => none

/-- The set that alternatives amount to if all are characters, or all are sets. -/
def joinedSet? (branches : List Expr) : Option Text.CodeSet :=
  match branches.mapM singleChar? with
  | some chars => some (.ofCodes (chars.map (·.toNat)))
  | none => (branches.mapM set?).map fun sets => sets.foldl .union .empty

/-- The parts that two sequences begin with in common. -/
def commonParts : List Expr → List Expr → List Expr
  | x :: xs, y :: ys => if x = y then x :: commonParts xs ys else []
  | _, _ => []

/-- The parts that all alternatives begin with; each has to be a sequence of several. -/
def commonFront (branches : List Expr) : List Expr :=
  match branches.map parts with
  | [] => []
  | first :: later =>
    if (first :: later).all (2 ≤ ·.length) then later.foldl commonParts first else []

/--
Several alternatives.  What they begin with in common is moved to the front of
what is left of them, which is simplified in turn; every time they get smaller.
-/
def alternativesWithin : Nat → List Expr → Expr
  | 0, exprs => ofBranches exprs
  | fuel + 1, exprs =>
    match exprs.flatMap branches with
    | [] => ofBranches []
    | [only] => only
    | several =>
      match joinedSet? several with
      | some set => ofSet set
      | none =>
        match commonFront several with
        | [] => ofBranches several
        | front =>
          let left := several.map fun branch => sequence (branch.parts.drop front.length)
          sequence (front ++ [alternativesWithin fuel left])

def alternatives (exprs : List Expr) : Expr :=
  alternativesWithin (exprs.foldl (fun total expr => total + expr.size) 1) exprs

/-! ## Repetitions -/

/--
A repetition.  An expression that takes no character is needed once at most, and
one that is repeated never or just once needs no repetition.
-/
def repetition (body : Expr) (least : Nat) (most : Option Nat) (isLazy : Bool) : Expr :=
  let (least, most) :=
    if body.mayConsume then (least, most) else (min least 1, some (min (most.getD 1) 1))
  if least = 0 && most = some 0 then .empty
  else if least = 1 && most = some 1 then body
  else .repeated body least most isLazy

end TagQuery.Pattern.Expr
