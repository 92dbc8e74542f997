import TagQuery.Json.Reader.Number
import TagQuery.Json.Reader.Skip

/-!
# Reading JSON

Readers for different kinds of values know what they expect, so that a value of
the wrong kind is noticed before what comes after it.  A value with known fields
may also be written as an array of them.
-/

namespace TagQuery.Json

/-- The problem with a value of another kind than expected; parts of it are looked at. -/
def wrongKind (text : List Char) : Problem :=
  match text with
  | [] => .ended
  | 'n' :: rest => problemOf (finishWord "ull".toList rest)
  | 't' :: rest => problemOf (finishWord "rue".toList rest)
  | 'f' :: rest => problemOf (finishWord "alse".toList rest)
  | '"' :: rest => problemOf (finishString rest)
  | '[' :: _ => .unsuitable
  | '\x7b' :: _ => .unsuitable
  | c :: rest =>
    if c == '-' || c.isDigit then problemOf (numeral (c :: rest)) else .malformed
where
  /-- The problem of reading a value, and that it is not the one expected if there is none. -/
  problemOf {α : Type} (result : Except Problem α) : Problem :=
    match result with
    | .error problem => problem
    | .ok _ => .unsuitable

namespace Reader

/-- Changes what has been read. -/
def map (f : α → β) (reader : Reader α) : Reader β := fun text => do
  let (x, rest) ← reader text
  return (f x, rest)

/-- Looks at what has been read once more. -/
def check (f : α → Except Problem β) (reader : Reader α) : Reader β := fun text => do
  let (x, rest) ← reader text
  return (← f x, rest)

def string : Reader String := fun text =>
  match skipSpace text with
  | '"' :: rest => finishString rest
  | text => .error (wrongKind text)

def bool : Reader Bool := fun text =>
  match skipSpace text with
  | 't' :: rest => do return (true, ← finishWord "rue".toList rest)
  | 'f' :: rest => do return (false, ← finishWord "alse".toList rest)
  | text => .error (wrongKind text)

def number : Reader Numeral := fun text =>
  match skipSpace text with
  | c :: rest =>
    if c == '-' || c.isDigit then numeral (c :: rest) else .error (wrongKind (c :: rest))
  | [] => .error .ended

/-- A whole number that is not negative and below a bound. -/
def natBelow (bound : Nat) : Reader Nat :=
  number.check fun
    | .nat n => if n < bound then .ok n else .error .unsuitable
    | _ => .error .unsuitable

/-- A number of any kind, as a double. -/
def float : Reader Float :=
  number.map fun
    | .nat n => Float.ofNat n
    | .negative n => -Float.ofNat n
    | .float x => x

/-- A value or `null`. -/
def nullable (reader : Reader α) : Reader (Option α) := fun text =>
  match skipSpace text with
  | 'n' :: rest => do return (none, ← finishWord "ull".toList rest)
  | text => reader.map some text

/-- What comes after an item: the end of the container, or another item. -/
inductive Next where
  | done (rest : List Char)
  | item (rest : List Char)

/-- Looks for the next item of an array. -/
def nextItem (first : Bool) (text : List Char) : Except Problem Next :=
  match skipSpace text with
  | [] => .error .ended
  | ']' :: rest => .ok (.done rest)
  | ',' :: rest =>
    if first then .ok (.item (',' :: rest))
    else
      match skipSpace rest with
      | [] => .error .ended
      | ']' :: _ => .error .malformed
      | rest => .ok (.item rest)
  | text => if first then .ok (.item text) else .error .malformed

/-- Looks for the next key of an object; its quote is left. -/
def nextKey (first : Bool) (text : List Char) : Except Problem Next :=
  match skipSpace text with
  | [] => .error .ended
  | '\x7d' :: rest => .ok (.done rest)
  | ',' :: rest =>
    if first then .error .malformed
    else
      match skipSpace rest with
      | [] => .error .ended
      | '"' :: rest => .ok (.item ('"' :: rest))
      | _ => .error .malformed
  | '"' :: rest => if first then .ok (.item ('"' :: rest)) else .error .malformed
  | _ => .error .malformed

def colon (text : List Char) : Except Problem (List Char) :=
  match skipSpace text with
  | [] => .error .ended
  | ':' :: rest => .ok rest
  | _ => .error .malformed

/-- The items of an array after its bracket; every step takes a character. -/
def items (reader : Reader α) (first : Bool) (sofar : List α) (text : List Char) :
    Nat → Except Problem (List α × List Char)
  | 0 => .error .ended
  | fuel + 1 => do
    match ← nextItem first text with
    | .done rest => return (sofar.reverse, rest)
    | .item rest =>
      let (x, rest) ← reader rest
      items reader false (x :: sofar) rest fuel

/-- An array whose items are all of one kind. -/
def list (reader : Reader α) : Reader (List α) := fun text =>
  match skipSpace text with
  | '[' :: rest => reader.items true [] rest (rest.length + 1)
  | text => .error (wrongKind text)

/-- The entries of an object after its brace; every step takes a character. -/
def entries (reader : Reader α) (first : Bool) (sofar : List (String × α))
    (text : List Char) : Nat → Except Problem (List (String × α) × List Char)
  | 0 => .error .ended
  | fuel + 1 => do
    match ← nextKey first text with
    | .done rest => return (sofar.reverse, rest)
    | .item rest =>
      let (key, rest) ← string rest
      let (x, rest) ← reader (← colon rest)
      entries reader false ((key, x) :: sofar) rest fuel

/-- An object with any keys, whose values are all of one kind. -/
def dictionary (reader : Reader α) : Reader (List (String × α)) := fun text =>
  match skipSpace text with
  | '\x7b' :: rest => reader.entries true [] rest (rest.length + 1)
  | text => .error (wrongKind text)

/-- One of several names; the name may also be the key of an object that holds `null`. -/
def choice (named : String → Option α) : Reader α := fun text =>
  let name : Reader α := string.check fun s =>
    match named s with
    | some x => .ok x
    | none => .error .unsuitable
  match skipSpace text with
  | [] => .error .ended
  | '"' :: rest => name ('"' :: rest)
  | '\x7b' :: rest =>
    match skipSpace rest with
    | [] => .error .ended
    | '"' :: rest => do
      let (x, rest) ← name ('"' :: rest)
      match skipSpace (← colon rest) with
      | 'n' :: rest =>
        match skipSpace (← finishWord "ull".toList rest) with
        | [] => throw .ended
        | '\x7d' :: rest => return (x, rest)
        | _ => throw .malformed
      | text => throw (wrongKind text)
    | _ => .error .malformed
  | _ => .error .malformed

/-! ## Objects with known fields -/

/-- A field of an object, and how it is put into the value that is built up. -/
structure Field (σ : Type) where
  name : String
  read : σ → Reader σ

/-- The field whose value is read by `reader` and stored by `put`. -/
def Field.of (name : String) (reader : Reader α) (put : σ → α → σ) : Field σ :=
  ⟨name, fun value => reader.map (put value)⟩

/-- The fields of an object after its brace; a known field comes at most once. -/
def fieldsByName (fields : List (Field σ)) (seen : List String) (first : Bool) (value : σ)
    (text : List Char) : Nat → Except Problem (σ × List Char)
  | 0 => .error .ended
  | fuel + 1 => do
    match ← nextKey first text with
    | .done rest => return (value, rest)
    | .item rest =>
      let (key, rest) ← string rest
      match fields.find? (·.name == key) with
      | none =>
        let rest ← skip (← colon rest)
        fieldsByName fields seen false value rest fuel
      | some field =>
        if seen.contains key then throw .unsuitable
        else
          let (value, rest) ← field.read value (← colon rest)
          fieldsByName fields (key :: seen) false value rest fuel

/--
The fields of a value written as an array, in their order.  The array may end
early if `complete` does not ask for all of them.
-/
def fieldsInOrder (complete : Bool) (first : Bool) (value : σ) (text : List Char) :
    List (Field σ) → Except Problem (σ × List Char)
  | [] =>
    match skipSpace text with
    | [] => .error .ended
    | ']' :: rest => .ok (value, rest)
    | _ => .error .malformed
  | field :: fields => do
    match ← nextItem first text with
    | .done rest => if complete then throw .unsuitable else return (value, rest)
    | .item rest =>
      let (value, rest) ← field.read value rest
      fieldsInOrder complete false value rest fields

/-- An object with known fields, starting from a value with all of them missing. -/
def record (fields : List (Field σ)) (complete : Bool) (missing : σ) : Reader σ := fun text =>
  match skipSpace text with
  | '\x7b' :: rest => fieldsByName fields [] true missing rest (rest.length + 1)
  | '[' :: rest => fieldsInOrder complete true missing rest fields
  | text => .error (wrongKind text)

/-- The value that a whole text writes. -/
def whole (reader : Reader α) (text : String) : Except Problem α := do
  let (x, rest) ← reader text.toList
  if (skipSpace rest).isEmpty then return x else throw .malformed

end Reader

end TagQuery.Json
