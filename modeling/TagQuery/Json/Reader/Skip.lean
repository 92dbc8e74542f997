import TagQuery.Json.Reader.Text

/-!
# JSON that nobody asks for

A value is skipped by its form alone: a number may have any size, and the codes
of characters need not stand for any.
-/

namespace TagQuery.Json

/-- Skips a string up to its closing quote, without looking at the codes of characters. -/
def skipString : Nat → List Char → Except Problem (List Char)
  | 0, _ => .error .ended
  | _ + 1, [] => .error .ended
  | fuel + 1, c :: rest =>
    if c == '"' then .ok rest
    else if c == '\\' then
      match rest with
      | [] => .error .ended
      | 'u' :: rest =>
        match hexUnit rest with
        | .ok (_, rest) => skipString fuel rest
        | .error problem => .error problem
      | c :: rest =>
        match shortEscape? c with
        | some _ => skipString fuel rest
        | none => .error .malformed
    else if c.toNat < 0x20 then .error .malformed
    else skipString fuel rest

/-- Skips digits of which there has to be one. -/
def skipDigits (text : List Char) : Except Problem (List Char) :=
  if (text.head?.any Char.isDigit) then .ok (text.dropWhile Char.isDigit) else .error .malformed

/-- Skips the exponent of a number after its letter. -/
def skipExponent (text : List Char) : Except Problem (List Char) :=
  match text with
  | '+' :: rest => skipDigits rest
  | '-' :: rest => skipDigits rest
  | _ => skipDigits text

/-- Skips an exponent, if there is one. -/
def skipExponentPart (text : List Char) : Except Problem (List Char) :=
  match text with
  | 'e' :: rest => skipExponent rest
  | 'E' :: rest => skipExponent rest
  | _ => .ok text

/-- Skips a number whose sign has been seen, whatever its size. -/
def skipNumber (text : List Char) : Except Problem (List Char) :=
  match text with
  | '0' :: d :: rest =>
    if d.isDigit then .error .malformed else afterWhole (d :: rest)
  | _ => do afterWhole (← skipDigits text)
where
  /-- What follows the whole part. -/
  afterWhole (text : List Char) : Except Problem (List Char) :=
    match text with
    | '.' :: rest => do skipExponentPart (← skipDigits rest)
    | _ => skipExponentPart text

/-- The containers that are open while a value is skipped. -/
inductive Container where
  | array
  | object
  deriving DecidableEq

/-- Skips the key of a field and the colon after it. -/
def skipKey (text : List Char) : Except Problem (List Char) :=
  match skipSpace text with
  | [] => .error .ended
  | '"' :: rest => do
    match skipSpace (← skipString rest.length rest) with
    | [] => throw .ended
    | ':' :: rest => return rest
    | _ => throw .malformed
  | _ => .error .malformed

mutual

/-- Skips a value inside the open containers, and all that follows up to their ends. -/
def skipValues (open_ : List Container) (text : List Char) :
    Nat → Except Problem (List Char)
  | 0 => .error .ended
  | fuel + 1 =>
    match skipSpace text with
    | [] => .error .ended
    | 'n' :: rest => do skipEnds open_ (← finishWord "ull".toList rest) fuel
    | 't' :: rest => do skipEnds open_ (← finishWord "rue".toList rest) fuel
    | 'f' :: rest => do skipEnds open_ (← finishWord "alse".toList rest) fuel
    | '-' :: rest => do skipEnds open_ (← skipNumber rest) fuel
    | '"' :: rest => do skipEnds open_ (← skipString rest.length rest) fuel
    | '[' :: rest =>
      match skipSpace rest with
      | [] => .error .ended
      | ']' :: rest => skipEnds open_ rest fuel
      | rest => skipValues (.array :: open_) rest fuel
    | '\x7b' :: rest =>
      match skipSpace rest with
      | [] => .error .ended
      | '\x7d' :: rest => skipEnds open_ rest fuel
      | rest => do skipValues (.object :: open_) (← skipKey rest) fuel
    | c :: rest =>
      if c.isDigit then do skipEnds open_ (← skipNumber (c :: rest)) fuel
      else .error .malformed

/-- Skips what may follow a value inside the open containers. -/
def skipEnds (open_ : List Container) (text : List Char) :
    Nat → Except Problem (List Char)
  | 0 => .error .ended
  | fuel + 1 =>
    match open_ with
    | [] => .ok text
    | container :: outer =>
      match skipSpace text with
      | [] => .error .ended
      | ',' :: rest =>
        match container with
        | .array => skipValues open_ rest fuel
        | .object => do skipValues open_ (← skipKey rest) fuel
      | ']' :: rest =>
        if container = .array then skipEnds outer rest fuel else .error .malformed
      | '\x7d' :: rest =>
        if container = .object then skipEnds outer rest fuel else .error .malformed
      | _ => .error .malformed

end

/-- Skips one value. -/
def skip (text : List Char) : Except Problem (List Char) :=
  skipValues [] text (2 * text.length + 2)

end TagQuery.Json
