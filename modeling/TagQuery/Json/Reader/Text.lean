import TagQuery.Json.Reader.Basic
import TagQuery.Text.Hex

/-!
# JSON strings

The characters of a string between its quotes.  A character beyond the first
plane may be written by two codes, which have to belong together.
-/

namespace TagQuery.Json

/-- Four hexadecimal digits; they have to be there before they are looked at. -/
def hexUnit : Reader Nat
  | a :: b :: c :: d :: rest =>
    match Text.hexNumber? [a, b, c, d] with
    | some unit => .ok (unit, rest)
    | none => .error .malformed
  | text =>
    if (String.ofList text).utf8ByteSize < 4 then .error .ended else .error .malformed

/-- The character for a letter after a backslash. -/
def shortEscape? (c : Char) : Option Char :=
  match c with
  | '"' => some '"'
  | '\\' => some '\\'
  | '/' => some '/'
  | 'b' => some '\x08'
  | 'f' => some '\x0c'
  | 'n' => some '\n'
  | 'r' => some '\r'
  | 't' => some '\t'
  | _ => none

/-- A character written by its code after `\u`; one beyond the first plane takes two. -/
def codeEscape (text : List Char) : Except Problem (Char × List Char) := do
  let (high, rest) ← hexUnit text
  if 0xdc00 ≤ high && high < 0xe000 then throw .malformed
  else if high < 0xd800 || 0xe000 ≤ high then return (Char.ofNat high, rest)
  else
    match rest with
    | [] => throw .ended
    | '\\' :: 'u' :: rest =>
      let (low, rest) ← hexUnit rest
      if 0xdc00 ≤ low && low < 0xe000 then
        return (Char.ofNat (0x10000 + (high - 0xd800) * 0x400 + (low - 0xdc00)), rest)
      else throw .malformed
    | ['\\'] => throw .ended
    | _ => throw .malformed

/-- The characters of a string up to its closing quote; every step takes a character. -/
def stringRest (sofar : List Char) : Nat → Reader (List Char)
  | 0, _ => .error .ended
  | _ + 1, [] => .error .ended
  | fuel + 1, c :: rest =>
    if c == '"' then .ok (sofar.reverse, rest)
    else if c == '\\' then
      match rest with
      | [] => .error .ended
      | 'u' :: rest =>
        match codeEscape rest with
        | .ok (c, rest) => stringRest (c :: sofar) fuel rest
        | .error problem => .error problem
      | c :: rest =>
        match shortEscape? c with
        | some c => stringRest (c :: sofar) fuel rest
        | none => .error .malformed
    else if c.toNat < 0x20 then .error .malformed
    else stringRest (c :: sofar) fuel rest

/-- A string whose opening quote has been seen. -/
def finishString : Reader String := fun text => do
  let (chars, rest) ← stringRest [] text.length text
  return (String.ofList chars, rest)

end TagQuery.Json
