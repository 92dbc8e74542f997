import TagQuery.Pattern.Expr
import TagQuery.Text.Blank
import TagQuery.Text.Hex

/-!
# Escapes

What follows a backslash: a class of characters, an anchor, or a character that
cannot be written as it is.
-/

namespace TagQuery.Pattern

/-- What a backslash and the characters after it stand for. -/
inductive Escape where
  | literal (c : Char)
  | charClass (set : Text.CodeSet)
  | anchor (anchor : Anchor)

/-- The character with a code point, if there is one. -/
def charOfCode? (code : Nat) : Option Char :=
  if code < 0xd800 || (0xdfff < code && code < 0x110000) then some (Char.ofNat code) else none

/-- A character by its code point: so many digits, or any number of them in braces. -/
def codeEscape? (width : Nat) (text : List Char) : Option (Escape × List Char) :=
  match text with
  | '\x7b' :: rest => do
    let digits := rest.takeWhile (· != '\x7d')
    match rest.dropWhile (· != '\x7d') with
    | _ :: rest => return (.literal (← charOfCode? (← Text.hexNumber? digits)), rest)
    | [] => none
  | _ => do
    let digits := text.take width
    if digits.length < width then none
    else return (.literal (← charOfCode? (← Text.hexNumber? digits)), text.drop width)

/-- The anchor that is named in braces after the mark of a word boundary. -/
def namedBoundary? (name : List Char) : Option Anchor :=
  match String.ofList name with
  | "start" => some .wordStart
  | "end" => some .wordEnd
  | "start-half" => some .wordStartHalf
  | "end-half" => some .wordEndHalf
  | _ => none

/-- A word boundary; in braces it can be told which side of a word is meant. -/
def boundaryEscape? (text : List Char) : Option (Escape × List Char) :=
  match text with
  | '\x7b' :: c :: rest =>
    if c.isAlpha || c == '-' then
      match (c :: rest).dropWhile (· != '\x7d') with
      | _ :: after => do
        return (.anchor (← namedBoundary? ((c :: rest).takeWhile (· != '\x7d'))), after)
      | [] => none
    else some (.anchor .wordBoundary, text)
  | _ => some (.anchor .wordBoundary, text)

/-- What follows a backslash. -/
def escape? : List Char → Option (Escape × List Char)
  | [] => none
  | c :: rest =>
    match c with
    | 'd' => some (.charClass Text.decimalDigits, rest)
    | 'D' => some (.charClass Text.decimalDigits.compl, rest)
    | 's' => some (.charClass Text.blanks, rest)
    | 'S' => some (.charClass Text.blanks.compl, rest)
    | 'w' => some (.charClass Text.wordChars, rest)
    | 'W' => some (.charClass Text.wordChars.compl, rest)
    | 'A' => some (.anchor .textStart, rest)
    | 'z' => some (.anchor .textEnd, rest)
    | 'b' => boundaryEscape? rest
    | 'B' => some (.anchor .noWordBoundary, rest)
    | '<' => some (.anchor .wordStart, rest)
    | '>' => some (.anchor .wordEnd, rest)
    | 'a' => some (.literal '\x07', rest)
    | 'f' => some (.literal '\x0c', rest)
    | 'n' => some (.literal '\n', rest)
    | 'r' => some (.literal '\r', rest)
    | 't' => some (.literal '\t', rest)
    | 'v' => some (.literal '\x0b', rest)
    | 'x' => codeEscape? 2 rest
    | 'u' => codeEscape? 4 rest
    | 'U' => codeEscape? 8 rest
    | c => if c.toNat < 128 && !c.isAlphanum then some (.literal c, rest) else none

end TagQuery.Pattern
