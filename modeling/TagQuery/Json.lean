import TagQuery.Decimal.Shortest

/-!
# JSON values and how they are written

Two layouts: compact, without any space, and spread over lines with two spaces
a level.  Fractional numbers are written with the fewest digits that read back
and always with a point or an exponent.
-/

namespace TagQuery

/-- A value to be written as JSON; the fields of an object keep their order. -/
inductive Json where
  | null
  | bool (value : Bool)
  | nat (value : Nat)
  | float (value : Float)
  | str (value : String)
  | arr (items : List Json)
  | obj (fields : List (String × Json))

instance : Inhabited Json := ⟨.null⟩

namespace Json

/-- The hexadecimal digit of a number below sixteen. -/
def hexDigit (n : Nat) : Char :=
  Nat.digitChar n

/-- How a character is written inside a string. -/
def escapedChar (c : Char) : List Char :=
  if c == '"' then ['\\', '"']
  else if c == '\\' then ['\\', '\\']
  else if c == '\x08' then ['\\', 'b']
  else if c == '\x0c' then ['\\', 'f']
  else if c == '\n' then ['\\', 'n']
  else if c == '\r' then ['\\', 'r']
  else if c == '\t' then ['\\', 't']
  else if c.toNat < 0x20 then
    ['\\', 'u', '0', '0', hexDigit (c.toNat / 16), hexDigit (c.toNat % 16)]
  else [c]

def stringChars (s : String) : List Char :=
  '"' :: s.toList.flatMap escapedChar ++ ['"']

/-- The digits of a decimal, with the point or the exponent where the number asks for it. -/
def decimalChars (number : Decimal.Scientific) : List Char :=
  let digits := Nat.toDigits 10 number.digits
  let length : Int := digits.length
  let point := length + number.exponent
  if 0 ≤ number.exponent && point ≤ 16 then
    digits ++ List.replicate number.exponent.toNat '0' ++ ['.', '0']
  else if 0 < point && point ≤ 16 then
    digits.take point.toNat ++ '.' :: digits.drop point.toNat
  else if -5 < point && point ≤ 0 then
    ['0', '.'] ++ List.replicate (-point).toNat '0' ++ digits
  else
    let mantissa := digits.take 1 ++
      (if digits.length ≤ 1 then [] else '.' :: digits.drop 1)
    mantissa ++ 'e' :: (toString (point - 1)).toList

/-- A finite double. -/
def floatChars (x : Float) : List Char :=
  let sign := if x.toBits < 0x8000000000000000 then [] else ['-']
  sign ++ decimalChars (Decimal.shortest x)

/-- A value of one word, and none for arrays and objects. -/
def scalarChars : Json → List Char
  | .null => "null".toList
  | .bool true => "true".toList
  | .bool false => "false".toList
  | .nat n => Nat.toDigits 10 n
  | .float x => floatChars x
  | .str s => stringChars s
  | .arr _ => []
  | .obj _ => []

/-- What stands around the items of an array or an object, and between them. -/
structure Layout where
  /-- Written before every item, given how deep it stands. -/
  lineBreak : Nat → List Char
  /-- Written between a key and its value. -/
  afterKey : List Char

/-- Everything on one line, without spaces. -/
def Layout.compact : Layout where
  lineBreak _ := []
  afterKey := [':']

/-- One item a line, two spaces a level. -/
def Layout.spread : Layout where
  lineBreak depth := '\n' :: List.replicate (2 * depth) ' '
  afterKey := [':', ' ']

mutual

/-- A value that stands at the given depth. -/
def chars (layout : Layout) (depth : Nat) : Json → List Char
  | .arr [] => ['[', ']']
  | .arr (item :: items) =>
    '[' :: layout.lineBreak (depth + 1) ++ chars layout (depth + 1) item ++
      moreItems layout depth items
  | .obj [] => ['\x7b', '\x7d']
  | .obj ((key, value) :: fields) =>
    '\x7b' :: layout.lineBreak (depth + 1) ++ stringChars key ++ layout.afterKey ++
      chars layout (depth + 1) value ++ moreFields layout depth fields
  | scalar => scalarChars scalar

/-- The items of an array after the first, and the closing bracket. -/
def moreItems (layout : Layout) (depth : Nat) : List Json → List Char
  | [] => layout.lineBreak depth ++ [']']
  | item :: items =>
    ',' :: layout.lineBreak (depth + 1) ++ chars layout (depth + 1) item ++
      moreItems layout depth items

/-- The fields of an object after the first, and the closing brace. -/
def moreFields (layout : Layout) (depth : Nat) : List (String × Json) → List Char
  | [] => layout.lineBreak depth ++ ['\x7d']
  | (key, value) :: fields =>
    ',' :: layout.lineBreak (depth + 1) ++ stringChars key ++ layout.afterKey ++
      chars layout (depth + 1) value ++ moreFields layout depth fields

end

def compact (value : Json) : String :=
  String.ofList (value.chars .compact 0)

def spread (value : Json) : String :=
  String.ofList (value.chars .spread 0)

end Json

end TagQuery
