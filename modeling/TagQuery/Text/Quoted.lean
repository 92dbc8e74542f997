import TagQuery.Text.Unprintable

/-!
# Quoted text in messages

A message shows a piece of text between double quotes, with every character that
could not be seen, or would change its neighbours, written by its code point.
-/

namespace TagQuery.Text

/-- How a character is written between quotes. -/
def quotedChar (c : Char) : List Char :=
  if c == '\t' then ['\\', 't']
  else if c == '\n' then ['\\', 'n']
  else if c == '\r' then ['\\', 'r']
  else if c == '\x00' then ['\\', '0']
  else if c == '"' then ['\\', '"']
  else if c == '\\' then ['\\', '\\']
  else if unprintable.contains c then
    ['\\', 'u', '\x7b'] ++ Nat.toDigits 16 c.toNat ++ ['\x7d']
  else [c]

/-- A string as a message shows it. -/
def quoted (s : String) : String :=
  String.ofList ('"' :: s.toList.flatMap quotedChar ++ ['"'])

end TagQuery.Text
