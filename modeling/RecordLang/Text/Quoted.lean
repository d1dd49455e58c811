import RecordLang.Text.Invisible

/-!
Quoted text: how a string is written inside a list or a record.

The text stands between double quotes. A quote, a backslash and the common controls have two-character
escapes; any other character without a glyph is written as its number in hexadecimal.

* `Text.escape`: the characters written for one character.
* `Text.quoted`: the quoted form of a string.
-/

namespace RecordLang.Text

/-- The number of `c` in lower case hexadecimal, as `\\u` and braces. -/
def numbered (c : Char) : List Char :=
  ['\\', 'u', '\x7b'] ++ Nat.toDigits 16 c.toNat ++ ['\x7d']

/-- The characters written for `c` between quotes. -/
def escape (c : Char) : List Char :=
  if c = '"' then ['\\', '"']
  else if c = '\\' then ['\\', '\\']
  else if c = '\n' then ['\\', 'n']
  else if c = '\r' then ['\\', 'r']
  else if c = '\t' then ['\\', 't']
  else if c = '\x00' then ['\\', '0']
  else if isInvisible c then numbered c
  else [c]

/-- The string between double quotes, every character escaped as needed. -/
def quoted (s : String) : String :=
  String.ofList ('"' :: s.toList.flatMap escape ++ ['"'])

end RecordLang.Text
