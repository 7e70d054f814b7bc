import Playback.Text.Hidden

/-!
# Quoted texts

A text between quotes on one line: the quote and the backslash are escaped by a backslash, the
control characters that have a letter by that letter, and all other characters without a form of
their own by their number in hexadecimal.
-/

namespace Playback.Text

/-- The characters that stand for one character between quotes. -/
def quotedChar (c : Char) : List Char :=
  if c = '"' then ['\\', '"']
  else if c = '\\' then ['\\', '\\']
  else if c = '\n' then ['\\', 'n']
  else if c = '\r' then ['\\', 'r']
  else if c = '\t' then ['\\', 't']
  else if c.toNat = 0 then ['\\', '0']
  else if isHidden c then ['\\', 'u', '\x7b'] ++ Nat.toDigits 16 c.toNat ++ ['\x7d']
  else [c]

/-- A text between quotes. -/
def quoted (s : String) : String :=
  String.ofList ('"' :: s.toList.flatMap quotedChar ++ ['"'])

/-- A list of texts, each between quotes. -/
def quotedList (ss : List String) : String :=
  "[" ++ String.intercalate ", " (ss.map quoted) ++ "]"

/-- All the kinds of escapes. -/
example : quoted "a\"\\\n\t\u200b\u0301'" = "\"a\\\"\\\\\\n\\t\\u\x7b200b\x7d\\u\x7b301\x7d'\"" := by
  decide +kernel

end Playback.Text
