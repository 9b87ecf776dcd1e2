import SessionHub.Text.Digits
import SessionHub.Text.Printable

/-!
# Quoted text for a reader of logs

A text between double quotes in which every character can be told apart: a quote and a backslash
take a backslash before them, the usual blanks have their letters, and a character that cannot be
seen is written by its number in braces.
-/

namespace SessionHub.Text

/-- How one character stands between the quotes. -/
def quotedChar (c : Char) : List Char :=
  if c = '"' then ['\\', '"']
  else if c = '\\' then ['\\', '\\']
  else if c = '\t' then ['\\', 't']
  else if c = '\r' then ['\\', 'r']
  else if c = '\n' then ['\\', 'n']
  else if c = '\x00' then ['\\', '0']
  else if isHidden c then ['\\', 'u', '\x7b'] ++ (hexText c.toNat).toList ++ ['\x7d']
  else [c]

/-- A text in quotes, every character visible. -/
def quoted (s : String) : String :=
  String.ofList ('"' :: s.toList.flatMap quotedChar ++ ['"'])

end SessionHub.Text
