import SessionHub.Json.Value
import SessionHub.Number.Shortest
import SessionHub.Text.Digits

/-!
# Writing a document

The one compact form: no blanks, members in their order, and in a string only the quote, the
backslash and the characters below the space escaped — by letter where there is one, else by
number.
-/

namespace SessionHub.Json

/-- How one character stands in a string. -/
def escapedChar (c : Char) : List Char :=
  if c = '"' then ['\\', '"']
  else if c = '\\' then ['\\', '\\']
  else if c = '\x08' then ['\\', 'b']
  else if c = '\x0c' then ['\\', 'f']
  else if c = '\n' then ['\\', 'n']
  else if c = '\r' then ['\\', 'r']
  else if c = '\t' then ['\\', 't']
  else if c.toNat < 0x20 then
    ['\\', 'u', '0', '0', Text.hexChar (c.toNat / 16), Text.hexChar (c.toNat % 16)]
  else [c]

/-- A string between its quotes. -/
def renderString (s : String) : List Char :=
  '"' :: (s.toList.flatMap escapedChar ++ ['"'])

/-- A number. -/
def renderNumber : Number → List Char
  | .int n => (toString n).toList
  | .double bits => (SessionHub.Number.doubleText bits).toList

mutual

/-- A document in the compact form. -/
def render : Json → List Char
  | .null => ['n', 'u', 'l', 'l']
  | .bool true => ['t', 'r', 'u', 'e']
  | .bool false => ['f', 'a', 'l', 's', 'e']
  | .num n => renderNumber n
  | .str s => renderString s
  | .arr [] => ['[', ']']
  | .arr (item :: rest) => '[' :: (item.render ++ renderItems rest)
  | .obj [] => ['\x7b', '\x7d']
  | .obj ((name, value) :: rest) =>
    '\x7b' :: (renderString name ++ ':' :: (value.render ++ renderMembers rest))

/-- The items behind the first, and the closing bracket. -/
def renderItems : List Json → List Char
  | [] => [']']
  | item :: rest => ',' :: (item.render ++ renderItems rest)

/-- The members behind the first, and the closing brace. -/
def renderMembers : List (String × Json) → List Char
  | [] => ['\x7d']
  | (name, value) :: rest =>
    ',' :: (renderString name ++ ':' :: (value.render ++ renderMembers rest))

end

/-- A document as text. -/
def text (document : Json) : String := String.ofList document.render

end SessionHub.Json
