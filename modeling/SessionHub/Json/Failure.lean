import SessionHub.Json.Value
import SessionHub.Number.Shortest
import SessionHub.Text.Quoted
import SessionHub.Text.Utf8

/-!
# Why a JSON text was refused

A refusal has a cause and, mostly, a place. A cause is of one of three kinds: the text breaks the
grammar, it ends too early, or it is well formed but not of the shape that was asked for. The place
is kept as the number of bytes that were still to be read, which is what a reader knows; line and
column are worked out when the refusal is put into words.
-/

namespace SessionHub.Json

/-- What a reader met where it asked for something else. -/
inductive Found where
  | null
  | bool (value : Bool)
  | number (value : Number)
  | text (value : String)
  | sequence
  | map
  deriving Repr, DecidableEq

/-- A well-formed document of the wrong shape. -/
inductive Mismatch where
  /-- Another type of value than the one asked for. -/
  | invalidType (found : Found) (expected : String)
  /-- The right type, but outside the range. -/
  | invalidValue (found : Found) (expected : String)
  /-- An array with too few or too many items. -/
  | invalidLength (length : Nat) (expected : String)
  | missingField (name : String)
  | duplicateField (name : String)
  | unknownVariant (name : String) (known : String)
  deriving Repr, DecidableEq

/-- A cause of refusal. -/
inductive Cause where
  | endInList | endInObject | endInString | endInValue
  | expectedColon | expectedListEnd | expectedObjectEnd
  | expectedIdent | expectedValue
  | invalidEscape | invalidNumber | numberOutOfRange
  | controlCharacter | keyNotString | loneSurrogate | unfinishedEscape
  | trailingComma | trailingCharacters | tooDeep
  | shape (mismatch : Mismatch)
  deriving Repr, DecidableEq

/-- The three kinds of cause. -/
inductive Cause.Kind where
  | grammar | tooShort | wrongShape
  deriving Repr, DecidableEq

/-- Of which kind a cause is. -/
def Cause.kind : Cause → Cause.Kind
  | .endInList | .endInObject | .endInString | .endInValue => .tooShort
  | .shape _ => .wrongShape
  | _ => .grammar

/-- A number in the words of a refusal. -/
def Number.described : Number → String
  | .int n => s!"integer `{n}`"
  | .double bits => "floating point `" ++ SessionHub.Number.doubleText bits ++ "`"

/-- What was met, in words. -/
def Found.described : Found → String
  | .null => "null"
  | .bool b => s!"boolean `{b}`"
  | .number n => n.described
  | .text s => "string " ++ Text.quoted s
  | .sequence => "sequence"
  | .map => "map"

/-- What a document is, for a reader that wanted something else. -/
def found : Json → Found
  | .null => .null
  | .bool b => .bool b
  | .num n => .number n
  | .str s => .text s
  | .arr _ => .sequence
  | .obj _ => .map

/-- A mismatch in words. -/
def Mismatch.message : Mismatch → String
  | .invalidType found expected => s!"invalid type: {found.described}, expected {expected}"
  | .invalidValue found expected => s!"invalid value: {found.described}, expected {expected}"
  | .invalidLength length expected => s!"invalid length {length}, expected {expected}"
  | .missingField name => s!"missing field `{name}`"
  | .duplicateField name => s!"duplicate field `{name}`"
  | .unknownVariant name known => s!"unknown variant `{name}`, expected `{known}`"

/-- A cause in words. -/
def Cause.message : Cause → String
  | .endInList => "EOF while parsing a list"
  | .endInObject => "EOF while parsing an object"
  | .endInString => "EOF while parsing a string"
  | .endInValue => "EOF while parsing a value"
  | .expectedColon => "expected `:`"
  | .expectedListEnd => "expected `,` or `]`"
  | .expectedObjectEnd => "expected `,` or `\x7d`"
  | .expectedIdent => "expected ident"
  | .expectedValue => "expected value"
  | .invalidEscape => "invalid escape"
  | .invalidNumber => "invalid number"
  | .numberOutOfRange => "number out of range"
  | .controlCharacter => "control character (\\u0000-\\u001F) found while parsing a string"
  | .keyNotString => "key must be a string"
  | .loneSurrogate => "lone leading surrogate in hex escape"
  | .unfinishedEscape => "unexpected end of hex escape"
  | .trailingComma => "trailing comma"
  | .trailingCharacters => "trailing characters"
  | .tooDeep => "recursion limit exceeded"
  | .shape mismatch => mismatch.message

/-- A refusal: its cause, and how many bytes were still unread at its place, if it has one. -/
structure Failure where
  cause : Cause
  unread : Option Nat := none
  deriving Repr, DecidableEq

/-- A refusal at the start of what is unread. -/
def Failure.here (cause : Cause) (rest : List Char) : Failure :=
  { cause, unread := some (Text.utf8Size rest) }

/-- A refusal of the byte that comes next: its place is behind that byte, or at the end. -/
def Failure.ahead (cause : Cause) (rest : List Char) : Failure :=
  { cause, unread := some (Text.utf8Size rest - 1) }

/-- Line and column behind the first `n` bytes of a text. A line ends with its line feed, and the
column counts the bytes since. -/
def placeAfter (line column : Nat) : Nat → List Char → Nat × Nat
  | n, [] => (line, column + n)
  | n, c :: rest =>
    if n < c.utf8Size then (line, column + n)
    else if c = '\n' then placeAfter (line + 1) 0 (n - 1) rest
    else placeAfter line (column + c.utf8Size) (n - c.utf8Size) rest

/-- A refusal in words, with its place in the text that was read. -/
def Failure.message (text : List Char) (f : Failure) : String :=
  match f.unread with
  | none => f.cause.message
  | some unread =>
    let (line, column) := placeAfter 1 0 (Text.utf8Size text - unread) text
    s!"{f.cause.message} at line {line} column {column}"

end SessionHub.Json
