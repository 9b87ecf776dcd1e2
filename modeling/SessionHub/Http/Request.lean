import SessionHub.Text.Utf8
import SessionHub.Text.White

/-!
# Requests

What the front end looks at in a request: its method, the path of its target, its headers and the
address it comes from. The name of a header has no case, and of several headers of one name the
first counts. A header's value is a string of octets; only some values are texts.
-/

namespace SessionHub.Http

/-- A text in lower case, as far as it is ASCII. -/
def lower (s : String) : String := String.ofList (s.toList.map Char.toLower)

/-- A request. -/
structure Request where
  method : String := "GET"
  /-- The path and what follows it. -/
  target : String
  headers : List (String × List UInt8) := []
  address : Option String := none
  /-- Whether the connection can be taken over by another protocol. -/
  canSwitch : Bool := false
  deriving Repr, Inhabited

namespace Request

/-- The path of the target, without the query. -/
def path (r : Request) : List Char := r.target.toList.takeWhile fun c => c != '?' && c != '#'

/-- The first value of a header. -/
def header? (r : Request) (name : String) : Option (List UInt8) :=
  (r.headers.find? fun h => lower h.1 == name).map (·.2)

/-- Whether an octet is visible in ASCII, a blank or a tab. -/
def isVisible (b : UInt8) : Bool := b == 9 || (32 ≤ b && b < 127)

/-- The first value of a header as a text, if it is visible ASCII. -/
def text? (r : Request) (name : String) : Option String :=
  ((r.header? name).filter fun v => v.all isVisible).map fun v =>
    String.ofList (v.map fun b => Char.ofNat b.toNat)

/-- Whether the first value of a header is a given word, in any case. -/
def headerIs (r : Request) (name word : String) : Bool :=
  match (r.header? name).bind Text.utf8? with
  | some v => lower v == word
  | none => false

/-- Whether a word occurs in a text. -/
def occursIn (word : List Char) : List Char → Bool
  | [] => word.isEmpty
  | c :: rest => word.isPrefixOf (c :: rest) || occursIn word rest

/-- Whether the first value of a header contains a given word, in any case. -/
def headerHas (r : Request) (name word : String) : Bool :=
  match (r.header? name).bind Text.utf8? with
  | some v => occursIn word.toList (lower v).toList
  | none => false

end Request

end SessionHub.Http
