/-!
# JSON documents

A document as it was written: the members of an object stay in their order, and a name that occurs
twice stays twice. Most of the library looks names up, and for that `Json.member?` takes the last
occurrence; `Json.settled` is the same document with the names of every object in ascending order
and each once.

A number is an integer of 64 bits, signed or unsigned, or else a double; the two are told apart by
how the number was written, so `5` and `5.0` are different documents.
-/

namespace SessionHub

/-- A number of a document. A double is held by its bits, which makes equality decidable. -/
inductive Json.Number where
  | int (value : Int)
  | double (bits : UInt64)
  deriving Repr, DecidableEq, Inhabited

/-- A document. -/
inductive Json where
  | null
  | bool (value : Bool)
  | num (value : Json.Number)
  | str (value : String)
  | arr (items : List Json)
  | obj (members : List (String × Json))
  deriving Repr, Inhabited

namespace Json

/-- Puts a member in its place among members in ascending order, over one of the same name. -/
def insertMember (name : String) (value : Json) : List (String × Json) → List (String × Json)
  | [] => [(name, value)]
  | (n, v) :: rest =>
    if name < n then (name, value) :: (n, v) :: rest
    else if name = n then (name, value) :: rest
    else (n, v) :: insertMember name value rest

mutual

/-- The document with every object's names in ascending order; of two members of one name the
later stands. -/
def settled : Json → Json
  | .arr items => .arr (settledItems items)
  | .obj members => .obj (settledMembers [] members)
  | scalar => scalar

/-- The items of an array, each settled. -/
def settledItems : List Json → List Json
  | [] => []
  | item :: rest => item.settled :: settledItems rest

/-- The members of an object, put in place one after the other. -/
def settledMembers (placed : List (String × Json)) : List (String × Json) → List (String × Json)
  | [] => placed
  | (name, value) :: rest => settledMembers (insertMember name value.settled placed) rest

end

/-- The value under a name: the last one written. -/
def memberOf? (name : String) (members : List (String × Json)) : Option Json :=
  members.foldl (fun found m => if m.1 = name then some m.2 else found) none

/-- The value of a member of an object. -/
def member? (name : String) : Json → Option Json
  | .obj members => memberOf? name members
  | _ => none

/-- A natural number as a document. -/
def nat (n : Nat) : Json := .num (.int n)

/-- An integer as a document. -/
def int (n : Int) : Json := .num (.int n)

/-- An array of texts. -/
def strs (items : List String) : Json := .arr (items.map .str)

/-- The text that a document is. -/
def text? : Json → Option String
  | .str s => some s
  | _ => none

/-- The natural number that a document is. -/
def nat? : Json → Option Nat
  | .num (.int (.ofNat n)) => some n
  | _ => none

/-- A text, or null in its absence. -/
def str? (text : Option String) : Json := (text.map Json.str).getD .null

end Json

end SessionHub
