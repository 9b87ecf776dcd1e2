import SessionHub.Store.Call
import SessionHub.Text.Digits
import SessionHub.Text.Utf8

/-!
# Commands and replies

A remote server is sent commands, which are lists of texts, and answers each with a reply. What a
reply is worth depends on what was asked: a reply of another shape is a failure of the server, as is
one that says so.
-/

namespace SessionHub.Remote

/-- A reply. -/
inductive Reply where
  | nothing
  | number (n : Int)
  | octets (value : List UInt8)
  | status (text : String)
  | list (items : List Reply)
  | failure (text : String)
  deriving Repr, Inhabited

namespace Reply

/-- The text that a reply is. -/
def text? : Reply → Option String
  | .octets value => Text.utf8? value
  | .status text => some text
  | .number n => some (toString n)
  | _ => none

/-- The text that a reply is, or that there is none. -/
def maybeText? : Reply → Option (Option String)
  | .nothing => some none
  | r => r.text?.map some

/-- The replies in a reply; one that is no list stands for itself, and nothing for none. -/
def items : Reply → List Reply
  | .list items => items
  | .nothing => []
  | r => [r]

/-- The unsigned number that a reply is. -/
def count? : Reply → Option Nat
  | .number (.ofNat n) => some n
  | .octets value => (Text.utf8? value).bind (Text.unsigned? (twoTo 64))
  | .status text => Text.unsigned? (twoTo 64) text
  | _ => none

/-- What a reply is worth, read in some way. -/
def read {α : Type} (as : Reply → Option α) : Reply → Except StoreFault α
  | .failure text => .error (.backend text)
  | r => match as r with
    | some a => .ok a
    | none => .error (.backend "the reply has an unexpected shape")

end Reply

/-- A command. -/
abbrev Command := List String

/-- The longest lifetime that can be written. -/
def longestLifetime : Nat := twoTo 64 - 1

/-- A lifetime as the server takes it: at least one millisecond. -/
def lifetime (ttl : Nat) : Nat := max 1 (min ttl longestLifetime)

/-- The command for a call to the store. A scan takes several commands, and a subscription has a
connection of its own. -/
def command? : StoreCall → Option Command
  | .set key value ttl => some ["SET", key, value, "PX", toString (lifetime ttl)]
  | .get key => some ["GET", key]
  | .delete key => some ["DEL", key]
  | .publish channel payload => some ["PUBLISH", channel, payload]
  | .scan _ | .subscribe _ => none

/-- The command that asks for the values of several keys. -/
def valuesCommand (keys : List String) : Command := "MGET" :: keys

/-- What the reply to a call's command is worth. -/
def answer? : (call : StoreCall) → Reply → Option call.Answer
  | .set .., r | .delete _, r | .publish .., r => some (r.read fun _ => some ())
  | .get _, r => some (r.read Reply.maybeText?)
  | .scan _, _ | .subscribe _, _ => none

/-- The answer to the question for several keys. -/
def valuesOf (r : Reply) : Except StoreFault (List (Option String)) :=
  r.read fun r => r.items.mapM Reply.maybeText?

end SessionHub.Remote
