import SessionHub.Glob
import SessionHub.Remote.Command

/-!
# Scanning a remote store

All keys with a given beginning are asked for in rounds. The server answers each round with some of
the keys and a cursor for the next, and the cursor zero ends the scan. It may name a key several
times, in any order. So the keys are put in ascending order, each once; then their values are asked
for, and a key that has none by then is left out.

The beginning is sent as a pattern: the text taken literally, then any run.
-/

namespace SessionHub.Remote

/-- A scan between two rounds. -/
structure Scan where
  start : String
  cursor : Nat := 0
  found : List String := []
  deriving Repr, DecidableEq, Inhabited

/-- The server's answer to a round. -/
structure Batch where
  next : Nat
  keys : List String
  deriving Repr, DecidableEq, Inhabited

/-- Puts a key in its place among keys in ascending order, unless it is there. -/
def insertKey (key : String) : List String → List String
  | [] => [key]
  | other :: rest =>
    if key < other then key :: other :: rest
    else if key = other then other :: rest
    else other :: insertKey key rest

/-- Keys in ascending order, each once. -/
def ascending (keys : List String) : List String := keys.foldr insertKey []

namespace Batch

/-- The answer that a reply is. -/
def ofReply? : Reply → Option Batch
  | .list [next, keys] => do
    some { next := ← next.count?, keys := ← keys.items.mapM Reply.text? }
  | _ => none

end Batch

namespace Scan

/-- The pattern for the keys that begin in a way. -/
def pattern (start : String) : String := Glob.escape start ++ "*"

/-- How many keys the server is told to look at in a round. -/
def roundSize : Nat := 200

/-- The command for the next round. -/
def command (s : Scan) : Command :=
  ["SCAN", toString s.cursor, "MATCH", pattern s.start, "COUNT", toString roundSize]

/-- A round is answered: either there is another, or these are the keys. -/
def receive (b : Batch) (s : Scan) : Scan ⊕ List String :=
  let found := s.found ++ b.keys
  if b.next = 0 then .inr (ascending found) else .inl { s with cursor := b.next, found }

/-- The keys of a scan whose rounds are answered in turn; none if it is not over by then. -/
def run : List Batch → Scan → Option (List String)
  | [], _ => none
  | b :: rest, s =>
    match s.receive b with
    | .inr keys => some keys
    | .inl s => s.run rest

/-- The keys that have a value, with it. -/
def pairs (keys : List String) (values : List (Option String)) : List (String × String) :=
  (keys.zip values).filterMap fun (key, value) => value.map fun v => (key, v)

/-- A scan, its rounds answered in turn and the values of the keys looked up. Without keys there is
nothing to look up. -/
def result (start : String) (rounds : List Batch) (lookUp : List String → List (Option String)) :
    Option (List (String × String)) :=
  (run rounds { start }).map fun keys => if keys.isEmpty then [] else pairs keys (lookUp keys)

/-- How far a scan has come: another round is asked for, or the values of the keys, or it is over. -/
inductive Stage where
  | rounds (s : Scan)
  | values (keys : List String)
  | ended (outcome : Except StoreFault (List (String × String)))
  deriving Repr, Inhabited

namespace Stage

/-- What the server is asked next. -/
def command? : Stage → Option Command
  | .rounds s => some s.command
  | .values keys => some (valuesCommand keys)
  | .ended _ => none

/-- With the keys of all rounds: without keys there is nothing to look up. -/
def withKeys : List String → Stage
  | [] => .ended (.ok [])
  | key :: rest => .values (key :: rest)

/-- With what comes of the last command: a reply, or a failure of the connection. A failure ends the
scan. -/
def take (answer : Except StoreFault Reply) : Stage → Stage
  | .rounds s =>
    match answer.bind (·.read Batch.ofReply?) with
    | .error fault => .ended (.error fault)
    | .ok b =>
      match s.receive b with
      | .inl s => .rounds s
      | .inr keys => withKeys keys
  | .values keys => .ended ((answer.bind valuesOf).map (pairs keys))
  | .ended outcome => .ended outcome

/-- A scan after at most so many commands, each answered by a server that knows how many went
before. -/
def after (serve : Nat → Command → Except StoreFault Reply) (start : String) : Nat → Stage
  | 0 => .rounds { start }
  | n + 1 =>
    let stage := after serve start n
    match stage.command? with
    | some c => stage.take (serve n c)
    | none => stage

end Stage

end Scan

end SessionHub.Remote
