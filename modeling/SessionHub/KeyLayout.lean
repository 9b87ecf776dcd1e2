import SessionHub.Glob
import SessionHub.Names

/-!
# The layout of the shared store

All nodes of a cluster use one prefix, and under it four families of names:

    PREFIX:node:NODE            the node's liveness record
    PREFIX:route:PATH:SESSION   the node that holds the session
    PREFIX:broadcast:PATH       the channel of a path
    PREFIX:control              the channel of announcements

A path may hold colons and a session's name never does, so the last colon of a route key divides
the two. Patterns escape the prefix: a prefix with pattern characters in it listens to itself only.
-/

namespace SessionHub

/-- The part of a text behind a given beginning. -/
def behind? : List Char → List Char → Option (List Char)
  | [], text => some text
  | _ :: _, [] => none
  | p :: start, c :: text => if p = c then behind? start text else none

/-- The two parts around the last occurrence of a character. -/
def splitLast? (mark : Char) : List Char → Option (List Char × List Char)
  | [] => none
  | c :: rest =>
    match splitLast? mark rest with
    | some (before, after) => some (c :: before, after)
    | none => if c = mark then some ([], rest) else none

/-- A cluster's names, by their common prefix. -/
structure KeyLayout where
  start : String
  deriving Repr, DecidableEq, Inhabited

namespace KeyLayout

/-- What the keys of liveness records have in common. -/
def nodeStart (keys : KeyLayout) : String := keys.start ++ ":node:"

/-- The key of a node's liveness record. -/
def nodeKey (keys : KeyLayout) (node : NodeId) : String := keys.nodeStart ++ node.text

/-- What the keys of routes have in common. -/
def routeStart (keys : KeyLayout) : String := keys.start ++ ":route:"

/-- The key of a session's route. -/
def routeKey (keys : KeyLayout) (path : String) (session : SessionId) : String :=
  keys.routeStart ++ path ++ ":" ++ session.text

/-- The path and the session of a route key. -/
def route? (keys : KeyLayout) (key : String) : Option (String × SessionId) := do
  let rest ← behind? keys.routeStart.toList key.toList
  let (path, session) ← splitLast? ':' rest
  if session.isEmpty then none else some (String.ofList path, ⟨String.ofList session⟩)

/-- The channel that carries the broadcasts of a path. -/
def broadcastChannel (keys : KeyLayout) (path : String) : String :=
  keys.start ++ ":broadcast:" ++ path

/-- The pattern of all broadcast channels. -/
def broadcastPattern (keys : KeyLayout) : String := Glob.escape keys.start ++ ":broadcast:*"

/-- The path of a broadcast channel. -/
def channelPath? (keys : KeyLayout) (channel : String) : Option String :=
  (behind? (keys.start ++ ":broadcast:").toList channel.toList).map String.ofList

/-- The channel of announcements. -/
def controlChannel (keys : KeyLayout) : String := keys.start ++ ":control"

/-- The pattern of that channel alone. -/
def controlPattern (keys : KeyLayout) : String := Glob.escape keys.controlChannel

end KeyLayout

end SessionHub
