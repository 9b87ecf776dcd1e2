import SessionHub.Fault
import SessionHub.Remote.Url

/-!
# Where the remote store is

A store that several hosts share is a server of its own, named by a URL: a host and a port, or a
file. The URL also names the database, the first if it names none, and the version of the language
that is spoken. A URL that makes no sense is a mistake of whoever set the hub up; a server that
cannot be reached is the network's.
-/

namespace SessionHub.Remote

/-- Where a server listens. -/
inductive Target where
  | host (name : String) (port : Nat) (database : Int)
  | file (path : String) (database : Int)
  deriving Repr, DecidableEq, Inhabited

namespace Target

/-- The port of a server whose URL names none. -/
def usualPort : Nat := 6379

/-- Whether the version of the language is one that is spoken; it need not be given. -/
def speaks (u : Url) : Bool :=
  match u.parameter? "protocol" with
  | none => true
  | some v => ["2", "resp2", "3", "resp3"].contains v

/-- A text without slashes at its ends. -/
def unslashed (cs : List Char) : String :=
  String.ofList (((cs.dropWhile (· = '/')).reverse.dropWhile (· = '/')).reverse)

/-- The path of a URL without segments that mean this place or the one above. -/
def pathOf (u : Url) : List Char :=
  "/".toList.intercalate (Url.resolved [] (Url.segments u.path))

/-- A server at a host and a port. -/
def hostOf? (u : Url) : Option Target := do
  let host ← u.host
  let number := unslashed (pathOf u)
  let database ← if number = "" then some 0 else Text.signed? number
  discard (Text.percentText? u.user)
  discard (Text.percentText? (u.password.getD []))
  if speaks u then some (.host host (u.port.getD usualPort) database) else none

/-- A server at a file. -/
def fileOf? (u : Url) : Option Target := do
  let isLocal := match u.host with
    | none => true
    | some h => h == "localhost"
  let database ← match u.parameter? "db" with
    | none => some 0
    | some number => Text.signed? number
  match pathOf u with
  | '/' :: rest =>
    if isLocal && speaks u then
      some (.file (Text.utf8Lossy (Text.percentDecoded ('/' :: rest))) database)
    else none
  | _ => none

/-- The server that a URL names. -/
def ofUrl? (url : String) : Option Target := do
  let u ← Url.ofText? url
  match u.scheme with
  | "redis" => hostOf? u
  | "unix" | "redis+unix" => fileOf? u
  | _ => none

end Target

/-- Connects to the server that a URL names, if it is there. -/
def connect (url : String) (isThere : Target → Bool) : Except StoreFault Target :=
  match Target.ofUrl? url with
  | none => .error (.backend "the URL names no server")
  | some target =>
    if isThere target then .ok target else .error (.unavailable "the server cannot be reached")

end SessionHub.Remote
