import SessionHub.Json.Value
import SessionHub.Outbox

/-!
# Sessions

A session is one client's connection as the hub knows it: who it is, on which path, what the
handler keeps with it, and when anything was last carried over it. Sending and receiving
application frames counts as activity; a frame that is refused does not.
-/

namespace SessionHub

/-- What the handshake found out about a client. -/
structure Handshake where
  address : Option String := none
  user : Option String := none
  deriving Repr, DecidableEq, Inhabited

/-- One client's connection. -/
structure Session where
  id : SessionId
  path : String
  owner : NodeId
  handshake : Handshake
  attributes : List (String × Json) := []
  createdAt : Nat
  lastActive : Nat
  /-- Whether its end has been claimed by somebody who tells the handler. -/
  finished : Bool := false
  outbox : Outbox
  deriving Repr, Inhabited

namespace Session

/-- A session that begins now. -/
def opening (id : SessionId) (path : String) (owner : NodeId) (handshake : Handshake)
    (outbox : Outbox) (now : Nat) : Session :=
  { id, path, owner, handshake, outbox, createdAt := now, lastActive := now }

/-- Something was carried over the connection. -/
def touch (now : Nat) (s : Session) : Session := { s with lastActive := now }

/-- How long nothing was carried over the connection. -/
def idleAt (s : Session) (now : Nat) : Nat := now - s.lastActive

/-- How long the session has lasted. -/
def ageAt (s : Session) (now : Nat) : Nat := now - s.createdAt

/-- Whether the connection still takes frames. -/
def isActive (s : Session) : Bool := s.outbox.isActive

/-- Sends a frame. -/
def send (now : Nat) (text : String) (s : Session) : Except TransportFault Unit × Session :=
  match s.outbox.send text with
  | (.ok (), outbox) => (.ok (), { s with outbox }.touch now)
  | (.error e, outbox) => (.error e, { s with outbox })

/-- Closes the connection. -/
def close (s : Session) : Session := { s with outbox := s.outbox.close }

/-- What is kept under a name. -/
def attribute? (name : String) (s : Session) : Option Json := s.attributes.lookup name

/-- Keeps a value under a name. -/
def setAttribute (name : String) (value : Json) (s : Session) : Session :=
  { s with attributes := (name, value) :: s.attributes.filter (·.1 != name) }

/-- Forgets what is kept under a name. -/
def dropAttribute (name : String) (s : Session) : Session :=
  { s with attributes := s.attributes.filter (·.1 != name) }

/-- A session for a reader of logs. -/
def described (s : Session) : String :=
  let user := match s.handshake.user with
    | some u => s!"Some({Text.quoted u})"
    | none => "None"
  "Session \x7b id: " ++ s.id.described ++ ", path: " ++ Text.quoted s.path ++ ", owner: "
    ++ s.owner.described ++ ", user_id: " ++ user ++ ", .. \x7d"

/-- What is known of a session at a time, as a document. How many frames were refused and whether
the connection is closed is for the holder of its receiving half. -/
def report (s : Session) (now : Nat) (isHolder : Bool) : Json :=
  .obj [("id", .str s.id.text), ("path", .str s.path), ("owner", .str s.owner.text),
    ("user", .str? s.handshake.user), ("addr", .str? s.handshake.address),
    ("active", .bool s.isActive), ("age", .nat (s.ageAt now)), ("idle", .nat (s.idleAt now)),
    ("drops", .nat (if isHolder then s.outbox.refused else 0)),
    ("cancelled", if isHolder && s.outbox.received then .bool s.outbox.closed else .null),
    ("debug", .str s.described)]

end Session

end SessionHub
