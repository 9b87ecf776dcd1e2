import SessionHub.Journal.Basic
import SessionHub.Session

/-!
# The floor: the sessions of a process and the roster of those registered

A session exists from the moment its connection is made, and is *registered* while it stands on the
roster, under its name. The path is part of the session: who asks for a session on a path gets it
only if it is there, so a session cannot be reached or removed by way of another path.

A session leaves the roster when somebody removes it, and by being sent to in vain: a registered
session that does not take a frame is removed on the spot, and the others still get theirs. Whoever
takes a session off the roster closes its connection.
-/

namespace SessionHub

/-- Where a session stands in its process. -/
abbrev SessionRef := Nat

/-- The registered sessions by name, the earliest first. -/
abbrev Roster := List (SessionId × SessionRef)

/-- The sessions of a process, one roster of them, and the clock. -/
structure Floor where
  now : Nat := 0
  sessions : Array Session := #[]
  roster : Roster := []
  journal : Journal := {}
  deriving Repr, Inhabited

/-- What a delivery on one path came to: how many sessions took the payload, and which were removed
because they did not. -/
structure Delivery where
  delivered : Nat := 0
  removed : List SessionId := []
  deriving Repr, DecidableEq, Inhabited

/-- A delivery as a document. -/
def Delivery.toJson (d : Delivery) : Json :=
  .obj [("delivered", .nat d.delivered), ("removed", .arr (d.removed.map fun i => .str i.text))]

namespace Floor

/-! ## Sessions -/

/-- A session. -/
def session (f : Floor) (r : SessionRef) : Session := f.sessions.getD r default

/-- Changes a session. -/
def modifySession (r : SessionRef) (change : Session → Session) (f : Floor) : Floor :=
  { f with sessions := f.sessions.modify r change }

/-- Writes something down. -/
def record (change : Journal → Journal) (f : Floor) : Floor :=
  { f with journal := change f.journal }

/-- A new session, not yet registered. -/
def place (s : Session) (f : Floor) : SessionRef × Floor :=
  (f.sessions.size, { f with sessions := f.sessions.push s })

/-- Sends a frame to a session. -/
def send (r : SessionRef) (text : String) (f : Floor) : Except TransportFault Unit × Floor :=
  let (outcome, s) := (f.session r).send f.now text
  (outcome, f.modifySession r fun _ => s)

/-- Closes a session's connection. -/
def close (r : SessionRef) (f : Floor) : Floor := f.modifySession r Session.close

/-- Something arrived from a session. -/
def touch (r : SessionRef) (f : Floor) : Floor := f.modifySession r (Session.touch f.now)

/-! ## The roster -/

/-- Registers a session under its name, unless the name is taken. -/
def register (r : SessionRef) (f : Floor) : Except Refusal Unit × Floor :=
  let s := f.session r
  if (f.roster.lookup s.id).isSome then
    (.error (.duplicate s.id), f.record (·.complain "duplicate session id, registration rejected"
      [("session_id", s.id.text), ("path", s.path)]))
  else (.ok (), { f with roster := f.roster ++ [(s.id, r)] })

/-- The session registered under a name, if it is on the path. -/
def get? (path : String) (id : SessionId) (f : Floor) : Option SessionRef :=
  (f.roster.lookup id).filter fun r => (f.session r).path == path

/-- Takes a session off the roster, if it is on the path, and closes it. -/
def remove (path : String) (id : SessionId) (f : Floor) : Option SessionRef × Floor :=
  match f.get? path id with
  | none => (none, f)
  | some r => (some r, { f with roster := f.roster.filter (·.1 != id) }.close r)

/-- All registered sessions. -/
def registered (f : Floor) : List SessionRef := f.roster.map (·.2)

/-- The registered sessions on a path. -/
def onPath (path : String) (f : Floor) : List SessionRef :=
  f.registered.filter fun r => (f.session r).path == path

/-! ## Delivery -/

/-- A session that did not take a frame: counted, logged and removed. -/
def expel (path complaint : String) (r : SessionRef) (fault : TransportFault) (f : Floor) : Floor :=
  let s := f.session r
  let f := f.record fun j =>
    (j.count (.sendFailures fault.message)).warn complaint
      [("session_id", s.id.text), ("path", path), ("error", fault.message)]
  (f.remove path s.id).2

/-- Sends a payload to one session of a broadcast, if the session is still active. -/
def deliverTo (path payload : String) (f : Floor) (report : Delivery) (r : SessionRef) :
    Floor × Delivery :=
  let (outcome, f) :=
    if (f.session r).isActive then f.send r payload else (.error .closed, f)
  match outcome with
  | .ok () => (f, { report with delivered := report.delivered + 1 })
  | .error fault =>
    (f.expel path "broadcast send failed, removing session" r fault,
      { report with removed := report.removed ++ [(f.session r).id] })

/-- Sends a payload to some sessions in turn. -/
def deliverAll (path payload : String) : List SessionRef → Floor → Delivery → Floor × Delivery
  | [], f, report => (f, report)
  | r :: rest, f, report =>
    let (f, report) := deliverTo path payload f report r
    deliverAll path payload rest f report

/-- Delivers a payload to every registered session on a path that the predicate admits. -/
def deliver (path payload : String) (admits : Session → Bool) (f : Floor) : Floor × Delivery :=
  deliverAll path payload ((f.onPath path).filter fun r => admits (f.session r)) f {}

/-- Sends a payload to the session of a name on a path. Says whether it was taken. -/
def sendTo (path : String) (id : SessionId) (payload : String) (f : Floor) : Bool × Floor :=
  match f.get? path id with
  | none => (false, f)
  | some r =>
    match f.send r payload with
    | (.ok (), f) => (true, f)
    | (.error fault, f) => (false, f.expel path "send failed, removing session" r fault)

/-! ## Removal of many -/

/-- Removes some sessions in turn, those that are still registered. -/
def removeAll (after : Floor → Floor) : List SessionRef → Floor → List SessionRef × Floor
  | [], f => ([], f)
  | r :: rest, f =>
    let s := f.session r
    match f.remove s.path s.id with
    | (none, f) => removeAll after rest f
    | (some gone, f) =>
      let (others, f) := removeAll after rest (after f)
      (gone :: others, f)

/-- Whether a session has nothing to say: its connection is gone, or idle for longer than the
timeout. -/
def isStale (timeout : Nat) (f : Floor) (r : SessionRef) : Bool :=
  let s := f.session r
  !s.isActive || s.idleAt f.now > timeout

/-- Removes the sessions that are stale, and counts them. -/
def sweepIdle (timeout : Nat) (f : Floor) : List SessionRef × Floor :=
  removeAll (·.record (·.count .idleEvictions)) (f.registered.filter (f.isStale timeout)) f

/-- Removes all sessions. -/
def closeAll (f : Floor) : List SessionRef × Floor := removeAll id f.registered f

/-- The roster as a document, with the number of sessions on a path. -/
def report (f : Floor) (path : String) : Json :=
  .obj [("len", .nat f.roster.length), ("empty", .bool f.roster.isEmpty),
    ("count", .nat (f.onPath path).length), ("ids", .arr (f.roster.map fun e => .str e.1.text))]

end Floor

end SessionHub
