import SessionHub.Node.Hub
import SessionHub.Socket.Basic
import SessionHub.Store.Memory

/-!
# Several nodes in one process

A deployment holds any number of nodes and stores, and what they have in common: one clock, one
journal, one table of jobs, and the sessions. Each node sits on a **seat** that says which roster it
uses and which store it calls. A program of a node sees the node whole (`World.node`) and puts it
back whole (`World.setNode`); what the nodes share is copied in and out on the way.
-/

namespace SessionHub

/-- A node with its roster and its store. The parts that nodes share are not kept here. -/
structure Seat where
  node : Node
  roster : Nat := 0
  store : Nat := 0
  deriving Repr, Inhabited

/-- The state of a deployment. -/
structure World where
  /-- Milliseconds since it began. -/
  now : Nat := 0
  /-- The wall clock at its beginning, as it is set now. -/
  epoch : Int := 1700000000000
  sessions : Array Session := #[]
  rosters : Array Roster := #[]
  stores : Array Store := #[]
  seats : Array Seat := #[]
  sockets : Array Socket := #[]
  journal : Journal := {}
  jobs : Array Job := #[]
  named : Nat := 0
  deriving Repr, Inhabited

namespace World

/-- The wall clock. -/
def wall (w : World) : Int := w.epoch + w.now

/-! ## Parts -/

/-- A seat. -/
def seat (w : World) (i : Nat) : Seat := w.seats.getD i default

/-- A store. -/
def store (w : World) (i : Nat) : Store := w.stores.getD i default

/-- Changes a store. -/
def modifyStore (i : Nat) (change : Store → Store) (w : World) : World :=
  { w with stores := w.stores.modify i change }

/-- A socket. -/
def socket (w : World) (i : Nat) : Socket := w.sockets.getD i default

/-- Changes a socket and takes a result from it. -/
def onSocket {α : Type} (i : Nat) (f : Socket → α × Socket) (w : World) : α × World :=
  let (a, s) := f (w.socket i)
  (a, { w with sockets := w.sockets.modify i fun _ => s })

/-- Changes a socket. -/
def modifySocket (i : Nat) (change : Socket → Socket) (w : World) : World :=
  { w with sockets := w.sockets.modify i change }

/-- A session. -/
def session (w : World) (r : SessionRef) : Session := w.sessions.getD r default

/-- Changes a session. -/
def modifySession (r : SessionRef) (change : Session → Session) (w : World) : World :=
  { w with sessions := w.sessions.modify r change }

/-- The floor with one of the rosters. -/
def floor (w : World) (roster : Nat) : Floor :=
  { now := w.now, sessions := w.sessions, roster := w.rosters.getD roster [], journal := w.journal }

/-- Puts a floor back. -/
def setFloor (roster : Nat) (f : Floor) (w : World) : World :=
  { w with
    sessions := f.sessions
    rosters := w.rosters.setIfInBounds roster f.roster
    journal := f.journal }

/-- A node as its programs see it. -/
def node (i : Nat) (w : World) : Node :=
  let s := w.seat i
  { s.node with
    seat := i
    floor := w.floor s.roster
    wall := w.wall
    named := w.named
    jobs := w.jobs }

/-- Puts a node back. -/
def setNode (i : Nat) (n : Node) (w : World) : World :=
  let s := w.seat i
  let w := w.setFloor s.roster n.floor
  { w with
    seats := w.seats.modify i fun s => { s with node := { n with floor := {}, jobs := #[] } }
    jobs := n.jobs
    named := n.named }

/-- Changes a node. -/
def modifyNode (i : Nat) (change : Node → Node) (w : World) : World :=
  w.setNode i (change (w.node i))

/-! ## Additions -/

/-- A new store. -/
def addStore (w : World) : Nat × World := (w.stores.size, { w with stores := w.stores.push {} })

/-- A new roster. -/
def addRoster (w : World) : Nat × World := (w.rosters.size, { w with rosters := w.rosters.push [] })

/-- A new node on a roster, alone or in the cluster of a store. -/
def addNode (n : Node) (roster : Nat) (store : Option Nat) (w : World) : Nat × World :=
  let n := { n with clustered := store.isSome, startedAt := w.now
                    membership := { n.membership with startedAt := w.wall } }
  (w.seats.size, { w with seats := w.seats.push { node := n, roster, store := store.getD 0 } })

/-- A node for a cluster's side alone. -/
def member (id : NodeId) (c : ClusterConfig) : Node :=
  { id, membership := { keys := ⟨c.keyPrefix⟩, ttl := c.ttl, opTimeout := c.opTimeout } }

/-- A node with a hub. -/
def hub (id : NodeId) (config : Config) (handlers : Handlers) : Node :=
  { member id config.cluster with config, handlers }

/-! ## Jobs -/

/-- A job. -/
def job (w : World) (r : JobRef) : Job := w.jobs.getD r default

/-- Whether a job has come to an end. -/
def hasEnded (w : World) (r : JobRef) : Bool := (w.job r).phase.hasEnded

/-- Starts a job. -/
def startJob (work : Work) (parent : Option JobRef) (w : World) : JobRef × World :=
  (w.jobs.size, { w with jobs := w.jobs.push { work, parent } })

/-- Opens a socket on a path of a node, and starts the job that serves it. -/
def openSocket (seat : Nat) (path : String) (handshake : Handshake) (w : World) : Nat × World :=
  let i := w.sockets.size
  let w := { w with sockets := w.sockets.push { seat, path, handshake } }
  (i, (w.startJob (.connection i) none).2)

/-- Ends a job that is running. -/
def endJob (r : JobRef) (phase : Phase) (w : World) : World :=
  { w with jobs := w.jobs.modify r fun j => if j.phase.hasEnded then j else { j with phase } }

/-- Lets go of what a job held that is no more. -/
def release (work : Work) (w : World) : World :=
  match work with
  | .listen node broadcasts control =>
    w.modifyStore (w.seat node).store fun s => (s.unsubscribe broadcasts).unsubscribe control
  | _ => w

end World

end SessionHub
