import SessionHub.Config
import SessionHub.Floor
import SessionHub.Handler.Basic
import SessionHub.KeyLayout
import SessionHub.Program
import SessionHub.Store.Call
import SessionHub.Wire

/-!
# A node

One running process: its floor of sessions, its part in a cluster, its handlers, and the jobs that
run beside its callers. All of this is the state of the programs in the modules that follow; each of
them runs atomically between two calls.

## Jobs

A job is something that goes on in the background. What it does is given by its `Work`; where it
stands, by its `Phase`. A job that is *dropped* does nothing any more, at whatever point it was.
Starting and dropping jobs changes the table of jobs and is no call.
-/

namespace SessionHub

/-- The number of a job in the table of jobs. -/
abbrev JobRef := Nat

/-- What is done with one route in the shared store: written and checked again, or deleted. -/
inductive RouteWork where
  | refresh (session : SessionRef)
  | forget (path : String) (session : SessionId)
  | purge (key : String)
  deriving Repr, DecidableEq, Inhabited

/-- A chore: something that is tracked only so that the end of it can be waited for. -/
inductive Chore where
  /-- Waits until the node stops, and then some milliseconds. -/
  | untilStop (ms : Nat)
  /-- Waits some milliseconds, whether the node stops or not. -/
  | regardless (ms : Nat)
  /-- Panics. -/
  | panics
  deriving Repr, DecidableEq, Inhabited

/-- What a job does. -/
inductive Work where
  /-- Handles what arrives on a node's two subscriptions. -/
  | listen (node : Nat) (broadcasts control : SubRef)
  /-- Renews the routes of a node's sessions. -/
  | refreshRoutes (node : Nat)
  /-- One route of many, for the job that waits for all of them. -/
  | route (node : Nat) (work : RouteWork)
  /-- Ticks: heartbeat, sweep, eviction. -/
  | liveness (node : Nat)
  /-- Forwards a store's messages to one subscription. -/
  | forward (store : Nat) (sub : SubRef)
  /-- Ends a subscription of a node that came to nothing. -/
  | unsubscribe (node : Nat) (sub : SubRef)
  /-- Reads a socket. -/
  | connection (socket : Nat)
  /-- Writes a socket. -/
  | writer (socket : Nat)
  /-- Shuts a node down after some milliseconds. -/
  | stopAfter (node : Nat) (ms : Nat)
  /-- A chore of a node. -/
  | chore (node : Nat) (chore : Chore)
  /-- Something that nobody but its starter knows about. -/
  | errand
  deriving Repr, DecidableEq, Inhabited

/-- Where a job stands. The answer of a job that is over is for whoever started it. -/
inductive Phase where
  | running
  | finished (answer : Json)
  | panicked
  | dropped
  deriving Repr, Inhabited

/-- Whether a job has come to an end. -/
def Phase.hasEnded : Phase → Bool
  | .running => false
  | _ => true

/-- A job. A job that waits for others is their parent: it drops them when it is dropped. -/
structure Job where
  work : Work
  phase : Phase := .running
  parent : Option JobRef := none
  deriving Repr, Inhabited

/-! ## The cluster's side -/

/-- What a node knows of its cluster, and what it is doing in it. -/
structure Membership where
  keys : KeyLayout := ⟨""⟩
  ttl : Nat := 0
  opTimeout : Nat := 0
  startedAt : Int := 0
  /-- The peers that the last sweep found alive. -/
  peers : List (NodeId × Beacon) := []
  /-- The peers that announced their leave, with the time of the announcement. -/
  departed : List (NodeId × Int) := []
  /-- Everything that observers have been told, the earliest first. -/
  events : List ClusterEvent := []
  /-- Whether the last store call failed. -/
  degraded : Bool := false
  subscribed : Bool := false
  /-- Whether the node has begun to leave the cluster. -/
  destroyed : Bool := false
  listener : Option JobRef := none
  refresher : Option JobRef := none
  deriving Repr, DecidableEq, Inhabited

/-- How many events are kept for an observer that has not asked for them. -/
def eventCapacity : Nat := 256

/-- The events for an observer that has seen some: how many it has lost because they were not kept
any more, and those that are. -/
def Membership.newsSince (m : Membership) (seen : Nat) : Nat × List ClusterEvent :=
  let news := m.events.drop seen
  let lost := news.length - eventCapacity
  (lost, news.drop lost)

/-- What a node does to stop: whether it has begun, and the jobs to be waited for. -/
structure Closing where
  begun : Bool := false
  tracked : List JobRef := []
  deriving Repr, DecidableEq, Inhabited

/-- The state of a node. -/
structure Node where
  id : NodeId
  /-- The number by which its jobs name it. -/
  seat : Nat := 0
  floor : Floor := {}
  /-- The wall clock, in milliseconds. -/
  wall : Int := 0
  /-- How many sessions have been given a fresh name. -/
  named : Nat := 0
  jobs : Array Job := #[]
  config : Config := {}
  handlers : Handlers := []
  /-- Whether the node takes part in a cluster; if not, its membership means nothing. -/
  clustered : Bool := false
  membership : Membership := {}
  closing : Closing := {}
  started : Bool := false
  startedAt : Nat := 0
  /-- When the next tick of its liveness job is due. -/
  nextTick : Nat := 0
  deriving Repr, Inhabited

namespace Node

/-- Changes the floor and takes a result from it. -/
def onFloor {α : Type} (f : Floor → α × Floor) (n : Node) : α × Node :=
  let (a, floor) := f n.floor
  (a, { n with floor })

/-- Writes something down. -/
def record (change : Journal → Journal) (n : Node) : Node :=
  { n with floor := n.floor.record change }

/-- Changes what the node knows of its cluster. -/
def modifyMembership (change : Membership → Membership) (n : Node) : Node :=
  { n with membership := change n.membership }

/-- Starts a job. -/
def start (work : Work) (n : Node) : JobRef × Node :=
  (n.jobs.size, { n with jobs := n.jobs.push { work } })

/-- Starts a job that is waited for when the node stops. -/
def track (work : Work) (n : Node) : Node :=
  let (job, n) := n.start work
  { n with closing := { n.closing with tracked := n.closing.tracked ++ [job] } }

/-- Drops a job, unless it has come to an end. -/
def drop (r : JobRef) (n : Node) : Node :=
  { n with jobs := n.jobs.modify r fun j =>
      if j.phase.hasEnded then j else { j with phase := .dropped } }

/-- Whether a job has come to an end. -/
def hasEnded (n : Node) (r : JobRef) : Bool := (n.jobs.getD r default).phase.hasEnded

/-- A session. -/
def session (n : Node) (r : SessionRef) : Session := n.floor.session r

/-- Whether the node's place in the cluster is to be kept up: it has one and is not leaving. -/
def inCluster (n : Node) : Bool := n.clustered && !n.membership.destroyed

/-- Tells the observers. -/
def emit (e : ClusterEvent) (n : Node) : Node :=
  n.modifyMembership fun m => { m with events := m.events ++ [e] }

end Node

/-! ## What a node's programs ask -/

/-- A question about the cluster: a call to the shared store, or a number of jobs on routes that
are done side by side. -/
inductive ClusterAsk where
  | store (call : StoreCall)
  | together (work : List RouteWork)
  deriving Repr

/-- A store call is answered by its outcome within the time allowed for one; the jobs by how many
of them came to a good end. -/
def ClusterAsk.Answer : ClusterAsk → Type
  | .store call => call.Answer
  | .together _ => Nat

/-- A program of the cluster's side. -/
abbrev ClusterProgram (α : Type) := Program Node ClusterAsk ClusterAsk.Answer α

end SessionHub
