import SessionHub.Deployment.World

/-!
# Tasks

A task is a program over the whole deployment. All that it can ask is to be resumed later: when the
state allows it, or at a given time, whichever comes first. Whatever the programs of nodes ask is
answered by tasks, which is what this module does.

A time limit (`within`) lets the limited task go on first whenever both may: what is ready in time
counts as in time.
-/

namespace SessionHub

/-- What a task waits for. -/
structure Wait where
  /-- Whether the state allows it to go on. -/
  ready : World → Bool := fun _ => false
  /-- When it goes on in any case. -/
  deadline : Option Nat := none
  /-- Whether it goes on before everybody else that may. -/
  urgent : Bool := false

/-- Whether a wait is over. -/
def Wait.isOver (wait : Wait) (w : World) : Bool :=
  wait.ready w || (wait.deadline.any fun t => t ≤ w.now)

/-- A program over the whole deployment. -/
abbrev Task (α : Type) := Program World Wait (fun _ => Unit) α

namespace Task

/-- Waits, unless there is nothing to wait for. -/
def await (wait : Wait) : Task Unit :=
  .look fun w => if wait.isOver w then .done () else .call wait .done

/-- Waits for some milliseconds. -/
def sleep (ms : Nat) : Task Unit := .look fun w => await { deadline := some (w.now + ms) }

/-- The earlier of a deadline and a limit. -/
def earlier (deadline : Option Nat) (limit : Nat) : Option Nat :=
  some (match deadline with | some t => min t limit | none => limit)

/-- A task up to a point in time: none if it is not over by then. -/
def within {α : Type} (limit : Nat) : Task α → Task (Option α)
  | .done a => .done (some a)
  | .look next => .look fun w => within limit (next w)
  | .put w next => .put w (within limit next)
  | .call wait resume =>
    .look fun w =>
      if wait.isOver w then within limit (resume ())
      else if limit ≤ w.now then .done none
      else .call { wait with deadline := earlier wait.deadline limit } fun _ =>
        .look fun w => if wait.isOver w then within limit (resume ()) else .done none

/-- A task within some milliseconds from now. -/
def withinMs {α : Type} (ms : Nat) (t : Task α) : Task (Option α) :=
  .look fun w => within (w.now + ms) t

/-! ## Answers for the programs of nodes -/

/-- A call to a store: it takes effect after the store's latency. A subscription gets a job that
forwards its messages. -/
def callStore (store : Nat) (call : StoreCall) : Task call.Answer := do
  let w ← Program.get
  let latency := (w.store store).latency
  if latency > 0 then sleep latency
  let answer ← Program.update fun w =>
    let (answer, s) := (w.store store).serve w.now call
    (answer, w.modifyStore store fun _ => s)
  match call, answer with
  | .subscribe _, .ok sub => Program.modify fun w => (w.startJob (.forward store sub) none).2
  | _, _ => pure ()
  return answer

/-- How many jobs on routes are done at once. -/
def routeConcurrency : Nat := 16

/-- How many of some jobs have not come to an end. -/
def pending (jobs : List JobRef) (w : World) : Nat := jobs.countP fun j => !w.hasEnded j

/-- Starts jobs on routes, not more than may be done at once, as others of them come to an end. -/
def startRoutes (seat : Nat) (parent : JobRef) : List RouteWork → List JobRef → Task (List JobRef)
  | [], started => return started
  | work :: rest, started => do
    await { ready := fun w => pending started w < routeConcurrency, urgent := true }
    let job ← Program.update (World.startJob (.route seat work) (some parent))
    startRoutes seat parent rest (job :: started)

/-- Whether a job came to a good end. -/
def succeeded (w : World) (j : JobRef) : Bool :=
  match (w.job j).phase with
  | .finished (.bool b) => b
  | _ => false

/-- The answers for a program of the cluster's side, which runs as the job `self`. -/
def answerCluster (seat : Nat) (self : JobRef) : (q : ClusterAsk) → Task q.Answer
  | .store call => do
    let w ← Program.get
    let limit := (w.seat seat).node.membership.opTimeout
    match ← withinMs limit (callStore (w.seat seat).store call) with
    | some answer => return answer
    | none => return .error (.timedOut (.ofMillis limit))
  | .together work => do
    let jobs ← startRoutes seat self work []
    await { ready := fun w => pending jobs w = 0, urgent := true }
    Program.view fun w => jobs.countP (succeeded w)

/-- The answers for a callback. -/
def answerHandler (seat : Nat) (self : JobRef) : (q : HandlerAsk) → Task q.Answer
  | .cluster q => answerCluster seat self q
  | .pause ms => sleep ms

/-- A program of a node as a task. -/
def onNode {Q : Type} {A : Q → Type} {α : Type} (seat : Nat) (answer : (q : Q) → Task (A q)) :
    Program Node Q A α → Task α :=
  Program.embed (World.node seat) (World.setNode seat) answer

/-- A program of the cluster's side as a task. -/
def onCluster {α : Type} (seat : Nat) (self : JobRef) (p : ClusterProgram α) : Task α :=
  onNode seat (answerCluster seat self) p

/-- The answers for a program of a node's hub. -/
def answerHub (seat : Nat) (self : JobRef) : (q : HubAsk) → Task q.Answer
  | .cluster q => answerCluster seat self q
  | .callback handler limit session occasion => do
    let callback := onNode seat (answerHandler seat self) (handler.callback session occasion)
    match ← withinMs limit callback with
    | some verdict => return .ended verdict
    | none => return .expired
  | .jobs limit all => do
    let done (w : World) : Bool := all.all w.hasEnded
    let w ← Program.get
    await { ready := done, deadline := some (w.now + limit) }
    Program.view done

/-- A program of a node's hub as a task. -/
def onHub {α : Type} (seat : Nat) (self : JobRef) (p : HubProgram α) : Task α :=
  onNode seat (answerHub seat self) p

/-- Runs a node until it has been told to stop, after some milliseconds, and has done so. -/
def serve (seat : Nat) (self : JobRef) (ms : Nat) : Task Unit := do
  onHub seat self Node.run
  let stop ← Program.update (World.startJob (.stopAfter seat ms) none)
  await { ready := fun w => w.hasEnded stop }
  onHub seat self Node.shutdown

end Task

end SessionHub
