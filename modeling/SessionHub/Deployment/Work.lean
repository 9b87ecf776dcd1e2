import SessionHub.Deployment.Connection

/-!
# What jobs do

Most jobs have one round; those that go on as long as their node does have many.
-/

namespace SessionHub

namespace Work

/-- A round of the forwarder of a subscription: it waits until it can go on, and does. -/
def forwardRound (store : Nat) (sub : SubRef) : Task Round := do
  let mine (w : World) : Subscription := (w.store store).subscription sub
  Task.await { ready := fun w => !(mine w).wanted || (w.store store).canForward (mine w) }
  Program.update fun w =>
    if !(mine w).wanted then (.finished .null, w)
    else
      let (s, journal) := (w.store store).forward sub w.journal
      (.again, { w.modifyStore store (fun _ => s) with journal })

/-- Whether a message waits in a subscription. -/
def hasMail (store : Nat) (sub : SubRef) (w : World) : Bool :=
  !((w.store store).subscription sub).queue.isEmpty

/-- Whether nothing comes through a subscription any more. -/
def hasClosed (store : Nat) (sub : SubRef) (w : World) : Bool :=
  !((w.store store).subscription sub).wanted

/-- A round of the listener of a node: one message, of a broadcast if there is one. It ends when the
node leaves its cluster, or when one of the subscriptions has come to an end by itself. -/
def listenRound (seat : Nat) (broadcasts control : SubRef) : Task Round := do
  let store ← Program.view fun w : World => (w.seat seat).store
  let leaving (w : World) : Bool := (w.seat seat).node.membership.destroyed
  let closed (w : World) : Bool := hasClosed store broadcasts w || hasClosed store control w
  let mail (w : World) : Bool := hasMail store broadcasts w || hasMail store control w
  Task.await { ready := fun w => leaving w || mail w || closed w }
  Program.update fun w =>
    if leaving w then (.finished .null, w)
    else
      match (w.store store).receive broadcasts with
      | (some m, s) =>
        (.again, (w.modifyStore store fun _ => s).modifyNode seat (Node.hearBroadcast m))
      | (none, _) =>
        match (w.store store).receive control with
        | (some m, s) =>
          (.again, (w.modifyStore store fun _ => s).modifyNode seat (Node.hearControl m))
        | (none, _) =>
          if closed w then (.finished .null, w.modifyNode seat Node.subscriptionEnded)
          else (.again, w)

/-- How late a tick may come and still count as being on time. -/
def tickTolerance : Nat := 5

/-- When the next tick is due after one that was due then and comes now: an interval after it was
due, or after it came if it was late. -/
def nextDue (due now interval : Nat) : Nat :=
  if now > due + tickTolerance then now + interval else due + interval

/-- A round of the liveness job of a node: it waits for the next tick or for the node's end. -/
def livenessRound (seat : Nat) (self : JobRef) : Task Round := do
  let n ← Program.view (World.node seat)
  if n.config.heartbeatInterval = 0 then return .panicked
  let closing (w : World) : Bool := (w.seat seat).node.closing.begun
  Task.await { ready := closing, deadline := some n.nextTick }
  let n ← Program.view (World.node seat)
  if n.closing.begun then return .finished .null
  Program.modify (World.modifyNode seat fun n =>
    { n with nextTick := nextDue n.nextTick n.floor.now n.config.heartbeatInterval })
  Task.onHub seat self Node.livenessRound
  return .again

/-- Ends a subscription. -/
def unsubscribeRound (seat : Nat) (sub : SubRef) : Task Round := do
  Program.modify fun w => w.modifyStore (w.seat seat).store (Store.unsubscribe sub)
  return .finished .null

/-- Shuts a node down when its time has come. -/
def stopRound (seat : Nat) (self : JobRef) (ms : Nat) : Task Round := do
  Task.sleep ms
  Task.onHub seat self Node.shutdown
  return .finished .null

/-- A line about a chore in the diary. -/
def choreDone (seat : Nat) (kind : String) : Task Round := do
  Program.modify (World.modifyNode seat (Node.record (·.write s!"task {kind} done")))
  return .finished .null

/-- A chore, in one round. -/
def choreRound (seat : Nat) : Chore → Task Round
  | .untilStop ms => do
    Task.await { ready := fun w => (w.seat seat).node.closing.begun }
    Task.sleep ms
    choreDone seat "token"
  | .regardless ms => do
    Task.sleep ms
    choreDone seat "sleep"
  | .panics => return .panicked

/-- A round of a job. -/
def round (self : JobRef) : Work → Task Round
  | .listen node broadcasts control => listenRound node broadcasts control
  | .refreshRoutes node => do
    discard (Task.onCluster node self Node.refreshRoutes)
    return .finished .null
  | .route node work => do
    let done ← Task.onCluster node self (Node.routeProgram work)
    return .finished (.bool done)
  | .liveness node => livenessRound node self
  | .forward store sub => forwardRound store sub
  | .unsubscribe node sub => unsubscribeRound node sub
  | .stopAfter node ms => stopRound node self ms
  | .chore node c => choreRound node c
  | .connection socket => Connection.reading socket self
  | .writer socket => Connection.writing socket
  | .errand => return .finished .null

end Work

end SessionHub
