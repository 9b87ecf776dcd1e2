import SessionHub.Handler.Script

/-!
# Dispatch

Every callback of a handler runs within a time limit and may panic without harm: it can fail its own
call and nothing else. A callback that failed, panicked or ran out of time is reported to the same
handler's error callback, once; what goes wrong there goes no further than the log.
-/

namespace SessionHub

/-- How a callback came to its end: by itself, or by the time limit. -/
inductive Ending where
  | ended (verdict : Verdict)
  | expired
  deriving Repr, DecidableEq, Inhabited

/-- What the hub of a node asks: about the cluster, to run a callback within a time limit, or to
wait for jobs within one. -/
inductive HubAsk where
  | cluster (ask : ClusterAsk)
  | callback (handler : Handler) (limit : Nat) (session : SessionRef) (occasion : Occasion)
  | jobs (limit : Nat) (all : List JobRef)
  deriving Repr

/-- A callback is answered by how it ended; jobs by whether all of them ended in time. -/
def HubAsk.Answer : HubAsk → Type
  | .cluster ask => ask.Answer
  | .callback .. => Ending
  | .jobs .. => Bool

/-- A program of a node's hub. -/
abbrev HubProgram (α : Type) := Program Node HubAsk HubAsk.Answer α

/-- The outcome of a dispatch. -/
abbrev Dispatched := Except HandlerFault Unit

/-- The outcome of a callback, as a dispatch. The error callback has no failure to report. -/
def Ending.dispatched (limit : Nat) (event : Event) : Ending → Dispatched
  | .ended .fine => .ok ()
  | .ended (.failed reason) => if event = .error then .ok () else .error (.failed reason)
  | .ended (.panicked reason) => .error (.panicked reason)
  | .expired => .error (.timedOut (.ofMillis limit))

namespace Node

/-- A program of the cluster's side, inside the hub. -/
def asHub {α : Type} (p : ClusterProgram α) : HubProgram α :=
  p.among HubAsk.cluster fun _ answer => answer

/-- Runs a callback within the limit and counts it. -/
def runCallback (h : Handler) (limit : Nat) (r : SessionRef) (occasion : Occasion) :
    HubProgram Dispatched :=
  .call (.callback h limit r occasion) fun ending =>
    let outcome := Ending.dispatched limit occasion.event ending
    .look fun n => .put
      (n.record fun j =>
        let j := j.count (.handlerCalls occasion.event)
        match outcome with
        | .ok () => j
        | .error fault => j.count (.handlerErrors occasion.event fault.kind))
      (.done outcome)

/-- Tells a handler that something went wrong. What its script says there does not matter: the
callback can only panic or run out of time. -/
def tellError (h : Handler) (limit : Nat) (r : SessionRef) (fault : SessionFault) :
    HubProgram Unit := do
  let s ← Program.view (·.session r)
  match ← runCallback h limit r (.error fault) with
  | .ok () => return ()
  | .error fault =>
    Program.modify (record (·.complain "on_error handler failed"
      [("session_id", s.id.text), ("path", s.path), ("error", fault.message)]))

/-- The handler of a session's path; that there is none is logged. -/
def handlerFor (handlers : Handlers) (r : SessionRef) : HubProgram (Option Handler) := do
  let s ← Program.view (·.session r)
  match handlers.handler? s.path with
  | some h => return some h
  | none =>
    Program.modify (record (·.warn "no handler for path"
      [("session_id", s.id.text), ("path", s.path)]))
    return none

/-- Dispatches an occasion to the handler of the session's path, and reports a failure to it. -/
def dispatch (handlers : Handlers) (limit : Nat) (r : SessionRef) (occasion : Occasion) :
    HubProgram Dispatched := do
  match ← handlerFor handlers r with
  | none => return .error (.failed "no handler for path")
  | some h =>
    match ← runCallback h limit r occasion with
    | .ok () => return .ok ()
    | .error fault =>
      Program.modify fun n =>
        let s := n.session r
        n.record (·.warn "handler failed"
          [("session_id", s.id.text), ("path", s.path), ("event", occasion.event.text),
           ("error", fault.message)])
      tellError h limit r (.handler fault)
      return .error fault

/-- Tells the handler of a session's path about a fault from outside. -/
def dispatchError (handlers : Handlers) (limit : Nat) (r : SessionRef) (fault : SessionFault) :
    HubProgram Unit := do
  match ← handlerFor handlers r with
  | none => return ()
  | some h => tellError h limit r fault

end Node

end SessionHub
