import SessionHub.Connection.Reader
import SessionHub.Connection.Writer
import SessionHub.Deployment.Task

/-!
# Serving a socket

Two jobs serve a socket, the reader and the writer. Each of them ends the other: by closing the session.
Here their programs become tasks, and what they ask is answered.
-/

namespace SessionHub.Connection

/-- Whether the session of a socket is closed. -/
def isClosed (r : SessionRef) (w : World) : Bool := (w.session r).outbox.closed

/-! ## The writer -/

/-- The line of a session and its socket. -/
def line (socket : Nat) (r : SessionRef) (w : World) : Line :=
  { outbox := (w.session r).outbox, now := w.now, nextPing := (w.socket socket).nextPing }

/-- Puts a line back. -/
def setLine (socket : Nat) (r : SessionRef) (l : Line) (w : World) : World :=
  (w.modifySession r fun s => { s with outbox := l.outbox }).modifySocket socket
    fun s => { s with nextPing := l.nextPing }

/-- The answers for the writer. -/
def answerWriter (socket : Nat) (r : SessionRef) : (q : WriterAsk) → Task q.Answer
  | .wake => do
    let l ← Program.view (line socket r)
    Task.await
      { ready := fun w => isClosed r w || !(w.session r).outbox.queue.isEmpty
        deadline := some l.nextPing }
  | .write f => Program.update (World.onSocket socket (Socket.write f))

/-- A round of the job that writes a socket. -/
def writing (socket : Nat) : Task Round := do
  let w ← Program.get
  let s := w.socket socket
  match s.session with
  | none => return .finished .null
  | some r =>
    (writerRound (w.seat s.seat).node.config.heartbeatInterval).embed (line socket r) (setLine socket r)
      (answerWriter socket r)

/-! ## The reader -/

/-- The answers for the reader, which runs as the job `self`. -/
def answerReader (socket seat : Nat) (self : JobRef) : (q : ReaderAsk) → Task q.Answer
  | .hub ask => Task.answerHub seat self ask
  | .next r => do
    Task.await { ready := fun w => isClosed r w || (w.socket socket).hasInput }
    let w ← Program.get
    if isClosed r w then return none
    let limit := (w.seat seat).node.config.maxMessageSize
    return some (← Program.update (World.onSocket socket (Socket.read limit)))
  | .writerOver => do
    let s ← Program.view fun w : World => w.socket socket
    Task.await { ready := fun w => s.writer.all w.hasEnded }

/-- The connection is refused: the socket is closed with the reason. -/
def refuse (socket : Nat) (refusal : Refusal) : Task Round := do
  Program.modify fun w =>
    let fields := [("path", (w.socket socket).path), ("error", refusal.message)]
    let w := w.modifySocket socket fun s => (s.closeServer (some (.policy refusal.message))).leaveServer
    { w with journal := w.journal.warn "connection refused after upgrade" fields }
  return .finished .null

/-- The connection is admitted: the writer starts. -/
def startWriter (socket : Nat) (r : SessionRef) : Task Round := do
  Program.modify fun w =>
    let interval := (w.seat (w.socket socket).seat).node.config.heartbeatInterval
    let (job, w) := w.startJob (.writer socket) none
    w.modifySocket socket fun s =>
      { s with session := some r, writer := some job, nextPing := w.now + interval }
  return .again

/-- A round of the job that reads a socket: it has the connection admitted, or it reads. With it the
server's end of the socket goes. -/
def reading (socket : Nat) (self : JobRef) : Task Round := do
  let w ← Program.get
  let s := w.socket socket
  let asTask {α : Type} (p : ReaderProgram α) : Task α :=
    Task.onNode s.seat (answerReader socket s.seat self) p
  match s.session with
  | none =>
    match ← asTask (admission s.path s.handshake) with
    | .error refusal => refuse socket refusal
    | .ok r => startWriter socket r
  | some r =>
    match ← asTask (readerRound r) with
    | .again => return .again
    | verdict =>
      Program.modify (World.modifySocket socket Socket.leaveServer)
      return verdict

end SessionHub.Connection
