import SessionHub.Deployment.Round
import SessionHub.Outbox
import SessionHub.Program
import SessionHub.Socket.Frame

/-!
# Writing to a client

The **writer** of a connection takes what is queued for the session and writes it, one frame after
another. When nothing is queued it writes a ping from time to time; when the session is closed and
nothing is queued any more, or a frame could not be written, it closes the session and the socket.

What it works on is a **line**: the session's outbox, and the time. It waits at two points: until there
is something to do, and while a frame is being written. Others may send to the session and close it at
either.
-/

namespace SessionHub.Connection

/-- What the writer works on. -/
structure Line where
  /-- The way out to the client, with what is queued. -/
  outbox : Outbox
  now : Nat := 0
  /-- When the next ping is due. -/
  nextPing : Nat := 0
  deriving Repr, DecidableEq, Inhabited

/-- Whether there is something for the writer to do. -/
def Line.isDue (l : Line) : Bool := l.outbox.closed || !l.outbox.queue.isEmpty || l.nextPing ≤ l.now

/-- Changes the outbox. -/
def Line.modifyOutbox (change : Outbox → Outbox) (l : Line) : Line :=
  { l with outbox := change l.outbox }

/-- Takes the next frame that is queued. -/
def Line.receive (l : Line) : Outbox.Next × Line :=
  let (next, outbox) := l.outbox.receive
  (next, { l with outbox })

/-- What the writer asks: to go on when there is something to do, and to write a frame. -/
inductive WriterAsk where
  | wake
  | write (f : Frame)
  deriving Repr, DecidableEq

/-- A frame is answered by whether it could be written. -/
def WriterAsk.Answer : WriterAsk → Type
  | .wake => Unit
  | .write _ => Bool

/-- A program of the writer. -/
abbrev WriterProgram (α : Type) := Program Line WriterAsk WriterAsk.Answer α

/-- Waits until there is something to do. -/
def wake : WriterProgram Unit := .call .wake .done

/-- Writes a frame. Says whether that could be done. -/
def write (f : Frame) : WriterProgram Bool := .call (.write f) .done

/-- The end of the writer: the session is closed, then the socket, and with the writer the receiving
half of the outbox goes. -/
def endWriter : WriterProgram Round := do
  Program.modify (Line.modifyOutbox Outbox.close)
  discard (write (.close (some .normal)))
  Program.modify (Line.modifyOutbox Outbox.abandon)
  return .finished .null

/-- Writes a frame of the session. It is the end if that fails. -/
def writeFrame (f : Frame) : WriterProgram Round := do
  if ← write f then return .again else endWriter

/-- What the writer does when there is something to do: a frame that is queued comes before the end,
and the end before a ping. -/
def goOn (interval : Nat) : WriterProgram Round := do
  match ← Program.update Line.receive with
  | .frame text => writeFrame (.text text)
  | .ended => endWriter
  | .pending =>
    Program.modify fun l => { l with nextPing := l.nextPing + interval }
    writeFrame (.ping [])

/-- A round of the writer, which pings at an interval. There is no ping without an interval: the writer
panics, and the receiving half of the outbox goes with it. -/
def writerRound (interval : Nat) : WriterProgram Round := do
  if interval = 0 then
    Program.modify (Line.modifyOutbox Outbox.abandon)
    return .panicked
  wake
  goOn interval

end SessionHub.Connection
