import SessionHub.Deployment.Round
import SessionHub.Node.Hub
import SessionHub.Socket.Basic

/-!
# Reading from a client

The **reader** of a connection has it admitted, hands every message to the session's handler, one
after the other, and tears the session down when the connection ends or the session is closed. A
binary message that is text is a message like any other; one that is not is a fault that the handler is
told of. Frames that only control the connection mean nothing to the session.
-/

namespace SessionHub.Connection

/-- What the reader asks: what the programs of a hub ask; what comes next on the socket, unless a session
is closed; and to go on when the writer is over. -/
inductive ReaderAsk where
  | hub (ask : HubAsk)
  | next (session : SessionRef)
  | writerOver
  deriving Repr

/-- There is nothing next on a socket whose session is closed. -/
def ReaderAsk.Answer : ReaderAsk → Type
  | .hub ask => ask.Answer
  | .next _ => Option Socket.Incoming
  | .writerOver => Unit

/-- A program of the reader. -/
abbrev ReaderProgram (α : Type) := Program Node ReaderAsk ReaderAsk.Answer α

/-- A program of the hub, inside the reader. -/
def onHub {α : Type} (p : HubProgram α) : ReaderProgram α :=
  p.among ReaderAsk.hub fun _ answer => answer

/-- What comes next on the socket, unless the session is closed. -/
def next (r : SessionRef) : ReaderProgram (Option Socket.Incoming) := .call (.next r) .done

/-- Waits for the end of the writer. -/
def joinWriter : ReaderProgram Unit := .call .writerOver .done

/-- The reader has the connection admitted. -/
def admission (path : String) (handshake : Handshake) : ReaderProgram (Except Refusal SessionRef) := do
  let n ← Program.get
  onHub (Node.accept path handshake (.ofCapacity n.config.sendQueueCapacity))

/-- The end of the reader: it closes the session, waits for the writer and tears the session
down. -/
def endReader (r : SessionRef) : ReaderProgram Round := do
  Program.modify fun n => { n with floor := n.floor.close r }
  joinWriter
  onHub (Node.disconnect r)
  return .finished .null

/-- What the reader does about what it has read. -/
def handle (r : SessionRef) : Socket.Incoming → ReaderProgram Round
  | .frame (.text text) => do
    onHub (Node.message r text)
    return .again
  | .frame (.binary octets) => do
    match Text.utf8? octets with
    | some text => onHub (Node.message r text)
    | none => onHub (Node.fault r (.protocol "binary frame is not UTF-8"))
    return .again
  | .frame (.ping _) | .frame (.pong _) => return .again
  | .frame (.close _) | .ended => endReader r
  | .fault reason => do
    onHub (Node.fault r (.protocol reason))
    endReader r

/-- A round of the reader: it reads a frame, or hears that the session is closed. -/
def readerRound (r : SessionRef) : ReaderProgram Round := do
  match ← next r with
  | some incoming => handle r incoming
  | none => endReader r

end SessionHub.Connection
