import SessionHub.Session
import SessionHub.Socket.Frame

/-!
# Sockets

A socket is a connection with two ends. What an end writes waits until the other end reads it, also
when the writer has gone by then; to write to an end that has gone fails.

Each end answers a ping with a pong and a closing frame with another, and after a closing frame it
has nothing more to say. The answers are written when the end goes on reading. So an end that reads
a ping whose sender has gone finds the connection broken at the next frame, whatever waits behind.
-/

namespace SessionHub

/-- One connection. -/
structure Socket where
  /-- The node that serves it. -/
  seat : Nat
  path : String
  handshake : Handshake
  /-- What the client has written and the server has not read. -/
  inbound : List Frame := []
  /-- What the server has written and the client has not read. -/
  outbound : List Frame := []
  /-- Whether the client's end has gone. -/
  clientGone : Bool := false
  /-- Whether the server's end has gone. -/
  serverGone : Bool := false
  /-- The closing frame that the server has read and not answered. -/
  unanswered : Option (Option Closure) := none
  /-- Whether the server has read or written a closing frame. -/
  serverClosing : Bool := false
  /-- Whether an answer of the server could not be written. -/
  serverBroken : Bool := false
  /-- Whether the client has read or written a closing frame. -/
  clientClosing : Bool := false
  /-- Whether the client has seen the end of the connection. -/
  atEnd : Bool := false
  /-- The session, from when the connection is admitted. -/
  session : Option Nat := none
  /-- The job that writes for the server. -/
  writer : Option Nat := none
  /-- When the server sends its next ping. -/
  nextPing : Nat := 0
  deriving Repr, Inhabited

namespace Socket

/-! ## The server's end -/

/-- What the server reads: a frame, or that the connection is at fault, or that it is over in good
order. -/
inductive Incoming where
  | frame (f : Frame)
  | fault (reason : String)
  | ended
  deriving Repr, DecidableEq, Inhabited

/-- Whether there is something to read for the server. -/
def hasInput (s : Socket) : Bool := !s.inbound.isEmpty || s.clientGone || s.serverBroken

/-- What a frame is for the server, which accepts messages up to a size. -/
def Incoming.ofFrame (limit : Nat) (f : Frame) : Incoming :=
  if f.isControl && f.size > Frame.controlLimit then
    .fault "WebSocket protocol error: Control frame too big (payload must be 125 bytes or less)"
  else if !f.isControl && f.size > limit then
    .fault s!"Space limit exceeded: Message too long: {f.size} > {limit}"
  else .frame f

/-- The server answers a ping, if it has not closed; the answer may fail. -/
def answerPing (octets : List UInt8) (s : Socket) : Socket :=
  if s.serverClosing then s
  else if s.clientGone then { s with serverBroken := true }
  else { s with outbound := s.outbound ++ [.pong octets] }

/-- The server takes notice of a frame. -/
def notice (f : Frame) (s : Socket) : Socket :=
  match f with
  | .ping octets => s.answerPing octets
  | .close why => { s with serverClosing := true, unanswered := some why }
  | _ => s

/-- The server reads the next frame, or finds the end of the connection, which is in good order once a
closing frame has been read. -/
def read (limit : Nat) (s : Socket) : Incoming × Socket :=
  if s.serverBroken then (.fault "IO error: broken pipe", s)
  else
    match s.inbound with
    | [] =>
      (if s.unanswered.isSome then .ended
        else .fault "WebSocket protocol error: Connection reset without closing handshake", s)
    | f :: rest =>
      let s := { s with inbound := rest }
      match Incoming.ofFrame limit f with
      | .frame f => (.frame f, s.notice f)
      | other => (other, s)

/-- The server closes: it answers the client's closing frame, or writes one of its own. -/
def closeServer (why : Option Closure) (s : Socket) : Socket :=
  let last : Option (Option Closure) := match s.unanswered with
    | some theirs => some (Closure.reply theirs)
    | none => if s.serverClosing then none else some why
  let s := { s with serverClosing := true, unanswered := none }
  match last with
  | some c => if s.clientGone then s else { s with outbound := s.outbound ++ [.close c] }
  | none => s

/-- The server writes a frame; with a closing frame it closes. Says whether it could. -/
def write (f : Frame) (s : Socket) : Bool × Socket :=
  let isOpen := !s.serverClosing && !s.clientGone
  match f with
  | .close why => (isOpen, s.closeServer why)
  | f => if isOpen then (true, { s with outbound := s.outbound ++ [f] }) else (false, s)

/-- The server's end goes. -/
def leaveServer (s : Socket) : Socket := { s with serverGone := true, inbound := [] }

/-! ## The client's end -/

/-- The client writes a frame, if it has not closed. What the server's end can no longer read is
lost. -/
def sendFrame (f : Frame) (s : Socket) : Socket :=
  if s.clientClosing || s.atEnd then s
  else
    let closing := match f with
      | .close _ => true
      | _ => false
    let inbound := if s.serverGone then [] else s.inbound ++ [f]
    { s with inbound, clientClosing := closing }

/-- The client reads what has arrived, up to the end of the connection if that is there. -/
def receiveFrom (arrived : List Frame) (s : Socket) : List Frame × Socket :=
  match arrived with
  | [] => ([], { s with outbound := [], atEnd := s.serverGone })
  | .close why :: _ =>
    ([.close why], { s with outbound := [], clientClosing := true, atEnd := true })
  | .ping octets :: rest =>
    if s.clientClosing then
      let (later, s) := s.receiveFrom rest
      (.ping octets :: later, s)
    else if s.serverGone then ([.ping octets], { s with outbound := [], atEnd := true })
    else
      let answered : Socket := { s with inbound := s.inbound ++ [.pong octets] }
      let (later, s) := answered.receiveFrom rest
      (.ping octets :: later, s)
  | f :: rest =>
    let (later, s) := s.receiveFrom rest
    (f :: later, s)

/-- The client reads what has arrived. -/
def receiveFrames (s : Socket) : List Frame × Socket :=
  if s.atEnd then ([], s) else s.receiveFrom s.outbound

/-- The client's end goes without a word. -/
def leaveClient (s : Socket) : Socket := { s with clientGone := true, outbound := [] }

end Socket

end SessionHub
