import SessionHub.Backoff
import SessionHub.Journal.Basic
import SessionHub.Store.Memory

/-!
# Following a remote store's channels

A subscription to a remote store has a connection of its own. What arrives on it is handed on one
after the other, as long as the receiver's queue has room; a payload that is no text is skipped. A
connection that is lost is made again, after a delay that grows with every failure, as often as it
takes. Only the receiver ends the subscription, by going.
-/

namespace SessionHub.Remote

/-- A message as it arrives. -/
structure Arrival where
  channel : String
  octets : List UInt8
  deriving Repr, DecidableEq, Inhabited

/-- The message that an arrival carries, unless its payload is no text. -/
def Arrival.message? (a : Arrival) : Option Message :=
  (Text.utf8? a.octets).map fun payload => { channel := a.channel, payload }

/-- How a subscription stands to the server. -/
inductive Link where
  /-- It has a connection. -/
  | live
  /-- It will try to make one. -/
  | waiting
  /-- Nobody wants it any more. -/
  | closed
  deriving Repr, DecidableEq, Inhabited

/-- A subscription. -/
structure Follower where
  pattern : String
  link : Link := .live
  /-- What has arrived on the connection and was not handed on yet. -/
  arrived : List Arrival := []
  /-- Whether the connection has ended behind what has arrived. -/
  lost : Bool := false
  /-- What the receiver has not taken yet. -/
  queue : List Message := []
  /-- Whether the receiver is there. -/
  wanted : Bool := true
  backoff : Backoff := .standard
  deriving Repr, Inhabited

namespace Follower

/-- The delay before the next attempt, and the schedule behind it. -/
def delay (jitter : Float) (f : Follower) : Span × Follower :=
  match f.backoff.next jitter with
  | some (d, backoff) => (d, { f with backoff })
  | none => (f.backoff.current, f)

/-- The receiver has gone: the subscription is over as soon as that is noticed. -/
def leave (f : Follower) : Follower := { f with wanted := false, queue := [] }

/-- The receiver takes the next message. -/
def take (f : Follower) : Option Message × Follower :=
  match f.queue with
  | [] => (none, f)
  | m :: rest => (some m, { f with queue := rest })

/-- A message arrives on the connection. -/
def arrive (a : Arrival) (f : Follower) : Follower :=
  if f.link = .live && !f.lost then { f with arrived := f.arrived ++ [a] } else f

/-- The connection ends. -/
def lose (f : Follower) : Follower := if f.link = .live then { f with lost := true } else f

/-- Whether the subscription can go on by itself: nobody listens, or there is something to hand on, and
room for it, or to skip, or the connection has ended. -/
def canStep (f : Follower) : Bool :=
  match f.link with
  | .closed => false
  | .waiting => !f.wanted
  | .live => !f.wanted || (match f.arrived with
    | [] => f.lost
    | a :: _ => a.message?.isNone || f.queue.length < queueCapacity)

/-- There is no connection: there will be another attempt. -/
def retry (jitter : Float) (complaint : String) (fault : StoreFault) (f : Follower) (j : Journal) :
    Follower × Journal :=
  let (d, f) := f.delay jitter
  ({ f with link := .waiting, arrived := [], lost := false },
    j.warn complaint [("pattern", f.pattern), ("error", fault.message), ("retry_in", d.text)])

/-- One step of a subscription by itself. -/
def step (jitter : Float) (f : Follower) (j : Journal) : Follower × Journal :=
  if !f.canStep then (f, j)
  else if !f.wanted then ({ f with link := .closed }, j)
  else
    match f.arrived with
    | [] => f.retry jitter "pub/sub connection lost" (.unavailable "pub/sub stream ended") j
    | a :: rest =>
      match a.message? with
      | some m => ({ f with arrived := rest, queue := f.queue ++ [m] }, j)
      | none =>
        ({ f with arrived := rest },
          j.warn "non-text pub/sub payload, skipping" [("channel", a.channel)])

/-- An attempt to connect again is made, and accepted or refused. A connection for which nobody listens
any more is given up with the next step. -/
def attempt (outcome : Except StoreFault Unit) (jitter : Float) (f : Follower) (j : Journal) :
    Follower × Journal :=
  if f.link != .waiting then (f, j)
  else
    match outcome with
    | .ok () => ({ f with link := .live, backoff := f.backoff.restart }, j)
    | .error fault => f.retry jitter "pub/sub reconnect failed" fault j

end Follower

end SessionHub.Remote
