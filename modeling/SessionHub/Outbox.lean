import SessionHub.Fault

/-!
# The way out to one client

Frames for a client are queued and written by somebody else, so that a slow client holds up nobody.
The queue is bounded, and a frame that finds it full is refused. Either end may be gone: the outbox
is closed from this side once and for all, and the receiving side may vanish, which is noticed at
the next frame and closes the outbox as well.
-/

namespace SessionHub

/-- The sending and the receiving half of one client's connection. -/
structure Outbox where
  /-- Frames that fit into the queue; at least one. -/
  capacity : Nat
  /-- Frames that wait, the oldest first. -/
  queue : List String := []
  /-- Whether the connection is closed. -/
  closed : Bool := false
  /-- Whether the receiving half is still there. -/
  received : Bool := true
  /-- Frames refused for a full queue or a receiving half that is gone. -/
  refused : Nat := 0
  deriving Repr, DecidableEq, Inhabited

namespace Outbox

/-- An outbox with room for `n` frames, and for one in any case. -/
def ofCapacity (n : Nat) : Outbox := { capacity := max n 1 }

/-- Whether frames can still be sent. -/
def isActive (o : Outbox) : Bool := !o.closed && o.received

/-- Queues a frame, or says why not. A closed outbox refuses without counting. -/
def send (text : String) (o : Outbox) : Except TransportFault Unit × Outbox :=
  if o.closed then (.error .closed, o)
  else if !o.received then (.error .closed, { o with closed := true, refused := o.refused + 1 })
  else if o.queue.length ≥ o.capacity then (.error .queueFull, { o with refused := o.refused + 1 })
  else (.ok (), { o with queue := o.queue ++ [text] })

/-- Closes the connection; what is queued stays. -/
def close (o : Outbox) : Outbox := { o with closed := true }

/-- What the receiving half gets next: a frame as long as there is one, then the end if the
connection is closed, else nothing yet. -/
inductive Next where
  | frame (text : String)
  | ended
  | pending
  deriving Repr, DecidableEq

/-- Takes the next frame. -/
def receive (o : Outbox) : Next × Outbox :=
  match o.queue with
  | text :: rest => (.frame text, { o with queue := rest })
  | [] => (if o.closed then .ended else .pending, o)

/-- The receiving half goes, and what was queued with it. -/
def abandon (o : Outbox) : Outbox := { o with received := false, queue := [] }

end Outbox

end SessionHub
