import SessionHub.Glob
import SessionHub.Journal.Basic
import SessionHub.Store.Call

/-!
# A store in memory

The store that several nodes of one process share. A key holds its last value until the value's
lifetime is over; what is over is never seen again, though it may stay in the table until somebody
looks. The store can be switched off, and then every call fails without effect; and it can be slow,
which delays a call before it takes effect.

## Subscriptions

Every message goes on a **bus**. Each subscription follows the bus by itself: its forwarder takes
message after message, and hands on those whose channel fits the pattern. The bus keeps the last
4096 messages, so a forwarder that falls further behind misses some, which it notes. What is handed
on waits in the subscription's queue of 1024; when that is full the forwarder holds one message and
waits.
-/

namespace SessionHub

/-- A value and the end of its lifetime. -/
structure Entry where
  value : String
  expiresAt : Nat
  deriving Repr, DecidableEq, Inhabited

/-- Whether the lifetime is not over. -/
def Entry.isLive (e : Entry) (now : Nat) : Bool := now < e.expiresAt

/-- How many messages the bus keeps. -/
def busCapacity : Nat := 4096

/-- How many messages wait in a subscription. -/
def queueCapacity : Nat := 1024

/-- One subscription: how far it has followed the bus, what waits, and what its forwarder holds
because the queue is full. -/
structure Subscription where
  pattern : String
  position : Nat
  queue : List Message := []
  held : Option Message := none
  /-- Whether somebody still listens. -/
  wanted : Bool := true
  deriving Repr, DecidableEq, Inhabited

/-- A store in memory. -/
structure Store where
  entries : List (String × Entry) := []
  available : Bool := true
  latency : Nat := 0
  bus : Array Message := #[]
  subscriptions : Array Subscription := #[]
  deriving Repr, Inhabited

/-- Puts a pair in its place among pairs in ascending order of their keys. -/
def insertPair (pair : String × String) : List (String × String) → List (String × String)
  | [] => [pair]
  | other :: rest => if pair.1 ≤ other.1 then pair :: other :: rest else other :: insertPair pair rest

namespace Store

/-! ## Keys and values -/

/-- The live value of a key. -/
def value? (s : Store) (now : Nat) (key : String) : Option String :=
  ((s.entries.lookup key).filter (·.isLive now)).map (·.value)

/-- The number of live keys. -/
def size (s : Store) (now : Nat) : Nat := (s.entries.filter (·.2.isLive now)).length

/-- Without the entry of a key. -/
def erase (key : String) (s : Store) : Store :=
  { s with entries := s.entries.filter (·.1 != key) }

/-- With a value under a key, for a lifetime from now. -/
def insert (now : Nat) (key value : String) (ttl : Nat) (s : Store) : Store :=
  let rest := s.entries.filter (·.1 != key)
  { s with entries := rest ++ [(key, { value, expiresAt := now + ttl })] }

/-- Without the entry of a key if its lifetime is over. -/
def prune (now : Nat) (key : String) (s : Store) : Store :=
  { s with entries := s.entries.filter fun e => !(e.1 == key && !e.2.isLive now) }

/-- Without the entries whose lifetime is over. -/
def pruneAll (now : Nat) (s : Store) : Store :=
  { s with entries := s.entries.filter (·.2.isLive now) }

/-- Whether a text begins with another. -/
def startsWith (text start : String) : Bool := start.toList.isPrefixOf text.toList

/-- The live pairs whose key has a given beginning, in ascending order of the keys. -/
def pairs (s : Store) (now : Nat) (start : String) : List (String × String) :=
  ((s.entries.filter fun e => e.2.isLive now && startsWith e.1 start).map
    fun e => (e.1, e.2.value)).foldr insertPair []

/-! ## Calls -/

/-- Puts a message on the bus. -/
def publish (m : Message) (s : Store) : Store := { s with bus := s.bus.push m }

/-- A new subscription, which follows the bus from here on. -/
def subscribe (pattern : String) (s : Store) : SubRef × Store :=
  (s.subscriptions.size,
    { s with subscriptions := s.subscriptions.push { pattern, position := s.bus.size } })

/-- What a call does, once the store gets to it. -/
def perform (now : Nat) : (call : StoreCall) → Store → call.Reply × Store
  | .set key value ttl, s => ((), s.insert now key value ttl)
  | .get key, s =>
    match s.value? now key with
    | some v => (some v, s)
    | none => (none, s.prune now key)
  | .delete key, s => ((), s.erase key)
  | .scan start, s => (s.pairs now start, s.pruneAll now)
  | .publish channel payload, s => ((), s.publish { channel, payload })
  | .subscribe pattern, s => s.subscribe pattern

/-- Serves a call: what it does if the store is switched on, else a failure without effect. -/
def serve (now : Nat) (call : StoreCall) (s : Store) : call.Answer × Store :=
  if s.available then
    let (reply, s) := s.perform now call
    (.ok reply, s)
  else (.error (.unavailable "memory store disabled"), s)

/-! ## Subscriptions -/

/-- A subscription. -/
def subscription (s : Store) (r : SubRef) : Subscription := s.subscriptions.getD r default

/-- Changes a subscription. -/
def modifySubscription (r : SubRef) (change : Subscription → Subscription) (s : Store) : Store :=
  { s with subscriptions := s.subscriptions.modify r change }

/-- The oldest message that the bus still keeps. -/
def oldest (s : Store) : Nat := s.bus.size - busCapacity

/-- How many messages the bus no longer keeps for a subscription. -/
def missed (s : Store) (sub : Subscription) : Nat := s.oldest - sub.position

/-- Whether a forwarder can go on: it holds a message and there is room again, or it holds none
and the bus has more. -/
def canForward (s : Store) (sub : Subscription) : Bool :=
  sub.wanted && match sub.held with
    | some _ => sub.queue.length < queueCapacity
    | none => sub.position < s.bus.size

/-- One step of a forwarder: it hands on what it holds, or notes what it has missed and goes on
from the oldest message, or takes the next message. The number is what it has newly missed. -/
def forwardStep (s : Store) (sub : Subscription) : Nat × Subscription :=
  match sub.held with
  | some m => (0, { sub with held := none, queue := sub.queue ++ [m] })
  | none =>
    if sub.position < s.oldest then (s.missed sub, { sub with position := s.oldest })
    else
      match s.bus[sub.position]? with
      | none => (0, sub)
      | some m =>
        let sub := { sub with position := sub.position + 1 }
        if !Glob.matches_ sub.pattern m.channel then (0, sub)
        else if sub.queue.length < queueCapacity then (0, { sub with queue := sub.queue ++ [m] })
        else (0, { sub with held := some m })

/-- Steps of a forwarder until it cannot go on, at most `fuel` many; and what it missed, each time
that it did. -/
def forwardAll (s : Store) : (fuel : Nat) → Subscription → List Nat × Subscription
  | 0, sub => ([], sub)
  | fuel + 1, sub =>
    if s.canForward sub then
      let (lost, sub) := s.forwardStep sub
      let (later, sub) := s.forwardAll fuel sub
      ((if lost = 0 then later else lost :: later), sub)
    else ([], sub)

/-- Lets a subscription's forwarder go on as far as it can, and writes down what it missed. -/
def forward (r : SubRef) (s : Store) (j : Journal) : Store × Journal :=
  let sub := s.subscription r
  let (lost, sub) := s.forwardAll (s.bus.size + 2) sub
  let j := lost.foldl (fun (j : Journal) n =>
    j.warn "memory subscription lagged, messages dropped"
      [("pattern", sub.pattern), ("skipped", toString n)]) j
  (s.modifySubscription r fun _ => sub, j)

/-- Takes the next message that waits in a subscription. -/
def receive (r : SubRef) (s : Store) : Option Message × Store :=
  match (s.subscription r).queue with
  | [] => (none, s)
  | m :: rest => (some m, s.modifySubscription r fun sub => { sub with queue := rest })

/-- Takes what waits in a subscription, at most so many messages. -/
def receiveAll (r : SubRef) (most : Nat) (s : Store) : List Message × Store :=
  ((s.subscription r).queue.take most,
    s.modifySubscription r fun sub => { sub with queue := sub.queue.drop most })

/-- Nobody listens any more. -/
def unsubscribe (r : SubRef) (s : Store) : Store :=
  s.modifySubscription r fun sub => { sub with wanted := false, queue := [], held := none }

end Store

end SessionHub
