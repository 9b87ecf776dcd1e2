import SessionHub.Json.Record
import SessionHub.Names

/-!
# What nodes say to each other

Three records travel through the shared store as JSON texts: the envelope of a broadcast, a node's
liveness record, and the announcement that a node leaves. Each has a schema, a row of cells and
back, so that reading and writing are those of all records. Times are milliseconds of the wall
clock, for they are compared between processes.

The fourth record, an event of the cluster, is only written.
-/

namespace SessionHub

open Json (Cell Column Schema Failure)

/-! ## Envelopes -/

/-- One broadcast on its way to the other nodes. -/
structure Envelope where
  path : String
  payload : String
  source : NodeId
  timestamp : Int
  deriving Repr, DecidableEq, Inhabited

namespace Envelope

def schema : Schema where
  title := "struct BroadcastEnvelope"
  columns := [("path", .text), ("payload", .text), ("sourceNodeId", .text), ("timestamp", .integer)]

def row (e : Envelope) : List Cell :=
  [.text e.path, .text e.payload, .text e.source.text, .integer e.timestamp]

/-- The envelope of a row, which has the types of the columns. -/
def ofRow : List Cell → Envelope
  | [.text path, .text payload, .text source, .integer timestamp] =>
    { path, payload, source := ⟨source⟩, timestamp }
  | _ => default

def toJson (e : Envelope) : Json := schema.toJson e.row

def encode (e : Envelope) : String := e.toJson.text

def decode (text : String) : Except Failure Envelope := (schema.read text).map ofRow

end Envelope

/-! ## Liveness records -/

/-- The record by which a node shows that it lives. -/
structure Beacon where
  node : NodeId
  lastBeat : Int
  startedAt : Int
  deriving Repr, DecidableEq, Inhabited

namespace Beacon

def schema : Schema where
  title := "struct NodeRecord"
  columns := [("nodeId", .text), ("lastHeartbeatAt", .integer), ("startedAt", .integer)]

def row (b : Beacon) : List Cell := [.text b.node.text, .integer b.lastBeat, .integer b.startedAt]

/-- The record of a row, which has the types of the columns. -/
def ofRow : List Cell → Beacon
  | [.text node, .integer lastBeat, .integer startedAt] => { node := ⟨node⟩, lastBeat, startedAt }
  | _ => default

def toJson (b : Beacon) : Json := schema.toJson b.row

def encode (b : Beacon) : String := b.toJson.text

def decode (text : String) : Except Failure Beacon := (schema.read text).map ofRow

/-- Milliseconds since the last beat; a beat in the future has no age. The difference of two times
is bounded by what 64 bits hold. -/
def ageAt (b : Beacon) (now : Int) : Nat := (min (now - b.lastBeat) ((twoTo 63 : Int) - 1)).toNat

/-- Whether the last beat lies further back than `ttl`. -/
def isExpiredAt (b : Beacon) (now : Int) (ttl : Nat) : Bool := b.ageAt now > ttl

end Beacon

/-! ## Announcements -/

/-- A notice on the control channel. -/
inductive Announcement where
  | leave (node : NodeId)
  deriving Repr, DecidableEq, Inhabited

namespace Announcement

/-- The name that says which announcement it is, and its one value. -/
def tag : String := "type"
def leaveTag : String := "leave"

def leaveSchema : Schema where
  title := "struct variant ControlMessage::Leave"
  columns := [("nodeId", .text)]

def toJson : Announcement → Json
  | .leave node => .obj [(tag, .str leaveTag), ("nodeId", .str node.text)]

def encode (a : Announcement) : String := a.toJson.text

/-- The announcement of a row, which has the types of the columns. -/
def ofRow : List Cell → Announcement
  | [.text node] => .leave ⟨node⟩
  | _ => default

def decode (text : String) : Except Failure Announcement :=
  match Json.readTagged tag leaveTag "internally tagged enum ControlMessage" text.toList with
  | .error f => .error f
  | .ok (content, rest) =>
    match leaveSchema.ofUntagged content with
    | .error f => .error f
    | .ok row => (Json.readEnd rest).map fun _ => ofRow row

end Announcement

/-! ## Events -/

/-- What a node's observers are told about the cluster. -/
inductive ClusterEvent where
  | joined (node : NodeId)
  | timedOut (node : NodeId)
  | left (node : NodeId)
  | degraded (reason : String)
  | recovered
  deriving Repr, DecidableEq, Inhabited

def ClusterEvent.toJson : ClusterEvent → Json
  | .joined node => .obj [("type", .str "NODE_JOINED"), ("node_id", .str node.text)]
  | .timedOut node => .obj [("type", .str "NODE_TIMEOUT"), ("node_id", .str node.text)]
  | .left node => .obj [("type", .str "NODE_LEFT"), ("node_id", .str node.text)]
  | .degraded reason => .obj [("type", .str "STORE_DEGRADED"), ("reason", .str reason)]
  | .recovered => .obj [("type", .str "STORE_RECOVERED")]

end SessionHub
