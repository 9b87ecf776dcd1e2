import SessionHub.Settings.Basic

/-!
# What a hub needs to know

The values that a running hub works with, in milliseconds, bytes and frames. They are projected
from the settings, or given directly.
-/

namespace SessionHub

/-- What the cluster side of a node needs: the names in the store, how long a record counts as
fresh, and how long one store call may take. -/
structure ClusterConfig where
  keyPrefix : String := "switchboard"
  ttl : Nat := 30000
  opTimeout : Nat := 2000
  deriving Repr, DecidableEq, Inhabited

/-- The values for the cluster side as a document. -/
def ClusterConfig.toJson (c : ClusterConfig) : Json :=
  .obj [("keyPrefix", .str c.keyPrefix), ("ttl", .nat c.ttl), ("opTimeout", .nat c.opTimeout)]

/-- What a hub needs. -/
structure Config where
  sessionTimeout : Nat := 30000
  heartbeatInterval : Nat := 10000
  handlerTimeout : Nat := 10000
  storeTimeout : Nat := 2000
  shutdownTimeout : Nat := 5000
  keyPrefix : String := "switchboard"
  sendQueueCapacity : Nat := 256
  maxMessageSize : Nat := 1048576
  deriving Repr, DecidableEq, Inhabited

namespace Config

/-- The values for settings that have been checked. -/
def ofSettings (s : Settings) : Config where
  sessionTimeout := s.cluster.sessionTimeoutMs
  heartbeatInterval := s.cluster.heartbeatInterval
  handlerTimeout := s.server.handlerTimeoutMs
  storeTimeout := s.cluster.storeTimeoutMs
  shutdownTimeout := s.server.shutdownTimeoutMs
  keyPrefix := s.cluster.keyPrefix
  sendQueueCapacity := s.server.sendQueueCapacity
  maxMessageSize := s.server.maxMessageSize

/-- The values for the cluster side: a record is fresh as long as a session may be idle. -/
def cluster (c : Config) : ClusterConfig where
  keyPrefix := c.keyPrefix
  ttl := c.sessionTimeout
  opTimeout := c.storeTimeout

/-- The values as a document, with those for the cluster side. -/
def toJson (c : Config) : Json :=
  .obj [("sessionTimeout", .nat c.sessionTimeout), ("heartbeatInterval", .nat c.heartbeatInterval),
    ("handlerTimeout", .nat c.handlerTimeout), ("storeTimeout", .nat c.storeTimeout),
    ("shutdownTimeout", .nat c.shutdownTimeout), ("keyPrefix", .str c.keyPrefix),
    ("sendQueueCapacity", .nat c.sendQueueCapacity), ("maxMessageSize", .nat c.maxMessageSize),
    ("coordinator", c.cluster.toJson)]

/-- The values that a document gives, and the usual ones for the rest. -/
def ofJson (j : Json) : Config :=
  let usual : Config := {}
  let number (name : String) (n : Nat) : Nat := ((j.member? name).bind Json.nat?).getD n
  let text (name t : String) : String := ((j.member? name).bind Json.text?).getD t
  { sessionTimeout := number "sessionTimeout" usual.sessionTimeout
    heartbeatInterval := number "heartbeatInterval" usual.heartbeatInterval
    handlerTimeout := number "handlerTimeout" usual.handlerTimeout
    storeTimeout := number "storeTimeout" usual.storeTimeout
    shutdownTimeout := number "shutdownTimeout" usual.shutdownTimeout
    keyPrefix := text "keyPrefix" usual.keyPrefix
    sendQueueCapacity := number "sendQueueCapacity" usual.sendQueueCapacity
    maxMessageSize := number "maxMessageSize" usual.maxMessageSize }

end Config

end SessionHub
