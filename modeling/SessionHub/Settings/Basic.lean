import SessionHub.Fault
import SessionHub.Journal.Log
import SessionHub.Text.White

/-!
# Settings

What an operator may set: the listener and the limits of a connection, the cluster, the log. Every
value has a default. Some values would leave a node that cannot work, and `Settings.refusal?` finds
the first of them in a fixed order.

The heartbeat is never slower than a third of the session timeout, whatever is set, so that a node
that lives writes its record at least twice before the record would count as old.
-/

namespace SessionHub

/-- The listener and the limits of a connection. Times are in milliseconds. -/
structure ServerSettings where
  host : String := "0.0.0.0"
  port : Nat := 8080
  sendQueueCapacity : Nat := 256
  maxMessageSize : Nat := 1048576
  handlerTimeoutMs : Nat := 10000
  shutdownTimeoutMs : Nat := 5000
  deriving Repr, DecidableEq, Inhabited

/-- Membership of a cluster. Times are in milliseconds. -/
structure ClusterSettings where
  enabled : Bool := false
  sessionTimeoutMs : Nat := 30000
  heartbeatIntervalMs : Nat := 10000
  storeUrl : String := "redis://127.0.0.1:6379"
  keyPrefix : String := "switchboard"
  storeTimeoutMs : Nat := 2000
  deriving Repr, DecidableEq, Inhabited

/-- The log. -/
structure LoggingSettings where
  level : String := "info"
  json : Bool := false
  deriving Repr, DecidableEq, Inhabited

/-- All settings of a node. -/
structure Settings where
  server : ServerSettings := {}
  cluster : ClusterSettings := {}
  logging : LoggingSettings := {}
  deriving Repr, DecidableEq, Inhabited

/-- Settings that would leave a node that cannot work. -/
inductive SettingsFault where
  | zero (name : String)
  | blankPrefix
  | missingStore
  deriving Repr, DecidableEq, Inhabited

def SettingsFault.reason : SettingsFault → String
  | .zero name => name ++ " must be > 0"
  | .blankPrefix => "cluster.keyPrefix must not be empty"
  | .missingStore => "cluster.storeUrl is required when clustering is enabled"

/-- The wording for a value that is refused. -/
def invalidSetting (reason : String) : String := "invalid settings value: " ++ reason

def SettingsFault.message (f : SettingsFault) : String := invalidSetting f.reason

namespace Settings

/-- The values that must not be zero, in the order in which they are checked. -/
def positives (s : Settings) : List (String × Nat) :=
  [("server.sendQueueCapacity", s.server.sendQueueCapacity),
   ("server.maxMessageSize", s.server.maxMessageSize),
   ("server.handlerTimeoutMs", s.server.handlerTimeoutMs),
   ("server.shutdownTimeoutMs", s.server.shutdownTimeoutMs),
   ("cluster.sessionTimeoutMs", s.cluster.sessionTimeoutMs),
   ("cluster.heartbeatIntervalMs", s.cluster.heartbeatIntervalMs),
   ("cluster.storeTimeoutMs", s.cluster.storeTimeoutMs)]

/-- The first reason for which settings are refused. -/
def refusal? (s : Settings) : Option SettingsFault :=
  match s.positives.find? (·.2 == 0) with
  | some (name, _) => some (.zero name)
  | none =>
    if Text.isBlank s.cluster.keyPrefix then some .blankPrefix
    else if s.cluster.enabled && Text.isBlank s.cluster.storeUrl then some .missingStore
    else none

/-- The address of the listener. -/
def bindAddress (s : Settings) : String := s!"{s.server.host}:{s.server.port}"

/-- The settings as a document. -/
def toJson (s : Settings) : Json :=
  .obj [
    ("server", .obj [
      ("host", .str s.server.host),
      ("port", .nat s.server.port),
      ("sendQueueCapacity", .nat s.server.sendQueueCapacity),
      ("maxMessageSize", .nat s.server.maxMessageSize),
      ("handlerTimeoutMs", .nat s.server.handlerTimeoutMs),
      ("shutdownTimeoutMs", .nat s.server.shutdownTimeoutMs)]),
    ("cluster", .obj [
      ("enabled", .bool s.cluster.enabled),
      ("sessionTimeoutMs", .nat s.cluster.sessionTimeoutMs),
      ("heartbeatIntervalMs", .nat s.cluster.heartbeatIntervalMs),
      ("storeUrl", .str s.cluster.storeUrl),
      ("keyPrefix", .str s.cluster.keyPrefix),
      ("storeTimeoutMs", .nat s.cluster.storeTimeoutMs)]),
    ("logging", .obj [
      ("level", .str s.logging.level),
      ("json", .bool s.logging.json)])]

end Settings

/-- The longest interval between heartbeats: a third of the session timeout, but not zero. -/
def ClusterSettings.longestInterval (c : ClusterSettings) : Nat := max (c.sessionTimeoutMs / 3) 1

/-- The interval between heartbeats. -/
def ClusterSettings.heartbeatInterval (c : ClusterSettings) : Nat :=
  min c.heartbeatIntervalMs c.longestInterval

/-- The warning that an interval was too long. -/
def ClusterSettings.intervalWarnings (c : ClusterSettings) : List LogEntry :=
  if c.heartbeatIntervalMs > c.longestInterval then
    [.warning "heartbeat interval exceeds a third of the session timeout, clamping"
      [("configured_ms", toString c.heartbeatIntervalMs),
       ("effective_ms", toString c.longestInterval)]]
  else []

end SessionHub
