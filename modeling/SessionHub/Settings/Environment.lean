import SessionHub.Settings.Basic
import SessionHub.Text.Digits

/-!
# Settings out of the environment

Eight variables stand above everything else. A variable that does not hold a value of its type is
reported and otherwise left alone; an empty text counts as unset.
-/

namespace SessionHub

/-- What a variable holds, if it is set. -/
abbrev Environment := String → Option String

/-- A truth value in one of four spellings each, upper or lower case. No letter outside ASCII has
one of these letters as its lower case, so the ASCII letters are all that need lowering. -/
def parseBool? (text : String) : Option Bool :=
  let word := text.map Char.toLower
  if word = "true" ∨ word = "1" ∨ word = "yes" ∨ word = "on" then some true
  else if word = "false" ∨ word = "0" ∨ word = "no" ∨ word = "off" then some false
  else none

/-- A number of a type with `bound` values, within a range. -/
def parseNat? (bound low high : Nat) (text : String) : Option Nat :=
  (Text.unsigned? bound text).filter fun n => low ≤ n && n ≤ high

/-- The longest time that a variable may set: a day. -/
def longestTime : Nat := 86400000

/-- A variable's value under a reader, and the warning if it has one and the reader refuses it. -/
def readVariable {α : Type} (env : Environment) (name complaint : String)
    (read : String → Option α) : Option α × List LogEntry :=
  match env name with
  | none => (none, [])
  | some text =>
    match read text with
    | some value => (some value, [])
    | none => (none, [.warning complaint [("key", name), ("value", text)]])

/-- A text variable, unless it is empty. -/
def readTextVariable (env : Environment) (name : String) : Option String :=
  (env name).filter fun text => !text.isEmpty

namespace Settings

/-- The settings with the variables that are set in place. -/
def override (env : Environment) (s : Settings) : Settings × List LogEntry :=
  let (port, w1) := readVariable env "SWITCHBOARD_PORT" "invalid u16 env var, ignoring"
    (parseNat? (twoTo 16) 1 65535)
  let (enabled, w2) := readVariable env "SWITCHBOARD_CLUSTER_ENABLED"
    "invalid boolean env var, ignoring" parseBool?
  let time := parseNat? (twoTo 64) 1 longestTime
  let (session, w3) := readVariable env "SWITCHBOARD_SESSION_TIMEOUT_MS"
    "invalid u64 env var, ignoring" time
  let (heartbeat, w4) := readVariable env "SWITCHBOARD_HEARTBEAT_INTERVAL_MS"
    "invalid u64 env var, ignoring" time
  ({ server := { s.server with
       host := (readTextVariable env "SWITCHBOARD_HOST").getD s.server.host
       port := port.getD s.server.port }
     cluster := { s.cluster with
       enabled := enabled.getD s.cluster.enabled
       sessionTimeoutMs := session.getD s.cluster.sessionTimeoutMs
       heartbeatIntervalMs := heartbeat.getD s.cluster.heartbeatIntervalMs
       storeUrl := (readTextVariable env "SWITCHBOARD_STORE_URL").getD s.cluster.storeUrl
       keyPrefix := (readTextVariable env "SWITCHBOARD_KEY_PREFIX").getD s.cluster.keyPrefix }
     logging := { s.logging with
       level := (readTextVariable env "SWITCHBOARD_LOG_LEVEL").getD s.logging.level } },
   w1 ++ w2 ++ w3 ++ w4)

/-- The path of the settings file: what the variable names, or the default. -/
def path (env : Environment) : String :=
  (readTextVariable env "SWITCHBOARD_CONFIG").getD "switchboard.json"

end Settings

end SessionHub
