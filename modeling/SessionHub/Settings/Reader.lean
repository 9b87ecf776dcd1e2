import SessionHub.Json.Record
import SessionHub.Settings.Basic

/-!
# Settings out of a document

A document gives settings in groups. In an object, members that are not known are passed over and
values that are not given keep their default; the members are visited in ascending order of their
names, so of several faults the first in that order is reported. An array gives the values in the
order of the settings, and may stop early.
-/

namespace SessionHub

open Json (Mismatch)

/-- One value of a group: its name, and how a document changes it. -/
structure Setting (α : Type) where
  name : String
  put : Json → α → Except Mismatch α

/-- The value of a type that was asked for, or why the document is not one. -/
def textSetting : Json → Except Mismatch String
  | .str s => .ok s
  | other => .error (.invalidType other.found "a string")

def boolSetting : Json → Except Mismatch Bool
  | .bool b => .ok b
  | other => .error (.invalidType other.found "a boolean")

/-- A number below `bound`, under the name of its type. -/
def natSetting (expected : String) (bound : Nat) : Json → Except Mismatch Nat
  | .num (.int n) =>
    if 0 ≤ n ∧ n.toNat < bound then .ok n.toNat
    else .error (.invalidValue (.number (.int n)) expected)
  | other => .error (.invalidType other.found expected)

/-- The members of a group, one after the other. -/
def takeMembers {α : Type} (settings : List (Setting α)) (group : α) :
    List (String × Json) → Except Mismatch α
  | [] => .ok group
  | (name, value) :: rest =>
    match settings.find? (·.name == name) with
    | none => takeMembers settings group rest
    | some setting => (setting.put value group).bind fun group => takeMembers settings group rest

/-- The items of a group, in the order of its settings. -/
def takeItems {α : Type} (group : α) : List (Setting α) → List Json → Except Mismatch (α × Bool)
  | _, [] => .ok (group, true)
  | [], _ :: _ => .ok (group, false)
  | setting :: more, value :: rest =>
    (setting.put value group).bind fun group => takeItems group more rest

/-- A group out of a document, over its defaults. -/
def groupOf {α : Type} (title : String) (settings : List (Setting α)) (defaults : α) :
    Json → Except Mismatch α
  | .obj members => takeMembers settings defaults members
  | .arr items =>
    (takeItems defaults settings items).bind fun (group, all) =>
      if all then .ok group else .error (.invalidLength items.length "fewer elements in array")
  | other => .error (.invalidType other.found title)

/-- The bounds of the three unsigned types. -/
def bound16 : Nat := twoTo 16
def bound64 : Nat := twoTo 64

namespace ServerSettings

def settings : List (Setting ServerSettings) := [
  ⟨"host", fun v s => (textSetting v).map fun x => { s with host := x }⟩,
  ⟨"port", fun v s => (natSetting "u16" bound16 v).map fun x => { s with port := x }⟩,
  ⟨"sendQueueCapacity", fun v s =>
    (natSetting "usize" bound64 v).map fun x => { s with sendQueueCapacity := x }⟩,
  ⟨"maxMessageSize", fun v s =>
    (natSetting "usize" bound64 v).map fun x => { s with maxMessageSize := x }⟩,
  ⟨"handlerTimeoutMs", fun v s =>
    (natSetting "u64" bound64 v).map fun x => { s with handlerTimeoutMs := x }⟩,
  ⟨"shutdownTimeoutMs", fun v s =>
    (natSetting "u64" bound64 v).map fun x => { s with shutdownTimeoutMs := x }⟩]

def ofJson (document : Json) : Except Mismatch ServerSettings :=
  groupOf "struct ServerSettings" settings {} document

end ServerSettings

namespace ClusterSettings

def settings : List (Setting ClusterSettings) := [
  ⟨"enabled", fun v s => (boolSetting v).map fun x => { s with enabled := x }⟩,
  ⟨"sessionTimeoutMs", fun v s =>
    (natSetting "u64" bound64 v).map fun x => { s with sessionTimeoutMs := x }⟩,
  ⟨"heartbeatIntervalMs", fun v s =>
    (natSetting "u64" bound64 v).map fun x => { s with heartbeatIntervalMs := x }⟩,
  ⟨"storeUrl", fun v s => (textSetting v).map fun x => { s with storeUrl := x }⟩,
  ⟨"keyPrefix", fun v s => (textSetting v).map fun x => { s with keyPrefix := x }⟩,
  ⟨"storeTimeoutMs", fun v s =>
    (natSetting "u64" bound64 v).map fun x => { s with storeTimeoutMs := x }⟩]

def ofJson (document : Json) : Except Mismatch ClusterSettings :=
  groupOf "struct ClusterSettings" settings {} document

end ClusterSettings

namespace LoggingSettings

def settings : List (Setting LoggingSettings) := [
  ⟨"level", fun v s => (textSetting v).map fun x => { s with level := x }⟩,
  ⟨"json", fun v s => (boolSetting v).map fun x => { s with json := x }⟩]

def ofJson (document : Json) : Except Mismatch LoggingSettings :=
  groupOf "struct LoggingSettings" settings {} document

end LoggingSettings

namespace Settings

def groups : List (Setting Settings) := [
  ⟨"server", fun v s => (ServerSettings.ofJson v).map fun x => { s with server := x }⟩,
  ⟨"cluster", fun v s => (ClusterSettings.ofJson v).map fun x => { s with cluster := x }⟩,
  ⟨"logging", fun v s => (LoggingSettings.ofJson v).map fun x => { s with logging := x }⟩]

/-- Settings out of a document whose names are in ascending order. -/
def ofJson (document : Json) : Except Mismatch Settings :=
  groupOf "struct SwitchboardSettings" groups {} document

end Settings

end SessionHub
