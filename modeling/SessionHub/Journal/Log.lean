import SessionHub.Json.Value

/-!
# The log

What an operator has to know: each entry has one of two levels, a fixed message and named values.
-/

namespace SessionHub

/-- How grave an entry is. -/
inductive LogEntry.Level where
  | warn
  | error
  deriving Repr, DecidableEq, Inhabited

/-- One entry of the log. -/
structure LogEntry where
  level : LogEntry.Level
  message : String
  fields : List (String × String)
  deriving Repr, DecidableEq, Inhabited

namespace LogEntry

/-- A warning. -/
def warning (message : String) (fields : List (String × String)) : LogEntry :=
  { level := .warn, message, fields }

/-- The word for a level. -/
def Level.text : Level → String
  | .warn => "WARN"
  | .error => "ERROR"

/-- An entry as a document, its names in ascending order. -/
def toJson (e : LogEntry) : Json :=
  .obj [("fields", .arr (e.fields.map fun (name, value) => .arr [.str name, .str value])),
    ("level", .str e.level.text), ("message", .str e.message)]

end LogEntry

end SessionHub
