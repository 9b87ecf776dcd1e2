import SessionHub.Journal.Log
import SessionHub.Journal.Meter

/-!
# The journal

Everything that is written down while nodes work and that no node reads again: the log, the
metrics, what scripted handlers note in their diary, and which sessions a scripted handler has seen
open, in that order.
-/

namespace SessionHub

/-- What has been written down. -/
structure Journal where
  log : List LogEntry := []
  meter : Meter := {}
  diary : List String := []
  opened : List SessionId := []
  deriving Repr, DecidableEq, Inhabited

namespace Journal

/-- Writes an entry into the log. -/
def note (entry : LogEntry) (j : Journal) : Journal := { j with log := j.log ++ [entry] }

/-- Writes a warning into the log. -/
def warn (message : String) (fields : List (String × String)) (j : Journal) : Journal :=
  j.note (.warning message fields)

/-- Writes an error into the log. -/
def complain (message : String) (fields : List (String × String)) (j : Journal) : Journal :=
  j.note { level := .error, message, fields }

/-- Counts one. -/
def count (metric : Metric) (j : Journal) : Journal := { j with meter := j.meter.add metric 1 }

/-- Counts one back. -/
def discount (metric : Metric) (j : Journal) : Journal := { j with meter := j.meter.add metric (-1) }

/-- Sets a gauge. -/
def gauge (metric : Metric) (n : Int) (j : Journal) : Journal :=
  { j with meter := j.meter.assign metric n }

/-- Writes a line into the handlers' diary. -/
def write (line : String) (j : Journal) : Journal := { j with diary := j.diary ++ [line] }

end Journal

end SessionHub
