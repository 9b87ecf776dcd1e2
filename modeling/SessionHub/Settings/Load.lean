import SessionHub.Json.Reader
import SessionHub.Settings.Environment
import SessionHub.Settings.Merge
import SessionHub.Settings.Reader

/-!
# Loading settings

Settings come in three layers: the defaults, the settings file laid over them, and the environment
on top. The result is checked as a whole. A file that does not exist is no fault; one that cannot
be read, or does not hold a document of the right shape, is.
-/

namespace SessionHub

/-- What stands at the path of the settings file. -/
inductive SettingsFile where
  | absent
  | unreadable
  | text (content : String)
  deriving Repr, DecidableEq, Inhabited

/-- Why settings could not be loaded. -/
inductive LoadFault where
  | unreadable
  | json (failure : Json.Failure)
  | invalid (fault : SettingsFault)
  deriving Repr, DecidableEq

namespace Settings

/-- Settings out of a document. -/
def ofDocument (document : Json) : Except LoadFault Settings :=
  (Settings.ofJson document.settled).mapError fun m => .json { cause := .shape m }

/-- The settings of the file over the defaults. -/
def ofFile : SettingsFile → Except LoadFault Settings
  | .absent => .ok {}
  | .unreadable => .error .unreadable
  | .text content =>
    match Json.read content with
    | .error f => .error (.json f)
    | .ok document =>
      ofDocument ((({} : Settings).toJson.settled).merge document.settled)

/-- The settings of a node: the environment over the file over the defaults, if they are fit for
use; and the warnings raised on the way. -/
def load (file : SettingsFile) (env : Environment) : Except LoadFault Settings × List LogEntry :=
  match ofFile file with
  | .error f => (.error f, [])
  | .ok s =>
    let (s, warnings) := s.override env
    match s.refusal? with
    | some fault => (.error (.invalid fault), warnings)
    | none => (.ok s, warnings)

end Settings

end SessionHub
