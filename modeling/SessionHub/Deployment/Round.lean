import SessionHub.Json.Value

/-!
# Rounds

A job works in rounds. After a round it is over, with an answer for whoever started it, or it begins
the next.
-/

namespace SessionHub

/-- How a round ends. -/
inductive Round where
  | again
  | finished (answer : Json)
  | panicked
  deriving Repr, Inhabited

end SessionHub
