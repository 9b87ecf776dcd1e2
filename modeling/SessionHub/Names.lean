import SessionHub.Text.Quoted

/-!
# Who is who

A session is one client's connection and a node is one running process. Both are named by texts
that nobody takes apart, and neither name can stand for the other.

A fresh name has the form of a time-ordered identifier of version 7: 36 characters, four hyphens,
no colon. Counting up keeps fresh names apart and in the order in which they were made.
-/

namespace SessionHub

/-- The name of one client's connection, never used again. -/
structure SessionId where
  text : String
  deriving Repr, DecidableEq, Inhabited

/-- The name of one running process. -/
structure NodeId where
  text : String
  deriving Repr, DecidableEq, Inhabited

/-- A session's name for a reader of logs. -/
def SessionId.described (id : SessionId) : String := s!"SessionId({Text.quoted id.text})"

/-- A node's name for a reader of logs. -/
def NodeId.described (id : NodeId) : String := s!"NodeId({Text.quoted id.text})"

/-- The digits of a number in hexadecimal, filling `width` places. -/
def hexPlaces (width n : Nat) : String :=
  let digits := Text.hexText n
  String.ofList (List.replicate (width - digits.length) '0') ++ digits

/-- The `n`-th name that is made: a counter in the places that hold the time, then the version and
the variant. -/
def freshText (n : Nat) : String :=
  let count := hexPlaces 12 n
  let high := String.ofList (count.toList.take 8)
  let low := String.ofList (count.toList.drop 8)
  s!"{high}-{low}-7000-8000-000000000000"

/-- The `n`-th session's name. -/
def SessionId.fresh (n : Nat) : SessionId := ⟨freshText n⟩

end SessionHub
