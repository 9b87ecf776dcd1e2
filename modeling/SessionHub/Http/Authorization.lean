import SessionHub.Http.Request
import SessionHub.Session

/-!
# Who is let in

Before a connection becomes a session somebody has to approve it. What the user calls herself stands
in the header `x-user-id`: its value without the blanks around it, if anything is left. Whether a
connection may do without it is the policy.
-/

namespace SessionHub.Http

/-- The header that names the user. -/
def userHeader : String := "x-user-id"

/-- Whom to let in: everybody, or only those who name a user. -/
inductive Policy where
  | anyone
  | named
  deriving Repr, DecidableEq, Inhabited

/-- The user that a request names. -/
def Request.user? (r : Request) : Option String :=
  ((r.text? userHeader).map Text.trim).filter fun u => u != ""

/-- What the handshake finds out, or why it is refused. -/
def Policy.approve (policy : Policy) (r : Request) : Except Refusal Handshake :=
  match policy, r.user? with
  | .named, none => .error (.rejected s!"missing {userHeader} header")
  | _, user => .ok { address := r.address, user }

end SessionHub.Http
