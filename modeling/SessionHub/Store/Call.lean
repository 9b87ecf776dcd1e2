import SessionHub.Fault

/-!
# What the shared store is asked

The nodes of a cluster share a store of texts under keys, each with a lifetime, and channels to
publish on and to listen to by pattern. Any call may fail or take long; what a call is and what
answers it are the same for every store.
-/

namespace SessionHub

/-- A text published on a channel. -/
structure Message where
  channel : String
  payload : String
  deriving Repr, DecidableEq, Inhabited

/-- A number that stands for one subscription. -/
abbrev SubRef := Nat

/-- A call to the store. -/
inductive StoreCall where
  | set (key value : String) (ttl : Nat)
  | get (key : String)
  | delete (key : String)
  | scan (start : String)
  | publish (channel payload : String)
  | subscribe (pattern : String)
  deriving Repr, DecidableEq

/-- What a call is answered with when it succeeds. -/
def StoreCall.Reply : StoreCall → Type
  | .set .. | .delete _ | .publish .. => Unit
  | .get _ => Option String
  | .scan _ => List (String × String)
  | .subscribe _ => SubRef

/-- The outcome of a call. -/
abbrev StoreCall.Answer (call : StoreCall) : Type := Except StoreFault call.Reply

end SessionHub
