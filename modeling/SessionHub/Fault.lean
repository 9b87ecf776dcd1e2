import SessionHub.Names
import SessionHub.Span

/-!
# What can go wrong

Each part of the hub has its own causes of failure, and each cause its wording. A failing transport
costs the session its place; a failing handler is told to the handler itself; a connection that is
refused is never registered; a failing store makes the node fall back on itself. None of these is
the concern of any other.
-/

namespace SessionHub

/-- A frame that was not taken. -/
inductive TransportFault where
  | closed
  | queueFull
  deriving Repr, DecidableEq, Inhabited

def TransportFault.message : TransportFault → String
  | .closed => "connection closed"
  | .queueFull => "send queue full"

/-- A callback that did not end well. -/
inductive HandlerFault where
  | failed (reason : String)
  | panicked (reason : String)
  | timedOut (limit : Span)
  deriving Repr, DecidableEq, Inhabited

def HandlerFault.message : HandlerFault → String
  | .failed reason => "handler failed: " ++ reason
  | .panicked reason => "handler panicked: " ++ reason
  | .timedOut limit => "handler timed out after " ++ limit.text

/-- The word for a handler's failure in logs and counters. -/
def HandlerFault.kind : HandlerFault → String
  | .failed _ => "failed"
  | .panicked _ => "panicked"
  | .timedOut _ => "timed_out"

/-- Why a session's handler is called about an error. -/
inductive SessionFault where
  | transport (cause : TransportFault)
  | protocol (reason : String)
  | handler (cause : HandlerFault)
  deriving Repr, DecidableEq, Inhabited

def SessionFault.message : SessionFault → String
  | .transport cause => "transport: " ++ cause.message
  | .protocol reason => "protocol: " ++ reason
  | .handler cause => "handler: " ++ cause.message

/-- Why a connection is not admitted. -/
inductive Refusal where
  | unknownPath (path : String)
  | rejected (reason : String)
  | duplicate (id : SessionId)
  deriving Repr, DecidableEq, Inhabited

def Refusal.message : Refusal → String
  | .unknownPath path => s!"no handler registered for path '{path}'"
  | .rejected reason => "handshake rejected: " ++ reason
  | .duplicate id => s!"session {id.text} already registered"

/-- A store call without an answer. -/
inductive StoreFault where
  | unavailable (reason : String)
  | timedOut (limit : Span)
  | backend (reason : String)
  deriving Repr, DecidableEq, Inhabited

def StoreFault.message : StoreFault → String
  | .unavailable reason => "coordination store unavailable: " ++ reason
  | .timedOut limit => "coordination store call timed out after " ++ limit.text
  | .backend reason => "coordination store error: " ++ reason

/-- The word for a store's failure in logs and counters. -/
def StoreFault.kind : StoreFault → String
  | .unavailable _ => "unavailable"
  | .timedOut _ => "timeout"
  | .backend _ => "backend"

end SessionHub
