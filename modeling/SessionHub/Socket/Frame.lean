import SessionHub.Json.Value
import SessionHub.Text.Utf8

/-!
# Frames

What goes over a socket in either direction. A closing frame may say why: a code and a reason.
-/

namespace SessionHub

/-- Why a socket is closed. -/
structure Closure where
  code : Nat
  reason : String
  deriving Repr, DecidableEq, Inhabited

/-- One frame. -/
inductive Frame where
  | text (t : String)
  | binary (octets : List UInt8)
  | ping (octets : List UInt8)
  | pong (octets : List UInt8)
  | close (why : Option Closure)
  deriving Repr, DecidableEq, Inhabited

namespace Closure

/-- The server has nothing more to say. -/
def normal : Closure := { code := 1000, reason := "" }

/-- The server refuses the connection. -/
def policy (reason : String) : Closure := { code := 1008, reason }

/-- The other end has closed with a code that must not be sent. -/
def violation : Closure := { code := 1002, reason := "Protocol violation" }

/-- Whether a code may be sent: it is one of the standard's for this purpose, or in a range left to
libraries and applications. -/
def isAllowed (code : Nat) : Bool :=
  (1000 ≤ code && code ≤ 1003) || (1007 ≤ code && code ≤ 1013) || (3000 ≤ code && code ≤ 4999)

/-- What a closing frame is answered with: the same, unless its code must not be sent. -/
def reply (why : Option Closure) : Option Closure :=
  why.map fun c => if isAllowed c.code then c else violation

end Closure

namespace Frame

/-- How many octets a frame that controls the connection may carry. -/
def controlLimit : Nat := 125

/-- The size of a frame's payload. -/
def size : Frame → Nat
  | .text t => t.utf8ByteSize
  | .binary octets | .ping octets | .pong octets => octets.length
  | .close none => 0
  | .close (some c) => 2 + c.reason.utf8ByteSize

/-- How long a text may be to be shown. -/
def shownLength : Nat := 256

/-- A frame as a document: short texts and the reasons of a closure as such, of all else the
size. -/
def toJson : Frame → Json
  | .text t =>
    if t.utf8ByteSize > shownLength then .obj [("textLen", .nat t.utf8ByteSize)]
    else .obj [("text", .str t)]
  | .binary octets => .obj [("binary", .nat octets.length)]
  | .ping octets => .obj [("ping", .nat octets.length)]
  | .pong octets => .obj [("pong", .nat octets.length)]
  | .close none => .obj [("close", .null)]
  | .close (some c) => .obj [("close", .arr [.nat c.code, .str c.reason])]

/-- Whether a frame controls the connection rather than carrying a message. -/
def isControl : Frame → Bool
  | .text _ | .binary _ => false
  | _ => true

end Frame

end SessionHub
