import SessionHub.Http.Request

/-!
# Taking a connection over

A request that wants to become a socket has to say so in several headers. What is missing is
answered in a fixed order, the first of it alone.
-/

namespace SessionHub.Http

/-- Why a request cannot become a socket. -/
inductive UpgradeFault where
  | method
  | connection
  | upgrade
  | key
  | version
  | notSwitchable
  deriving Repr, DecidableEq, Inhabited

/-- The wording. -/
def UpgradeFault.message : UpgradeFault → String
  | .method => "Request method must be `GET`"
  | .connection => "Connection header did not include 'upgrade'"
  | .upgrade => "`Upgrade` header did not include 'websocket'"
  | .key => "`Sec-WebSocket-Key` header missing"
  | .version => "`Sec-WebSocket-Version` header did not include '13'"
  | .notSwitchable => "WebSocket request couldn't be upgraded since no upgrade state was present"

/-- The status it is answered with. -/
def UpgradeFault.status : UpgradeFault → Nat
  | .method => 405
  | .notSwitchable => 426
  | _ => 400

/-- Why a request cannot become a socket, if it cannot. -/
def Request.upgradeFault? (r : Request) : Option UpgradeFault :=
  if r.method != "GET" then some .method
  else if !r.headerHas "connection" "upgrade" then some .connection
  else if !r.headerIs "upgrade" "websocket" then some .upgrade
  else if (r.header? "sec-websocket-key").isNone then some .key
  else if !r.headerIs "sec-websocket-version" "13" then some .version
  else if !r.canSwitch then some .notSwitchable
  else none

end SessionHub.Http
