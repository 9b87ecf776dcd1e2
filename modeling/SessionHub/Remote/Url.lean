import SessionHub.Address
import SessionHub.Text.Percent

/-!
# URLs

The parts of a URL of a scheme without rules of its own: who, where, and which path. Blanks around
it do not count, nor tabs and line ends in it. What stands before the last at sign of the authority
is the user and the password, and may itself hold at signs.
-/

namespace SessionHub.Remote

/-- The parts of a URL. User, password, path and query are as they are written. -/
structure Url where
  scheme : String
  user : List Char := []
  password : Option (List Char) := none
  /-- The host, unless there is none or it is empty. -/
  host : Option String := none
  port : Option Nat := none
  path : List Char := []
  query : List Char := []
  deriving Repr, DecidableEq, Inhabited

namespace Url

/-- Whether a character is a blank or a control character. -/
def isFiller (c : Char) : Bool := c ≤ ' '

/-- The characters of a URL that count. -/
def cleaned (s : String) : List Char :=
  let inner := (s.toList.dropWhile isFiller).reverse.dropWhile isFiller
  inner.reverse.filter fun c => !(c = '\t' || c = '\n' || c = '\r')

/-- The characters before and behind the first one of a kind; behind is nothing if there is none. -/
def split (mark : Char) (cs : List Char) : List Char × Option (List Char) :=
  match cs.dropWhile (· != mark) with
  | [] => (cs, none)
  | _ :: rest => (cs.takeWhile (· != mark), some rest)

/-- The characters before and behind the last one of a kind; before is nothing if there is none. -/
def splitLast (mark : Char) (cs : List Char) : Option (List Char) × List Char :=
  match split mark cs.reverse with
  | (behind, none) => (none, behind.reverse)
  | (behind, some before) => (some before.reverse, behind.reverse)

/-- Whether a character may be in a scheme, behind its first letter. -/
def inScheme (c : Char) : Bool := c.isAlphanum || c = '+' || c = '-' || c = '.'

/-- The scheme and what follows it. -/
def scheme? (cs : List Char) : Option (String × List Char) :=
  match split ':' cs with
  | (c :: name, some rest) =>
    if c.isAlpha && name.all inScheme then
      some (String.ofList ((c :: name).map Char.toLower), rest)
    else none
  | _ => none

/-- Whether a character cannot be in the name of a host. -/
def isForbidden (c : Char) : Bool := c = '\x00' || " #/:<>?@[\\]^|".toList.contains c

/-- What follows a host: nothing, or a colon and perhaps a port. -/
def portAfter? : List Char → Option (Option Nat)
  | [] => some none
  | [':'] => some none
  | ':' :: digits =>
    if digits.all Char.isDigit then ((Text.decimalFrom 0 digits).filter (· < 65536)).map some
    else none
  | _ => none

/-- A host and a port. -/
def hostAndPort? (cs : List Char) : Option (Option String × Option Nat) :=
  match cs with
  | '[' :: inner => do
    let (groups, rest) ← Address.eight? inner
    let port ← portAfter? (← Address.after? ']' rest)
    some (some s!"[{Address.groupsText groups}]", port)
  | _ => do
    let name := cs.takeWhile (· != ':')
    if name.any isForbidden then none
    else
      let port ← portAfter? (cs.drop name.length)
      if name.isEmpty then (if cs.isEmpty then some (none, none) else none)
      else some (some (String.ofList name), port)

/-- The authority of a URL, put into the URL. -/
def withAuthority? (cs : List Char) (u : Url) : Option Url :=
  let (who, place) := splitLast '@' cs
  if who.isSome && place.isEmpty then none
  else do
    let (host, port) ← hostAndPort? place
    let (user, password) := match who with
      | some who => split ':' who
      | none => ([], none)
    some { u with user, password, host, port }

/-- The segments of a path without those that mean this place and the one above. -/
def resolved (done : List (List Char)) : List (List Char) → List (List Char)
  | [] => done.reverse
  | ['.'] :: rest => resolved done rest
  | ['.', '.'] :: rest => resolved (done.drop 1) rest
  | segment :: rest => resolved (segment :: done) rest

/-- The characters between slashes. -/
def segments (cs : List Char) : List (List Char) :=
  ((String.ofList cs).splitOn "/").map String.toList

/-- The parts of a URL, if it is one. -/
def ofText? (s : String) : Option Url := do
  let (scheme, rest) ← scheme? (cleaned s)
  let (rest, _) := split '#' rest
  let (rest, query) := split '?' rest
  let u : Url := { scheme, query := query.getD [] }
  match rest with
  | '/' :: '/' :: rest =>
    let authority := rest.takeWhile (· != '/')
    { u with path := rest.drop authority.length }.withAuthority? authority
  | _ => some { u with path := rest }

/-- The value of a name in the query, the last of several. -/
def parameter? (u : Url) (name : String) : Option String :=
  let decoded (cs : List Char) : String :=
    Text.utf8Lossy (Text.percentDecoded (cs.map fun c => if c = '+' then ' ' else c))
  let pairs := ((String.ofList u.query).splitOn "&").map fun p => split '=' p.toList
  (pairs.reverse.find? fun p => decoded p.1 == name).map fun p => decoded (p.2.getD [])

end Url

/-- The characters before and behind the first `://`. -/
def afterScheme? : List Char → Option (List Char × List Char)
  | ':' :: '/' :: '/' :: rest => some ([], rest)
  | c :: rest => (afterScheme? rest).map fun (before, behind) => (c :: before, behind)
  | [] => none

/-- A URL for a reader of logs: nothing of what stands between the scheme and the last at sign
behind it is shown. -/
def redact (url : String) : String :=
  match afterScheme? url.toList with
  | none => url
  | some (scheme, rest) =>
    match Url.splitLast '@' rest with
    | (none, _) => url
    | (some _, place) => String.ofList (scheme ++ "://***@".toList ++ place)

end SessionHub.Remote
