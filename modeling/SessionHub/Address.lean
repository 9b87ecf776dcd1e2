import SessionHub.Text.Digits

/-!
# Addresses of peers

The address of a connection's other end: four octets or eight groups of sixteen bits, and a port.
An address has one canonical text, so that two ways to write an address show as the same. The text
of eight groups leaves out the longest run of zero groups, the first of several, if there are at
least two in it; an address that stands for four octets shows them.
-/

namespace SessionHub

/-- The address of a peer. -/
inductive Address where
  | four (octets : List Nat) (port : Nat)
  | six (groups : List Nat) (zone port : Nat)
  deriving Repr, DecidableEq, Inhabited

namespace Address

/-! ## Reading -/

/-- A number below `bound` at the beginning of a text, and what follows it. -/
def number? (digit : Char → Option Nat) (base bound : Nat) (cs : List Char) :
    Option (Nat × List Char) :=
  let digits := cs.takeWhile fun c => (digit c).isSome
  let n := digits.foldl (fun n c => n * base + (digit c).getD 0) 0
  if digits.isEmpty || n ≥ bound then none else some (n, cs.drop digits.length)

/-- An octet in decimal: at most three digits, and no leading zero. -/
def octet? (cs : List Char) : Option (Nat × List Char) := do
  let (n, rest) ← number? Text.digit? 10 256 cs
  if (toString n).length = cs.length - rest.length then some (n, rest) else none

/-- A group in hexadecimal, of at most four digits. -/
def group? (cs : List Char) : Option (Nat × List Char) := do
  let (n, rest) ← number? Text.hexDigit? 16 65536 cs
  if cs.length - rest.length ≤ 4 then some (n, rest) else none

/-- What follows a given character. -/
def after? (mark : Char) : List Char → Option (List Char)
  | c :: rest => if c = mark then some rest else none
  | [] => none

/-- Four octets with points between them. -/
def octets? (cs : List Char) : Option (List Nat × List Char) := do
  let (a, cs) ← octet? cs
  let (b, cs) ← octet? (← after? '.' cs)
  let (c, cs) ← octet? (← after? '.' cs)
  let (d, cs) ← octet? (← after? '.' cs)
  some ([a, b, c, d], cs)

/-- As many groups with colons between them as there are, at most `room`; four octets may stand for
the last two. The flag says whether they do. -/
def groups (isFirst : Bool) : (room : Nat) → List Char → List Nat × Bool × List Char
  | 0, cs => ([], false, cs)
  | room + 1, cs =>
    match if isFirst then some cs else after? ':' cs with
    | none => ([], false, cs)
    | some inner =>
      match if room = 0 then none else octets? inner with
      | some ([a, b, c, d], rest) => ([a * 256 + b, c * 256 + d], true, rest)
      | _ =>
        match group? inner with
        | none => ([], false, cs)
        | some (g, rest) =>
          let (gs, octets, rest) := groups false room rest
          (g :: gs, octets, rest)

/-- Eight groups, some of which may be left out as zeros. -/
def eight? (cs : List Char) : Option (List Nat × List Char) :=
  let (head, octets, rest) := groups true 8 cs
  if head.length = 8 then some (head, rest)
  else if octets then none
  else do
    let rest ← after? ':' (← after? ':' rest)
    let (tail, _, rest) := groups true (7 - head.length) rest
    some (head ++ List.replicate (8 - head.length - tail.length) 0 ++ tail, rest)

/-- A colon, a port and nothing else. -/
def port? (cs : List Char) : Option Nat := do
  let (port, rest) ← number? Text.digit? 10 65536 (← after? ':' cs)
  if rest.isEmpty then some port else none

/-- The zone of an address; it is zero if it is not written. -/
def zone? (cs : List Char) : Option (Nat × List Char) :=
  match after? '%' cs with
  | none => some (0, cs)
  | some rest => number? Text.digit? 10 (twoTo 32) rest

/-- The address that a text denotes. -/
def ofText? (text : String) : Option Address :=
  match octets? text.toList with
  | some (octets, rest) => (port? rest).map (.four octets)
  | none => do
    let (groups, rest) ← eight? (← after? '[' text.toList)
    let (zone, rest) ← zone? rest
    let port ← port? (← after? ']' rest)
    some (.six groups zone port)

/-! ## Writing -/

/-- Where the longest run of zeros begins and how long it is, the first of several. -/
def longestZeros (groups : List Nat) : Nat × Nat :=
  let runs := (List.range groups.length).map fun i =>
    (i, ((groups.drop i).takeWhile (· = 0)).length)
  runs.foldl (fun best run => if run.2 > best.2 then run else best) (0, 0)

/-- Groups in hexadecimal with colons between them. -/
def joined (groups : List Nat) : String := ":".intercalate (groups.map Text.hexText)

/-- Octets with points between them. -/
def pointed (octets : List Nat) : String := ".".intercalate (octets.map toString)

/-- The text of eight groups. -/
def groupsText (groups : List Nat) : String :=
  match groups with
  | [0, 0, 0, 0, 0, 0xffff, a, b] => "::ffff:" ++ pointed [a / 256, a % 256, b / 256, b % 256]
  | _ =>
    let (start, length) := longestZeros groups
    if length < 2 then joined groups
    else joined (groups.take start) ++ "::" ++ joined (groups.drop (start + length))

/-- The canonical text of an address. -/
def text : Address → String
  | .four octets port => s!"{pointed octets}:{port}"
  | .six groups zone port =>
    let zoneText := if zone = 0 then "" else s!"%{zone}"
    s!"[{groupsText groups}{zoneText}]:{port}"

end Address

end SessionHub
