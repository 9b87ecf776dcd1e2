import SessionHub.Journal.Marks
import SessionHub.Json.Printer
import SessionHub.Node.Broadcast
import SessionHub.Text.Digits

/-!
# Performing a script

A scripted handler notes the callback and performs the action for it. An action is a verb, a colon
and an argument; where two arguments are needed a bar divides them. The verbs:

- `fail`, `panic`, `panic_str`, `panic_any`: end the callback badly;
- `sleep`: waits, then notes it;
- `echo`: sends a frame to the session;
- `cast`, `castto`, `dm`: broadcast on the session's path or another, send to one session, which may
  be named by its mark;
- `set`, `get`, `del`: the session's attributes;
- `close`: closes the session.

A message without an action of its own is itself the action. Any other word does nothing.
-/

namespace SessionHub

/-- What a handler asks: about the cluster, or to wait for some milliseconds. -/
inductive HandlerAsk where
  | cluster (ask : ClusterAsk)
  | pause (ms : Nat)
  deriving Repr

/-- A pause has no answer but its end. -/
def HandlerAsk.Answer : HandlerAsk → Type
  | .cluster ask => ask.Answer
  | .pause _ => Unit

/-- A callback's program. -/
abbrev HandlerProgram (α : Type) := Program Node HandlerAsk HandlerAsk.Answer α

namespace Handler

/-- A program of the cluster's side, inside a callback. -/
def lift {α : Type} (p : ClusterProgram α) : HandlerProgram α :=
  p.among HandlerAsk.cluster fun _ answer => answer

/-- Waits. -/
def pause (ms : Nat) : HandlerProgram Unit := .call (.pause ms) .done

/-- Writes into the diary. -/
def write (line : String) : HandlerProgram Unit := Program.modify (Node.record (·.write line))

/-- The parts before and behind the first occurrence of a character; all is before if it does not
occur. -/
def divide (mark : Char) (text : String) : String × String :=
  let (before, rest) := text.toList.span (· != mark)
  (String.ofList before, String.ofList (rest.drop 1))

/-- A delivery in the diary. -/
def deliveryText (d : Delivery) : String :=
  let removed := (d.removed.map (·.text)).mergeSort fun a b => decide (a ≤ b)
  (Json.obj [("delivered", .nat d.delivered), ("removed", .strs removed)]).text

/-- An attribute in the diary. -/
def attributeText (value : Option Json) : String := (value.getD .null).text

/-- Broadcasts, and notes what came of it. -/
def cast (path payload : String) : HandlerProgram Verdict := do
  let b ← lift (Node.broadcast path payload)
  write s!"cast {deliveryText b.here} {b.published}"
  return .fine

/-- Changes the session's attributes and notes a former value. -/
def onAttributes (verb : String) (r : SessionRef) (name : String) (change : Session → Session) :
    HandlerProgram Verdict := do
  let s ← Program.view (·.session r)
  Program.modify fun n => { n with floor := n.floor.modifySession r change }
  write (verb ++ " " ++ attributeText (s.attribute? name))
  return .fine

/-- Performs an action for a session. -/
def perform (r : SessionRef) (action : String) : HandlerProgram Verdict := do
  let s ← Program.view (·.session r)
  let (verb, arg) := divide ':' action
  let (left, right) := divide '|' arg
  match verb with
  | "fail" => return .failed arg
  | "panic" => return .panicked arg
  | "panic_str" => return .panicked "static panic"
  | "panic_any" => return .panicked "non-string panic payload"
  | "sleep" =>
    let ms := (Text.unsigned? (twoTo 64) arg).getD 0
    pause ms
    write s!"slept {s.id.text} {ms}"
    return .fine
  | "echo" =>
    match ← Program.update (Node.onFloor (Floor.send r arg)) with
    | .ok () => return .fine
    | .error fault => return .failed fault.message
  | "cast" => cast s.path arg
  | "castto" => cast left right
  | "dm" =>
    let opened ← Program.view fun n : Node => n.floor.journal.opened
    let sent ← lift (Node.sendTo s.path ⟨Marks.reveal opened left⟩ right)
    write s!"dm {sent}"
    return .fine
  | "set" => onAttributes "set" r left (Session.setAttribute left (.str right))
  | "get" => onAttributes "get" r arg id
  | "del" => onAttributes "del" r arg (Session.dropAttribute arg)
  | "close" =>
    Program.modify fun n => { n with floor := n.floor.close r }
    return .fine
  | _ => return .fine

/-- What a scripted handler notes first. -/
def headline (s : Session) : Occasion → String
  | .opened => s!"open {s.path} {s.id.text} " ++ s.handshake.user.getD "-"
  | .message text => s!"message {s.path} {s.id.text} {text}"
  | .closed => s!"close {s.path} {s.id.text}"
  | .error fault => s!"error {s.path} {s.id.text} {fault.message}"

/-- The action of a script for an occasion. -/
def actionFor (actions : List (Event × String)) (occasion : Occasion) : String :=
  match actions.lookup occasion.event, occasion with
  | some action, _ => action
  | none, .message text => text
  | none, _ => ""

/-- The callback of a handler for an occasion of a session. -/
def callback (h : Handler) (r : SessionRef) (occasion : Occasion) : HandlerProgram Verdict :=
  match h with
  | .plain =>
    match occasion with
    | .message text => do
      let s ← Program.view (·.session r)
      write s!"plain {s.path} {text}"
      let (verb, arg) := divide ':' text
      return if verb = "fail" then .failed arg else .fine
    | _ => return .fine
  | .scripted actions => do
    let s ← Program.view (·.session r)
    write (headline s occasion)
    if occasion = .opened then
      Program.modify (Node.record fun j => { j with opened := j.opened ++ [s.id] })
    perform r (actionFor actions occasion)

end Handler

end SessionHub
