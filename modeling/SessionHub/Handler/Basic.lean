import SessionHub.Journal.Meter
import SessionHub.Json.Value

/-!
# Handlers

The application logic of a path: what to do when a session opens, says something, closes, or when
something went wrong with it. A handler can do three things that concern the hub: end well, report a
failure, or panic. It can also fail to end.

Handlers here are scripts. A *plain* handler cares for messages only; a *scripted* one notes every
callback in the diary and then performs the action that its script has for the callback, an action
being a verb and its argument. What the verbs do is told where they are performed.
-/

namespace SessionHub

/-- A path's handler. -/
inductive Handler where
  | plain
  | scripted (actions : List (Event × String))
  deriving Repr, DecidableEq, Inhabited

/-- The handlers of the paths, at most one each. -/
abbrev Handlers := List (String × Handler)

namespace Handlers

/-- With a handler for a path, instead of a former one. -/
def route (path : String) (h : Handler) (hs : Handlers) : Handlers :=
  (path, h) :: hs.filter (·.1 != path)

/-- The callback that a word means. -/
def event? (word : String) : Option Event :=
  [Event.opened, .message, .closed, .error].find? fun e => e.text = word

/-- A route as a document: its path, and a script's actions by callback. -/
def routeOfJson : Json → Option (String × Handler)
  | .arr [.str path, .obj actions] =>
    some (path, .scripted (actions.filterMap fun a => do return (← event? a.1, ← a.2.text?)))
  | .arr (.str path :: _) => some (path, .plain)
  | _ => none

/-- The handlers of a list of routes, of which a later one takes the place of an earlier. -/
def ofJson (routes : List Json) : Handlers :=
  (routes.filterMap routeOfJson).foldl (fun hs r => hs.route r.1 r.2) []

/-- The handler of a path. -/
def handler? (hs : Handlers) (path : String) : Option Handler := hs.lookup path

/-- Whether a path has a handler. -/
def hasPath (hs : Handlers) (path : String) : Bool := (hs.handler? path).isSome

/-- The paths that have one, in ascending order. -/
def paths (hs : Handlers) : List String := (hs.map (·.1)).mergeSort fun a b => decide (a ≤ b)

section

variable {hs : Handlers} {path path' : String} {h : Handler}

/-- A path has the handler that it was routed to. -/
@[simp] theorem handler?_route : (hs.route path h).handler? path = some h := List.lookup_cons_self

/-- To route a path leaves the other paths alone. -/
theorem handler?_route_of_ne (other : path' ≠ path) :
    (hs.route path h).handler? path' = hs.handler? path' := by
  have kept : (hs.filter (·.1 != path)).lookup path' = hs.lookup path' := by
    rw [List.lookup_eq_findSome?, List.lookup_eq_findSome?, ← List.head?_filterMap,
      ← List.head?_filterMap, List.filterMap_filter]
    congr 2
    funext e
    by_cases own : e.1 = path
    · simp [own, other]
    · simp [own]
  rw [handler?, route, List.lookup_cons, beq_false_of_ne other]
  exact kept

@[simp] theorem hasPath_route :
    (hs.route path h).hasPath path' = (path' == path || hs.hasPath path') := by
  by_cases same : path' = path
  · simp [hasPath, same]
  · rw [hasPath, hasPath, handler?_route_of_ne same, beq_false_of_ne same, Bool.false_or]

/-- The last route for a path is the one that counts, and where there is none, what was there. -/
theorem handler?_foldl_route (routes : List (String × Handler)) (hs : Handlers) (path : String) :
    (routes.foldl (fun hs r => hs.route r.1 r.2) hs).handler? path
      = (routes.reverse.lookup path).or (hs.handler? path) := by
  induction routes generalizing hs with
  | nil => rfl
  | cons r routes ih =>
    rw [List.foldl_cons, ih, List.reverse_cons, List.lookup_append, Option.or_assoc]
    congr 1
    by_cases same : path = r.1
    · rw [same, handler?_route, List.lookup_cons_self]
      rfl
    · rw [handler?_route_of_ne same, List.lookup_cons, beq_false_of_ne same]
      rfl

/-- **A document's last route for a path** gives the path its handler. -/
theorem handler?_ofJson (routes : List Json) (path : String) :
    (ofJson routes).handler? path = (routes.filterMap routeOfJson).reverse.lookup path := by
  rw [ofJson, handler?_foldl_route]
  exact Option.or_none

theorem mem_paths : path ∈ hs.paths ↔ hs.hasPath path = true := by
  rw [paths, List.mem_mergeSort, List.mem_map, hasPath, handler?, List.lookup_isSome_iff]
  exact exists_congr fun e => and_congr_right fun _ => eq_comm.trans beq_iff_eq.symm

end

end Handlers

/-- How a callback ended that did end. -/
inductive Verdict where
  | fine
  | failed (reason : String)
  | panicked (reason : String)
  deriving Repr, DecidableEq, Inhabited

/-- What a callback is about: the message's text or the fault, where there is one. -/
inductive Occasion where
  | opened
  | message (text : String)
  | closed
  | error (fault : SessionFault)
  deriving Repr, DecidableEq, Inhabited

/-- The callback for an occasion. -/
def Occasion.event : Occasion → Event
  | .opened => .opened
  | .message _ => .message
  | .closed => .closed
  | .error _ => .error

end SessionHub
