import SessionHub.Proofs.Delivery
import SessionHub.Proofs.Program.Conduct
import SessionHub.Proofs.Program.Solo

/-!
# What handlers can do to dispatch

A callback may do four things: end well, report a failure, panic, or never end. Which of them it does,
and what it does to the node meanwhile, is up to the handler, and may depend on everything that
happened before: that is a **play**. On a **stage** a node dispatches occasions to a handler that plays,
and every callback that is run is put down, with the node before and after it.

The handler decides what a dispatch comes to, and nothing beyond that. A dispatch ends as its callback
does; a callback that fails is followed by one error callback, which is told of that failure, and by
nothing else, whatever becomes of it; and between callbacks all sessions stay as they are.
-/

namespace SessionHub

/-! ## Plays -/

/-- What a callback does. An error callback has no failure to report: to it, failing is ending well. -/
inductive Behaviour where
  | fine
  | fails (reason : String)
  | panics (reason : String)
  /-- It never comes to an end by itself. -/
  | hangs
  deriving Repr, DecidableEq

/-- How a callback ends within a time limit. -/
def Behaviour.ending : Behaviour → Ending
  | .fine => .ended .fine
  | .fails reason => .ended (.failed reason)
  | .panics reason => .ended (.panicked reason)
  | .hangs => .expired

/-- The failure that a callback comes to, if it does. -/
def Behaviour.fault? (limit : Nat) : Behaviour → Option HandlerFault
  | .fine => none
  | .fails reason => some (.failed reason)
  | .panics reason => some (.panicked reason)
  | .hangs => some (.timedOut (.ofMillis limit))

/-- A callback that was run. -/
structure Callback where
  handler : Handler
  limit : Nat
  session : SessionRef
  occasion : Occasion
  behaviour : Behaviour
  before : Node
  after : Node

/-- **A play**: what each callback does, and what it makes of the node, in knowledge of all those before
it. A session's path is not among the things that can change. -/
structure Play (r : SessionRef) where
  act : List Callback → Handler → SessionRef → Occasion → Node → Behaviour × Node
  path : ∀ past h r' o n, ((act past h r' o n).2.session r).path = (n.session r).path

/-- A node, and the callbacks that were run. -/
structure Scene where
  node : Node
  callbacks : List Callback := []

/-- What surrounds a dispatch: the handler, and nothing else. -/
def Play.stage {r : SessionRef} (play : Play r) : Surroundings Scene HubAsk HubAsk.Answer where
  passes s s' := s' = s
  serves
    | .callback h limit r' o, s, ending, s' =>
      let (behaviour, after) := play.act s.callbacks h r' o s.node
      ending = behaviour.ending ∧ s' =
        { node := after
          callbacks := s.callbacks ++ [⟨h, limit, r', o, behaviour, s.node, after⟩] }
    | _, s, _, s' => s' = s

namespace Node

/-- A program of a hub, on a stage. -/
def onStage {α : Type} (p : HubProgram α) : Program Scene HubAsk HubAsk.Answer α :=
  p.embed Scene.node (fun n s => { s with node := n }) Program.ask

/-- Dispatches an occasion. A fault from outside is told to the handler, and has no outcome. -/
def dispatchAny (handlers : Handlers) (limit : Nat) (r : SessionRef) : Occasion → HubProgram Dispatched
  | .error fault => do
    dispatchError handlers limit r fault
    return .ok ()
  | occasion => dispatch handlers limit r occasion

/-- Dispatches occasions of a session, one after another. -/
def dispatchAll (handlers : Handlers) (limit : Nat) (r : SessionRef) :
    List Occasion → HubProgram (List Dispatched)
  | [] => return []
  | occasion :: rest => do
    let outcome ← dispatchAny handlers limit r occasion
    let outcomes ← dispatchAll handlers limit r rest
    return outcome :: outcomes

/-- No session has changed, and nobody has come or left. -/
def Untouched (n n' : Node) : Prop := n.floor.Still n'.floor

/-- Nothing but callbacks has changed a session on the way from a node to another. -/
def Linked (n : Node) : List Callback → Node → Prop
  | [], n' => Untouched n n'
  | c :: rest, n' => Untouched n c.before ∧ Linked c.after rest n'

end Node

/-- What one dispatch comes to: the callbacks that it runs, and its outcome. -/
inductive Handled (h : Handler) (limit : Nat) (r : SessionRef) :
    Occasion → List Callback → Dispatched → Prop
  | well {o : Occasion} {c : Callback} (event : o.event ≠ .error)
    (ran : c.handler = h ∧ c.limit = limit ∧ c.session = r ∧ c.occasion = o)
    (none : c.behaviour.fault? limit = none) : Handled h limit r o [c] (.ok ())
  /-- The same handler is told of the failure, and whatever it does then is the end of it. -/
  | badly {o : Occasion} {c e : Callback} {fault : HandlerFault} (event : o.event ≠ .error)
    (ran : c.handler = h ∧ c.limit = limit ∧ c.session = r ∧ c.occasion = o)
    (some : c.behaviour.fault? limit = some fault)
    (told : e.handler = h ∧ e.limit = limit ∧ e.session = r ∧ e.occasion = .error (.handler fault)) :
    Handled h limit r o [c, e] (.error fault)
  | told {fault : SessionFault} {e : Callback}
    (ran : e.handler = h ∧ e.limit = limit ∧ e.session = r ∧ e.occasion = .error fault) :
    Handled h limit r (.error fault) [e] (.ok ())

/-- What dispatches come to, one after another. -/
inductive HandledAll (h : Handler) (limit : Nat) (r : SessionRef) :
    List Occasion → List Callback → List Dispatched → Prop
  | nil : HandledAll h limit r [] [] []
  | cons {o : Occasion} {os : List Occasion} {l l' : List Callback} {a : Dispatched}
    {as : List Dispatched} (first : Handled h limit r o l a) (rest : HandledAll h limit r os l' as) :
    HandledAll h limit r (o :: os) (l ++ l') (a :: as)

theorem HandledAll.append {h : Handler} {limit : Nat} {r : SessionRef} {os os' : List Occasion}
    {l l' : List Callback} {as as' : List Dispatched} (all : HandledAll h limit r os l as)
    (all' : HandledAll h limit r os' l' as') : HandledAll h limit r (os ++ os') (l ++ l') (as ++ as') := by
  induction all with
  | nil => exact all'
  | cons first _ ih =>
    rw [List.append_assoc]
    exact .cons first ih

/-- The outcome of a dispatch that finds no handler. -/
def unhandled : Occasion → Dispatched
  | .error _ => .ok ()
  | _ => .error (.failed "no handler for path")

namespace Node

/-! ## What is left alone -/

variable {n n' n'' : Node} {l l' : List Callback}

theorem Untouched.refl (n : Node) : Untouched n n := ⟨rfl, rfl⟩

theorem Untouched.trans (h : Untouched n n') (h' : Untouched n' n'') : Untouched n n'' :=
  Floor.Still.trans h h'

theorem Untouched.session (h : Untouched n n') (r : SessionRef) : n'.session r = n.session r := by
  show n'.floor.session r = n.floor.session r
  rw [Floor.session, h.1]
  rfl

theorem Linked.append (h : Linked n l n') (h' : Linked n' l' n'') : Linked n (l ++ l') n'' := by
  induction l generalizing n with
  | nil =>
    cases l' with
    | nil => exact Untouched.trans h h'
    | cons c rest => exact ⟨Untouched.trans h h'.1, h'.2⟩
  | cons c rest ih => exact ⟨h.1, ih h.2⟩

/-- What a stretch of the stage comes to: the callbacks that were run, between which nothing has
changed a session, and the session's path. -/
structure Played (r : SessionRef) (s : Scene) (l : List Callback) (s' : Scene) : Prop where
  callbacks : s'.callbacks = s.callbacks ++ l
  linked : Linked s.node l s'.node
  path : (s'.node.session r).path = (s.node.session r).path

variable {r : SessionRef} {s s' s'' : Scene}

theorem Played.append (h : Played r s l s') (h' : Played r s' l' s'') : Played r s (l ++ l') s'' where
  callbacks := by rw [h'.callbacks, h.callbacks, List.append_assoc]
  linked := h.linked.append h'.linked
  path := h'.path.trans h.path

theorem Played.of_untouched {n : Node} (same : Untouched s.node n) :
    Played r s [] { s with node := n } where
  callbacks := (List.append_nil _).symm
  linked := same
  path := congrArg Session.path (same.session r)

/-! ## Dispatch -/

/-- A callback for a session's opening, its messages and its closing comes to what it does. -/
theorem dispatched_ending {limit : Nat} {o : Occasion} (b : Behaviour) (event : o.event ≠ .error) :
    Ending.dispatched limit o.event b.ending
      = match b.fault? limit with | none => .ok () | some fault => .error fault := by
  cases b with
  | fails reason => exact if_neg event
  | fine | panics | hangs => rfl

end Node

/-- **An attendance**: surroundings with a node in them, in which callbacks are run. Other things may lie
between two points as well, but nothing that changes a session's path. -/
structure Attendance {τ R : Type} {B : R → Type} (X : Surroundings τ R B) (r : SessionRef) where
  node : τ → Node
  setNode : Node → τ → τ
  ask : HubAsk → R
  back : (q : HubAsk) → B (ask q) → q.Answer
  /-- What may lie between two points, with the callbacks that are run there. -/
  Passed : τ → List Callback → τ → Prop
  refl : ∀ s, Passed s [] s
  append : ∀ {s l t l' u}, Passed s l t → Passed t l' u → Passed s (l ++ l') u
  path : ∀ {s l t}, Passed s l t → ((node t).session r).path = ((node s).session r).path
  record : ∀ change s, Passed s [] (setNode ((node s).record change) s)
  passes : ∀ {s t}, X.passes s t → Passed s [] t
  serves : ∀ {h limit r' o s b t}, X.serves (ask (.callback h limit r' o)) s b t →
    ∃ c : Callback, (c.handler = h ∧ c.limit = limit ∧ c.session = r' ∧ c.occasion = o) ∧
      back _ b = c.behaviour.ending ∧ Passed s [c] t

namespace Attendance

variable {τ R α β : Type} {B : R → Type} {X : Surroundings τ R B} {r : SessionRef} {s s' : τ}
  {handlers : Handlers} {h : Handler} {limit : Nat} {o : Occasion} (A : Attendance X r)

/-- A program of a hub, in attendance. -/
def lift (p : HubProgram α) : Program τ R B α :=
  p.embed A.node A.setNode fun q => .call (A.ask q) fun b => .done (A.back q b)

theorem ends_bind {p : HubProgram α} {f : α → HubProgram β} {b : β} :
    (A.lift (p >>= f)).Ends X s b s' ↔ ∃ a t, (A.lift p).Ends X s a t ∧ (A.lift (f a)).Ends X t b s' := by
  rw [lift, Program.embed_bind]
  exact Program.ends_bind

/-- A callback that is run, and counted. -/
theorem ran {a : Dispatched} (ended : (A.lift (Node.runCallback h limit r o)).Ends X s a s') :
    ∃ c : Callback, (c.handler = h ∧ c.limit = limit ∧ c.session = r ∧ c.occasion = o) ∧
      a = Ending.dispatched limit o.event c.behaviour.ending ∧ A.Passed s [c] s' := by
  obtain ⟨t, b, u, passes, served, rfl, rfl⟩ := ended
  obtain ⟨c, about, ending, passed⟩ := A.serves served
  exact ⟨c, about, congrArg _ ending, A.append (A.passes passes) (A.append passed (A.record _ u))⟩

/-- A handler is told of a failure by one callback, whatever becomes of it. -/
theorem told {fault : SessionFault}
    (ended : (A.lift (Node.tellError h limit r fault)).Ends X s () s') :
    ∃ e : Callback, (e.handler = h ∧ e.limit = limit ∧ e.session = r ∧ e.occasion = .error fault) ∧
      A.Passed s [e] s' := by
  obtain ⟨_, _, ⟨rfl, rfl⟩, ended⟩ := A.ends_bind.mp ended
  obtain ⟨a, t, ran, ended⟩ := A.ends_bind.mp ended
  obtain ⟨e, about, _, passed⟩ := A.ran ran
  refine ⟨e, about, ?_⟩
  cases a with
  | ok =>
    obtain ⟨_, rfl⟩ := ended
    exact passed
  | error failure =>
    obtain ⟨_, rfl⟩ := ended
    exact A.append passed (A.record ..)

/-- The handler is that of the session's path. -/
theorem found {found : Option Handler}
    (ended : (A.lift (Node.handlerFor handlers r)).Ends X s found s') :
    found = handlers.handler? ((A.node s).session r).path ∧ A.Passed s [] s' := by
  obtain ⟨_, _, ⟨rfl, rfl⟩, ended⟩ := A.ends_bind.mp ended
  split at ended
  · rename_i h known
    obtain ⟨rfl, rfl⟩ := ended
    exact ⟨known.symm, A.refl _⟩
  · rename_i unknown
    obtain ⟨rfl, rfl⟩ := ended
    exact ⟨unknown.symm, A.record ..⟩

/-- An occasion that is no fault is dispatched, and a failure reported. -/
theorem dispatched {a : Dispatched} (event : o.event ≠ .error)
    (known : handlers.handler? ((A.node s).session r).path = some h)
    (ended : (A.lift (Node.dispatch handlers limit r o)).Ends X s a s') :
    ∃ l, Handled h limit r o l a ∧ A.Passed s l s' := by
  obtain ⟨found, t, sought, ended⟩ := A.ends_bind.mp ended
  obtain ⟨rfl, passed⟩ := A.found sought
  rw [known] at ended
  obtain ⟨outcome, u, ran, ended⟩ := A.ends_bind.mp ended
  obtain ⟨c, about, rfl, ranPassed⟩ := A.ran ran
  rw [Node.dispatched_ending _ event] at ended
  cases failure : c.behaviour.fault? limit with
  | none =>
    rw [failure] at ended
    obtain ⟨rfl, rfl⟩ := ended
    exact ⟨[c], .well event about failure, A.append passed ranPassed⟩
  | some fault =>
    rw [failure] at ended
    obtain ⟨_, v, ⟨_, rfl⟩, ended⟩ := A.ends_bind.mp ended
    obtain ⟨_, w, told, rfl, rfl⟩ := A.ends_bind.mp ended
    obtain ⟨e, toldAbout, toldPassed⟩ := A.told told
    refine ⟨[c, e], .badly event about failure toldAbout,
      A.append passed (A.append ranPassed (A.append (l := []) ?_ toldPassed))⟩
    exact A.record ..

/-- A fault from outside is told to the handler. -/
theorem faulted {fault : SessionFault}
    (known : handlers.handler? ((A.node s).session r).path = some h)
    (ended : (A.lift (Node.dispatchError handlers limit r fault)).Ends X s () s') :
    ∃ l, Handled h limit r (.error fault) l (.ok ()) ∧ A.Passed s l s' := by
  obtain ⟨found, t, sought, ended⟩ := A.ends_bind.mp ended
  obtain ⟨rfl, passed⟩ := A.found sought
  rw [known] at ended
  obtain ⟨e, about, toldPassed⟩ := A.told ended
  exact ⟨[e], .told about, A.append passed toldPassed⟩

end Attendance

namespace Node

variable {r : SessionRef} {s s' : Scene} {play : Play r} {handlers : Handlers} {h : Handler}
  {limit : Nat} {o : Occasion}

/-- A stage is an attendance with nothing but callbacks. -/
def stageAttendance (play : Play r) : Attendance play.stage r where
  node := Scene.node
  setNode n s := { s with node := n }
  ask q := q
  back _ a := a
  Passed := Played r
  refl s := .of_untouched (.refl s.node)
  append := .append
  path passed := passed.path
  record _ _ := .of_untouched ⟨rfl, rfl⟩
  passes same := same ▸ .of_untouched (.refl _)
  serves served := by
    obtain ⟨rfl, rfl⟩ := served
    exact ⟨_, ⟨rfl, rfl, rfl, rfl⟩, rfl, rfl, ⟨.refl _, rfl, rfl⟩, play.path ..⟩

theorem ends_onStage_bind {α β : Type} {p : HubProgram α} {f : α → HubProgram β} {b : β} :
    (onStage (p >>= f)).Ends play.stage s b s' ↔
      ∃ a t, (onStage p).Ends play.stage s a t ∧ (onStage (f a)).Ends play.stage t b s' :=
  (stageAttendance play).ends_bind

/-- **One dispatch** to a handler. -/
theorem dispatchAny_played {a : Dispatched} (known : handlers.handler? (s.node.session r).path = some h)
    (ended : (onStage (dispatchAny handlers limit r o)).Ends play.stage s a s') :
    ∃ l, Handled h limit r o l a ∧ Played r s l s' := by
  have event : (o.event ≠ .error ∧ dispatchAny handlers limit r o = dispatch handlers limit r o) ∨
      ∃ fault, o = .error fault := by
    cases o with
    | error fault => exact .inr ⟨fault, rfl⟩
    | opened | message | closed => exact .inl ⟨nofun, rfl⟩
  rcases event with ⟨event, same⟩ | ⟨fault, rfl⟩
  · rw [same] at ended
    exact (stageAttendance play).dispatched event known ended
  · obtain ⟨_, t, ended, rfl, rfl⟩ := ends_onStage_bind.mp ended
    exact (stageAttendance play).faulted known ended

/-- One dispatch that finds no handler. -/
theorem dispatchAny_unhandled {a : Dispatched}
    (unknown : handlers.handler? (s.node.session r).path = none)
    (ended : (onStage (dispatchAny handlers limit r o)).Ends play.stage s a s') :
    a = unhandled o ∧ Played r s [] s' := by
  have found : ∀ {t : Scene} {found : Option Handler},
      (onStage (handlerFor handlers r)).Ends play.stage s found t → found = none ∧ Played r s [] t := by
    intro t found sought
    obtain ⟨rfl, played⟩ := (stageAttendance play).found sought
    exact ⟨unknown, played⟩
  cases o with
  | error fault =>
    obtain ⟨_, t, ended, rfl, rfl⟩ := ends_onStage_bind.mp ended
    obtain ⟨_, u, sought, ended⟩ := ends_onStage_bind.mp ended
    obtain ⟨rfl, played⟩ := found sought
    obtain ⟨_, rfl⟩ := ended
    exact ⟨rfl, played⟩
  | opened | message | closed =>
    obtain ⟨_, u, sought, ended⟩ := ends_onStage_bind.mp ended
    obtain ⟨rfl, played⟩ := found sought
    obtain ⟨rfl, rfl⟩ := ended
    exact ⟨rfl, played⟩

/-- Dispatches, one after another. -/
theorem dispatchAll_played {os : List Occasion} {as : List Dispatched}
    (ended : (onStage (dispatchAll handlers limit r os)).Ends play.stage s as s') :
    ∃ l, Played r s l s' ∧ match handlers.handler? (s.node.session r).path with
      | some h => HandledAll h limit r os l as
      | none => l = [] ∧ as = os.map unhandled := by
  induction os generalizing s as s' with
  | nil =>
    obtain ⟨rfl, same⟩ := ended
    subst same
    refine ⟨[], .of_untouched (.refl _), ?_⟩
    cases handlers.handler? (s'.node.session r).path with
    | some h => exact .nil
    | none => exact ⟨rfl, rfl⟩
  | cons o os ih =>
    obtain ⟨a, t, first, ended⟩ := ends_onStage_bind.mp ended
    obtain ⟨as', _, rest, rfl, rfl⟩ := ends_onStage_bind.mp ended
    cases known : handlers.handler? (s.node.session r).path with
    | some h =>
      obtain ⟨l, handled, played⟩ := dispatchAny_played known first
      obtain ⟨l', played', all⟩ := ih rest
      rw [played.path, known] at all
      exact ⟨l ++ l', played.append played', .cons handled all⟩
    | none =>
      obtain ⟨rfl, played⟩ := dispatchAny_unhandled known first
      obtain ⟨l', played', all⟩ := ih rest
      rw [played.path, known] at all
      obtain ⟨rfl, rfl⟩ := all
      exact ⟨[], played.append played', rfl, rfl⟩

/-- Occasions on a path are dispatched to the handler that the path was routed to last. -/
theorem dispatchAll_routed {path : String} {os : List Occasion} {as : List Dispatched}
    (here : (s.node.session r).path = path)
    (ended : (onStage (dispatchAll (handlers.route path h) limit r os)).Ends play.stage s as s') :
    ∃ l, s'.callbacks = s.callbacks ++ l ∧ HandledAll h limit r os l as := by
  obtain ⟨l, played, all⟩ := dispatchAll_played ended
  rw [here, Handlers.handler?_route] at all
  exact ⟨l, played.callbacks, all⟩

end Node

end SessionHub
