import SessionHub.Connection.Reader
import SessionHub.Proofs.Hub.Callbacks
import SessionHub.Proofs.Hub.Programs
import SessionHub.Proofs.Registry

/-!
# What arrives from a client drives its callbacks

A client's items come in as they come, and the reader turns each of them into callbacks of the session's
handler, or into none; at the first that ends the connection it tears the session down and reads no
further.

The theorem is about a session that nobody else closes or removes, which its handler leaves open too
(`Spares`). Everything else may happen while the reader waits: other sessions come and go, frames are
sent, the store fails. What the handler does in each callback is left open as well. A dispatch is known
from wherever callbacks are run (`Attendance`); a round of the reader is one dispatch, or one and the
tear-down (`round_ends`); and a whole reading is its rounds one after another.
-/

namespace SessionHub.Connection

/-! ## What leaves a session alone -/

/-- What may happen to a node while a session lasts: it stays open or closed, registered or not, and its
name, its path, the handlers and their time limit stay. -/
structure Spares (r : SessionRef) (n n' : Node) : Prop where
  handlers : n'.handlers = n.handlers
  limit : n'.config.handlerTimeout = n.config.handlerTimeout
  there : r < n.floor.sessions.size → r < n'.floor.sessions.size
  id : (n'.session r).id = (n.session r).id
  path : (n'.session r).path = (n.session r).path
  finished : (n'.session r).finished = (n.session r).finished
  closed : (n'.session r).outbox.closed = (n.session r).outbox.closed
  entry : n'.floor.table (n.session r).id = n.floor.table (n.session r).id

variable {r : SessionRef} {n n' n'' : Node}

namespace Spares

theorem refl (r : SessionRef) (n : Node) : Spares r n n :=
  ⟨rfl, rfl, fun there => there, rfl, rfl, rfl, rfl, rfl⟩

theorem trans (h : Spares r n n') (h' : Spares r n' n'') : Spares r n n'' where
  handlers := h'.handlers.trans h.handlers
  limit := h'.limit.trans h.limit
  there there := h'.there (h.there there)
  id := h'.id.trans h.id
  path := h'.path.trans h.path
  finished := h'.finished.trans h.finished
  closed := h'.closed.trans h.closed
  entry := by
    have entry := h'.entry
    rw [h.id] at entry
    exact entry.trans h.entry

theorem of_still (still : n.floor.Still n'.floor) (handlers : n'.handlers = n.handlers)
    (config : n'.config = n.config) : Spares r n n' := by
  have same : n'.session r = n.session r := by
    show n'.floor.session r = n.floor.session r
    rw [Floor.session, still.1]
    rfl
  refine ⟨handlers, by rw [config], fun there => by rw [still.1]; exact there, ?_, ?_, ?_, ?_, ?_⟩
  · rw [same]
  · rw [same]
  · rw [same]
  · rw [same]
  · rw [Floor.table, Floor.table, still.2]

theorem record (r : SessionRef) (change : Journal → Journal) (n : Node) : Spares r n (n.record change) :=
  of_still ⟨rfl, rfl⟩ rfl rfl

theorem touch (r : SessionRef) (n : Node) : Spares r n { n with floor := n.floor.touch r } := by
  have there : r < n.floor.sessions.size → r < (n.floor.touch r).sessions.size := fun there => by
    rw [Floor.touch, Floor.size_modifySession]
    exact there
  have touched : (n.floor.touch r).session r = (n.session r).touch n.floor.now ∨
      (n.floor.touch r).session r = n.session r := by
    rw [Floor.touch, Floor.session_modifySession]
    split
    · exact .inl rfl
    · exact .inr rfl
  rcases touched with touched | touched
  all_goals exact ⟨rfl, rfl, there, (congrArg Session.id touched :), (congrArg Session.path touched :),
    (congrArg Session.finished touched :), (congrArg (·.outbox.closed) touched :), rfl⟩

theorem storeSucceeded (r : SessionRef) (n : Node) : Spares r n n.storeSucceeded := by
  unfold Node.storeSucceeded
  split
  · exact of_still ⟨rfl, rfl⟩ rfl rfl
  · exact refl r n

theorem storeFailed (r : SessionRef) (op : String) (fault : StoreFault) (n : Node) :
    Spares r n (n.storeFailed op fault) := by
  unfold Node.storeFailed
  dsimp only
  split
  · exact of_still ⟨rfl, rfl⟩ rfl rfl
  · exact of_still ⟨rfl, rfl⟩ rfl rfl

end Spares

/-- **How a session stands** that the reader serves: its handler and the handler's time limit, whether it
is closed, whether its end was claimed, and who is registered under its name. -/
structure Hosts (h : Handler) (limit : Nat) (r : SessionRef) (closed finished : Bool)
    (entry : Option SessionRef) (n : Node) : Prop where
  handler : n.handlers.handler? (n.session r).path = some h
  limit : n.config.handlerTimeout = limit
  there : r < n.floor.sessions.size
  finished : (n.session r).finished = finished
  closed : (n.session r).outbox.closed = closed
  entry : n.floor.table (n.session r).id = entry

variable {h : Handler} {limit : Nat} {closed finished : Bool} {entry : Option SessionRef}

theorem Hosts.spares (hosts : Hosts h limit r closed finished entry n) (spares : Spares r n n') :
    Hosts h limit r closed finished entry n' where
  handler := by
    rw [spares.handlers, spares.path]
    exact hosts.handler
  limit := spares.limit.trans hosts.limit
  there := spares.there hosts.there
  finished := spares.finished.trans hosts.finished
  closed := spares.closed.trans hosts.closed
  entry := by
    rw [spares.id]
    exact spares.entry.trans hosts.entry

/-! ## The reader and what surrounds it -/

/-- What a handler does that leaves its session alone. -/
structure PolitePlay (r : SessionRef) extends Play r where
  spares : ∀ past h r' o n, Spares r n (act past h r' o n).2

/-- A node, the callbacks that were run, and what the reader has not read yet. -/
structure Reception where
  node : Node
  callbacks : List Callback := []
  unread : List Socket.Incoming

namespace Reception

def setNode (node : Node) (s : Reception) : Reception := { s with node }

/-- What lies between two points at which nothing is read, with the callbacks that were run there. -/
structure Passed (r : SessionRef) (s : Reception) (l : List Callback) (t : Reception) : Prop where
  spares : Spares r s.node t.node
  callbacks : t.callbacks = s.callbacks ++ l
  unread : t.unread = s.unread

variable {s t u : Reception} {l l' : List Callback}

theorem Passed.append (h : Passed r s l t) (h' : Passed r t l' u) : Passed r s (l ++ l') u where
  spares := h.spares.trans h'.spares
  callbacks := by rw [h'.callbacks, h.callbacks, List.append_assoc]
  unread := h'.unread.trans h.unread

theorem Passed.of_spares {n : Node} (spares : Spares r s.node n) : Passed r s [] (s.setNode n) :=
  ⟨spares, (List.append_nil _).symm, rfl⟩

end Reception

/-- **What surrounds the reader** of a session: while it waits, all that leaves the session alone may
happen. The store answers as it likes, the handler does what it does, the socket has the next item, and
the writer comes to its end if the session is closed. -/
def surroundings (play : PolitePlay r) : Surroundings Reception ReaderAsk ReaderAsk.Answer where
  passes s t := s.Passed r [] t
  serves
    | .hub (.callback h limit r' o), s, ending, t =>
      let (behaviour, after) := play.act s.callbacks h r' o s.node
      ending = behaviour.ending ∧ t = { s with
        node := after
        callbacks := s.callbacks ++ [⟨h, limit, r', o, behaviour, s.node, after⟩] }
    | .hub _, s, _, t => t = s
    | .next r', s, next, t =>
      match (next : Option Socket.Incoming) with
      | some item => s.unread = item :: t.unread ∧ t.node = s.node ∧ t.callbacks = s.callbacks
      | none => (s.node.session r').outbox.closed = true ∧ t = s
    | .writerOver, s, _, t => (s.node.session r).outbox.closed = true ∧ t = s

/-- A program of the reader, with what surrounds it. -/
def onReception {α : Type} (p : ReaderProgram α) : Program Reception ReaderAsk ReaderAsk.Answer α :=
  p.embed Reception.node Reception.setNode Program.ask

variable {play : PolitePlay r} {s t : Reception}

/-- Callbacks are run where the reader is. -/
def attendance (play : PolitePlay r) : Attendance (surroundings play) r where
  node := Reception.node
  setNode := Reception.setNode
  ask := .hub
  back _ a := a
  Passed := Reception.Passed r
  refl s := .of_spares (.refl r s.node)
  append := .append
  path passed := passed.spares.path
  record change s := .of_spares (.record r change s.node)
  passes passed := passed
  serves served := by
    obtain ⟨rfl, rfl⟩ := served
    exact ⟨_, ⟨rfl, rfl, rfl, rfl⟩, rfl, play.spares .., rfl, rfl⟩

/-- A program of the hub inside the reader is in attendance. -/
theorem onReception_onHub {α : Type} (play : PolitePlay r) (p : HubProgram α) :
    onReception (onHub p) = (attendance play).lift p := by
  unfold onReception onHub Attendance.lift
  induction p with
  | done a => rfl
  | look next ih => exact congrArg Program.look (funext fun t => ih t.node)
  | put n next ih => exact congrArg Program.look (funext fun t => congrArg (Program.put _) ih)
  | call q resume ih => exact congrArg (Program.call (ReaderAsk.hub q)) (funext ih)

theorem ends_onReception_bind {α β : Type} {X : Surroundings Reception ReaderAsk ReaderAsk.Answer}
    {p : ReaderProgram α} {f : α → ReaderProgram β} {b : β} :
    (onReception (p >>= f)).Ends X s b t ↔
      ∃ a u, (onReception p).Ends X s a u ∧ (onReception (f a)).Ends X u b t := by
  rw [onReception, Program.embed_bind]
  exact Program.ends_bind

/-- A program of the hub always comes to an end. -/
theorem exists_hub_ends {α : Type} (play : PolitePlay r) (p : HubProgram α) (s : Reception) :
    ∃ a t, (onReception (onHub p)).Ends (surroundings play) s a t := by
  have answered : ∀ (q : HubAsk) (s : Reception), ∃ a t, (surroundings play).serves (.hub q) s a t := by
    intro q s
    match q with
    | .callback .. => exact ⟨_, _, rfl, rfl⟩
    | .cluster (.store _) => exact ⟨.error (.unavailable ""), s, rfl⟩
    | .cluster (.together _) => exact ⟨(0 : Nat), s, rfl⟩
    | .jobs .. => exact ⟨true, s, rfl⟩
  induction p generalizing s with
  | done a => exact ⟨a, s, rfl, rfl⟩
  | look next ih => exact ih s.node s
  | put n next ih => exact ih (s.setNode n)
  | call q resume ih =>
    obtain ⟨a, t, served⟩ := answered q s
    obtain ⟨b, u, ended⟩ := ih a t
    exact ⟨b, u, s, a, t, .of_spares (.refl r s.node), served, ended⟩

/-! ## What the hub does for the reader -/

section Hub

open Reception

variable {text : String} {fault : SessionFault}

/-- A call to the store leaves a session alone, whatever it is answered. -/
theorem guarded_ends {op : String} {call : StoreCall} {reply : Option call.Reply}
    (ended : ((attendance play).lift (Node.asHub (Node.guarded op call))).Ends (surroundings play) s reply t) :
    Passed r s [] t := by
  obtain ⟨u, answer, v, passed, rfl, ended⟩ := ended
  cases answer with
  | ok reply =>
    obtain ⟨_, rfl⟩ := ended
    exact passed.append (.of_spares (.storeSucceeded r _))
  | error fault =>
    obtain ⟨_, rfl⟩ := ended
    exact passed.append (.of_spares (.storeFailed r op fault _))

/-- To write or to delete a route leaves a session alone. -/
theorem route_ends {op : String} {call : Node → StoreCall} {done : Bool}
    (ended : ((attendance play).lift (Node.asHub (do
      let n ← Program.get
      let reply ← Node.guarded op (call n)
      return reply.isSome))).Ends (surroundings play) s done t) : Passed r s [] t := by
  rw [Node.asHub_bind, (attendance play).ends_bind] at ended
  obtain ⟨n, u, ⟨rfl, rfl⟩, ended⟩ := ended
  rw [Node.asHub_bind, (attendance play).ends_bind] at ended
  obtain ⟨reply, v, called, rfl, rfl⟩ := ended
  exact guarded_ends called

/-- What a node does in its cluster only if it has one. -/
theorem optional_ends {α : Type} (work : ClusterProgram Bool) {rest : Unit → HubProgram α} {b : Bool} {a : α}
    (spared : ∀ {s t : Reception} {done : Bool},
      ((attendance play).lift (Node.asHub work)).Ends (surroundings play) s done t → Passed r s [] t)
    (ended : ((attendance play).lift (if b then discard (Node.asHub work) >>= rest else rest ())).Ends
      (surroundings play) s a t) :
    ∃ u, Passed r s [] u ∧ ((attendance play).lift (rest ())).Ends (surroundings play) u a t := by
  cases b with
  | false => exact ⟨s, (attendance play).refl s, ended⟩
  | true =>
    obtain ⟨_, u, discarded, ended⟩ := (attendance play).ends_bind.mp ended
    obtain ⟨done, _, worked, _, rfl⟩ := (attendance play).ends_bind.mp discarded
    exact ⟨_, spared worked, ended⟩

/-- An occasion is dispatched to the session's handler. -/
theorem dispatch_ends {o : Occasion} {a : Dispatched} (event : o.event ≠ .error)
    (hosts : Hosts h limit r closed finished entry n) (spares : Spares r n s.node)
    (ended : ((attendance play).lift (Node.dispatch n.handlers n.config.handlerTimeout r o)).Ends
      (surroundings play) s a t) : ∃ l, Handled h limit r o l a ∧ Passed r s l t := by
  have known : n.handlers.handler? (s.node.session r).path = some h := by
    rw [spares.path]
    exact hosts.handler
  rw [hosts.limit] at ended
  exact (attendance play).dispatched event known ended

/-- A message is one dispatch. -/
theorem message_ends (hosts : Hosts h limit r closed finished entry s.node)
    (ended : ((attendance play).lift (Node.message r text)).Ends (surroundings play) s () t) :
    ∃ l a, Handled h limit r (.message text) l a ∧ Passed r s l t := by
  obtain ⟨_, _, ⟨_, rfl⟩, ended⟩ := (attendance play).ends_bind.mp ended
  obtain ⟨_, _, ⟨rfl, rfl⟩, ended⟩ := (attendance play).ends_bind.mp ended
  obtain ⟨a, _, dispatched, _, rfl⟩ := (attendance play).ends_bind.mp ended
  have touched : Passed r s [] (s.setNode { s.node with floor := s.node.floor.touch r }) :=
    .of_spares (.touch r s.node)
  obtain ⟨l, handled, passed⟩ :=
    dispatch_ends (by simp [Occasion.event]) (hosts.spares touched.spares) (.refl r _) dispatched
  exact ⟨l, a, handled, touched.append passed⟩

/-- A fault is told to the handler. -/
theorem fault_ends (hosts : Hosts h limit r closed finished entry s.node)
    (ended : ((attendance play).lift (Node.fault r fault)).Ends (surroundings play) s () t) :
    ∃ l, Handled h limit r (.error fault) l (.ok ()) ∧ Passed r s l t := by
  obtain ⟨_, u, ⟨_, same⟩, ended⟩ := (attendance play).ends_bind.mp ended
  have noted : Passed r s [] u := by
    rw [same]
    exact .of_spares (.record r _ s.node)
  obtain ⟨_, v, ⟨rfl, rfl⟩, ended⟩ := (attendance play).ends_bind.mp ended
  have hosts := hosts.spares noted.spares
  rw [show ((attendance play).node v).config.handlerTimeout = limit from hosts.limit] at ended
  obtain ⟨l, handled, passed⟩ := (attendance play).faulted hosts.handler ended
  exact ⟨l, handled, noted.append passed⟩

/-- Who is let in is open, and registered under its name. -/
theorem hosts_enrol {path : String} {handshake : Handshake} {outbox : Outbox}
    (known : n.handlers.handler? path = some h) (opened : outbox.closed = false)
    (entered : (n.enrol path handshake outbox).1 = .ok r) :
    Hosts h n.config.handlerTimeout r false false (some r) (n.enrol path handshake outbox).2 := by
  let s := Session.opening (.fresh (n.named + 1)) path n.id handshake outbox n.floor.now
  let placed : Floor := { n.floor with sessions := n.floor.sessions.push s }
  have here : placed.session n.floor.sessions.size = s := by
    simp [Floor.session, placed, Array.getD_eq_getD_getElem?]
  by_cases free : placed.table (placed.session n.floor.sessions.size).id = none
  · have free' : placed.roster.lookup s.id = none := by
      rw [here] at free
      exact free
    have registered := Floor.register_of_unknown free
    have enrolled : n.enrol path handshake outbox = (.ok n.floor.sessions.size,
        { n with
          named := n.named + 1
          floor := { placed with roster := placed.roster ++ [(s.id, n.floor.sessions.size)] }.record
            fun j => (j.count .connectionsOpened).count .connectionsActive }) := by
      unfold Node.enrol
      dsimp only [Floor.place]
      rw [show Floor.register n.floor.sessions.size placed = _ from registered, here]
    rw [enrolled] at entered ⊢
    obtain rfl := Except.ok.inj entered
    have here : Node.session { n with
        named := n.named + 1
        floor := { placed with roster := placed.roster ++ [(s.id, n.floor.sessions.size)] }.record
          fun j => (j.count .connectionsOpened).count .connectionsActive } n.floor.sessions.size = s := here
    refine ⟨?_, rfl, ?_, ?_, ?_, ?_⟩
    · rw [here]
      exact known
    · show n.floor.sessions.size < (n.floor.sessions.push s).size
      rw [Array.size_push]
      exact Nat.lt_succ_self _
    · rw [here]
      rfl
    · rw [here]
      exact opened
    · rw [here]
      show (placed.roster ++ [(s.id, n.floor.sessions.size)]).lookup s.id = _
      rw [List.lookup_append, free']
      simp
  · have refused : placed.register n.floor.sessions.size = (.error (.duplicate s.id), _) :=
      Prod.ext (here ▸ (Floor.register_of_known free).1) rfl
    unfold Node.enrol at entered
    dsimp only [Floor.place] at entered
    rw [show Floor.register n.floor.sessions.size placed = _ from refused] at entered
    exact absurd entered (by simp)

/-- **Admission**: the handler is told that the session has opened. -/
theorem accept_ends {path : String} {handshake : Handshake} {outbox : Outbox} (opened : outbox.closed = false)
    (ended : ((attendance play).lift (Node.accept path handshake outbox)).Ends (surroundings play) s (.ok r) t) :
    ∃ h l a, s.node.handlers.handler? path = some h ∧
      Handled h s.node.config.handlerTimeout r .opened l a ∧
      t.callbacks = s.callbacks ++ l ∧ t.unread = s.unread ∧
      Hosts h s.node.config.handlerTimeout r false false (some r) t.node := by
  obtain ⟨_, s, ⟨rfl, rfl⟩, ended⟩ := (attendance play).ends_bind.mp ended
  cases refused : ((attendance play).node s).refusal? path with
  | some refusal =>
    rw [refused] at ended
    obtain ⟨_, _, _, wrong, _⟩ := (attendance play).ends_bind.mp ended
    exact absurd wrong (by simp)
  | none =>
    rw [refused] at ended
    obtain ⟨entered, u, ⟨outcome, same⟩, ended⟩ := (attendance play).ends_bind.mp ended
    cases entered with
    | error refusal =>
      obtain ⟨wrong, _⟩ := ended
      exact absurd wrong (by simp)
    | ok r' =>
      obtain ⟨_, v, ⟨rfl, rfl⟩, ended⟩ := (attendance play).ends_bind.mp ended
      obtain ⟨w, passed, ended⟩ := optional_ends (Node.writeRoute path _) route_ends ended
      obtain ⟨_, x, told, done, rfl⟩ := (attendance play).ends_bind.mp ended
      obtain rfl := Except.ok.inj done
      obtain ⟨a, _, dispatched, _, rfl⟩ := (attendance play).ends_bind.mp told
      obtain ⟨h, known⟩ := Option.isSome_iff_exists.mp (Node.refusal?_eq_none refused).2
      have hosts : Hosts h s.node.config.handlerTimeout r false false (some r) v.node := by
        rw [same]
        exact hosts_enrol known opened outcome.symm
      obtain ⟨l, handled, passed'⟩ := dispatch_ends (by simp [Occasion.event]) hosts passed.spares dispatched
      have both := passed.append passed'
      refine ⟨h, l, a, known, handled, ?_, ?_, hosts.spares both.spares⟩
      · rw [both.callbacks, same]
        rfl
      · rw [both.unread, same]
        rfl

/-- A session that is closed is what it was otherwise. -/
theorem Hosts.close (hosts : Hosts h limit r closed finished entry n) :
    Hosts h limit r true finished entry { n with floor := n.floor.close r } := by
  have here : Node.session { n with floor := n.floor.close r } r = (n.session r).close := by
    refine (Floor.session_modifySession ..).trans ?_
    rw [if_pos ⟨rfl, hosts.there⟩]
    rfl
  refine ⟨?_, hosts.limit, ?_, ?_, ?_, ?_⟩
  · rw [here]
    exact hosts.handler
  · show r < (n.floor.close r).sessions.size
    rw [Floor.close, Floor.size_modifySession]
    exact hosts.there
  · rw [here]
    exact hosts.finished
  · rw [here]
    rfl
  · rw [here]
    exact hosts.entry

/-- Whose end is claimed for the first time is closed, and nobody is registered under its name. -/
theorem Hosts.claim (hosts : Hosts h limit r closed false (some r) n) :
    ∃ n', n.claim r = (true, n') ∧ Hosts h limit r true true none n' := by
  let marked := n.floor.modifySession r fun s => { s with finished := true }
  have here : marked.session r = { n.session r with finished := true } := by
    refine (Floor.session_modifySession ..).trans ?_
    rw [if_pos ⟨rfl, hosts.there⟩]
    rfl
  have found : marked.get? (n.session r).path (n.session r).id = some r := by
    unfold Floor.get?
    rw [show marked.roster.lookup (n.session r).id = some r from hosts.entry]
    simp [here]
  let struck : Node := { n with
    floor := { marked with roster := marked.roster.filter (·.1 != (n.session r).id) } }
  have claimed : n.claim r = (true, { n with floor := (struck.floor.close r).close r }) := by
    simp only [Node.claim, hosts.finished]
    rw [if_neg Bool.false_ne_true]
    rw [Floor.remove, show Floor.get? _ _ (n.floor.modifySession r _) = some r from found]
  have here : struck.session r = { n.session r with finished := true } := here
  have off : Hosts h limit r closed true none struck := by
    refine ⟨?_, hosts.limit, ?_, ?_, ?_, ?_⟩
    · rw [here]
      exact hosts.handler
    · show r < marked.sessions.size
      rw [Floor.size_modifySession]
      exact hosts.there
    · rw [here]
    · rw [here]
      exact hosts.closed
    · rw [here]
      show (marked.roster.filter (·.1 != (n.session r).id)).lookup (n.session r).id = none
      refine List.lookup_eq_none_iff.mpr fun e among => ?_
      have other := (List.mem_filter.mp among).2
      simpa [bne_iff_ne, ne_comm] using other
  exact ⟨_, claimed, off.close.close⟩

/-- **The tear-down** of a session whose end nobody has claimed: the handler is told that it has closed. -/
theorem disconnect_ends (hosts : Hosts h limit r closed false (some r) s.node)
    (ended : ((attendance play).lift (Node.disconnect r)).Ends (surroundings play) s () t) :
    ∃ l a, Handled h limit r .closed l a ∧ t.callbacks = s.callbacks ++ l ∧ t.unread = s.unread ∧
      Hosts h limit r true true none t.node := by
  obtain ⟨n', claimed, gone⟩ := hosts.claim
  obtain ⟨first, u, ⟨yes, same⟩, ended⟩ := (attendance play).ends_bind.mp ended
  rw [show (attendance play).node s = s.node from rfl, claimed] at yes same
  subst yes
  have gone : Hosts h limit r true true none u.node := by
    rw [same]
    exact gone
  obtain ⟨_, v, ⟨rfl, rfl⟩, ended⟩ := (attendance play).ends_bind.mp ended
  obtain ⟨w, passed, ended⟩ := optional_ends (Node.forgetRoute _ _) route_ends ended
  obtain ⟨_, x, ⟨_, counted⟩, ended⟩ := (attendance play).ends_bind.mp ended
  obtain ⟨a, _, dispatched, _, rfl⟩ := (attendance play).ends_bind.mp ended
  have passed : Passed r v [] x := by
    rw [counted]
    exact passed.append ((attendance play).record _ w)
  obtain ⟨l, handled, passed'⟩ := dispatch_ends (by simp [Occasion.event]) gone passed.spares dispatched
  have both := passed.append passed'
  refine ⟨l, a, handled, ?_, ?_, gone.spares both.spares⟩
  · rw [both.callbacks, same]
    rfl
  · rw [both.unread, same]
    rfl

end Hub

/-! ## What a stretch of reading comes to -/

/-- The occasions that an item gives. -/
def occasions : Socket.Incoming → List Occasion
  | .frame (.text text) => [.message text]
  | .frame (.binary octets) =>
    match Text.utf8? octets with
    | some text => [.message text]
    | none => [.error (.protocol "binary frame is not UTF-8")]
  | .fault reason => [.error (.protocol reason)]
  | .frame (.ping _) | .frame (.pong _) | .frame (.close _) | .ended => []

/-- Whether nothing is read behind an item. -/
def isLast : Socket.Incoming → Bool
  | .frame (.close _) | .fault _ | .ended => true
  | _ => false

/-- **What the reader does from one point to another**: it reads some items, and runs what callbacks
some occasions come to, and no others. -/
structure Drives (h : Handler) (limit : Nat) (r : SessionRef) (items : List Socket.Incoming)
    (os : List Occasion) (s t : Reception) : Prop where
  unread : s.unread = items ++ t.unread
  callbacks : ∃ l as, t.callbacks = s.callbacks ++ l ∧ HandledAll h limit r os l as

section Reading

variable {items items' : List Socket.Incoming} {item : Socket.Incoming} {os os' : List Occasion}
  {o : Occasion} {l : List Callback} {a : Dispatched} {u : Reception} {e : Round}

theorem Drives.append (drives : Drives h limit r items os s t) (drives' : Drives h limit r items' os' t u) :
    Drives h limit r (items ++ items') (os ++ os') s u := by
  obtain ⟨unread, l, as, callbacks, all⟩ := drives
  obtain ⟨unread', l', as', callbacks', all'⟩ := drives'
  refine ⟨by rw [unread, unread', List.append_assoc], l ++ l', as ++ as', ?_, all.append all'⟩
  rw [callbacks', callbacks, List.append_assoc]

theorem Drives.of_handled (handled : Handled h limit r o l a) (callbacks : t.callbacks = s.callbacks ++ l)
    (unread : t.unread = s.unread) : Drives h limit r [] [o] s t :=
  ⟨unread.symm, l, [a], callbacks, List.append_nil l ▸ .cons handled .nil⟩

theorem Drives.of_same (callbacks : t.callbacks = s.callbacks) (unread : s.unread = items ++ t.unread) :
    Drives h limit r items [] s t :=
  ⟨unread, [], [], callbacks.trans (List.append_nil _).symm, .nil⟩

/-- The reader's end: the session is torn down. -/
theorem endReader_ends (hosts : Hosts h limit r closed false (some r) s.node)
    (ended : (onReception (endReader r)).Ends (surroundings play) s e t) :
    e = .finished .null ∧ Drives h limit r [] [.closed] s t ∧ Hosts h limit r true true none t.node := by
  obtain ⟨_, u, ⟨_, rfl⟩, ended⟩ := ends_onReception_bind.mp ended
  obtain ⟨_, v, ⟨w, _, _, passed, ⟨_, rfl⟩, _, rfl⟩, ended⟩ := ends_onReception_bind.mp ended
  obtain ⟨_, _, disconnected, rfl, rfl⟩ := ends_onReception_bind.mp ended
  rw [onReception_onHub play] at disconnected
  obtain ⟨l, a, handled, callbacks, unread, gone⟩ :=
    disconnect_ends (hosts.close.spares passed.spares) disconnected
  exact ⟨rfl, .of_handled handled (callbacks.trans (congrArg (· ++ l) (passed.callbacks.trans (List.append_nil _))))
    (unread.trans passed.unread), gone⟩

theorem exists_endReader (play : PolitePlay r) (hosts : Hosts h limit r closed finished entry s.node) :
    ∃ e t, (onReception (endReader r)).Ends (surroundings play) s e t := by
  let u := s.setNode { s.node with floor := s.node.floor.close r }
  obtain ⟨_, v, disconnected⟩ := exists_hub_ends play (Node.disconnect r) u
  have joined : (onReception joinWriter).Ends (surroundings play) u () u :=
    ⟨u, (), u, .of_spares (.refl r u.node), ⟨hosts.close.closed, rfl⟩, rfl, rfl⟩
  exact ⟨.finished .null, v, ends_onReception_bind.mpr ⟨(), u, ⟨rfl, rfl⟩,
    ends_onReception_bind.mpr ⟨(), u, joined, ends_onReception_bind.mpr ⟨(), v, disconnected, rfl, rfl⟩⟩⟩⟩

/-- A binary item that is text is the same as a text. -/
theorem handle_binary_text {octets : List UInt8} {text : String} (decoded : Text.utf8? octets = some text) :
    handle r (.frame (.binary octets)) = handle r (.frame (.text text)) ∧
      occasions (.frame (.binary octets)) = occasions (.frame (.text text)) := by
  simp only [handle, occasions, decoded, and_self]

/-- A binary item that is no text is a fault, and not the end. -/
theorem handle_binary_fault {octets : List UInt8} (decoded : Text.utf8? octets = none) :
    handle r (.frame (.binary octets))
        = (onHub (Node.fault r (.protocol "binary frame is not UTF-8")) >>= fun _ => return .again) ∧
      occasions (.frame (.binary octets)) = [.error (.protocol "binary frame is not UTF-8")] := by
  simp only [handle, occasions, decoded, and_self]

/-- **What one item comes to**, with which some items are read: its occasions are dispatched, and after the
last item the session is torn down. -/
inductive Treated (h : Handler) (limit : Nat) (r : SessionRef) (items : List Socket.Incoming)
    (item : Socket.Incoming) (s t : Reception) : Round → Prop where
  | last (final : isLast item = true) (drives : Drives h limit r items (occasions item ++ [.closed]) s t)
      (gone : Hosts h limit r true true none t.node) : Treated h limit r items item s t (.finished .null)
  | more (onward : isLast item = false) (drives : Drives h limit r items (occasions item) s t)
      (stays : Hosts h limit r false false (some r) t.node) : Treated h limit r items item s t .again

theorem Treated.behind (read : Drives h limit r items [] s t) (treated : Treated h limit r items' item t u e) :
    Treated h limit r (items ++ items') item s u e := by
  cases treated with
  | last final drives gone => exact .last final (read.append drives) gone
  | more onward drives stays => exact .more onward (read.append drives) stays

theorem handle_ends (hosts : Hosts h limit r false false (some r) s.node)
    (ended : (onReception (handle r item)).Ends (surroundings play) s e t) :
    Treated h limit r [] item s t e := by
  have driven : ∀ {o l a} {u : Reception}, Handled h limit r o l a → s.Passed r l u →
      Drives h limit r [] [o] s u ∧ Hosts h limit r false false (some r) u.node :=
    fun handled passed => ⟨.of_handled handled passed.callbacks passed.unread, hosts.spares passed.spares⟩
  have spoken : ∀ {text}, (onReception (handle r (.frame (.text text)))).Ends (surroundings play) s e t →
      e = .again ∧ Drives h limit r [] [.message text] s t ∧
        Hosts h limit r false false (some r) t.node := by
    intro text ended
    obtain ⟨_, _, done, rfl, rfl⟩ := ends_onReception_bind.mp ended
    rw [onReception_onHub play] at done
    obtain ⟨l, a, handled, passed⟩ := message_ends hosts done
    exact ⟨rfl, driven handled passed⟩
  have torn : ∀ {item}, isLast item = true → occasions item = [] →
      (onReception (endReader r)).Ends (surroundings play) s e t → Treated h limit r [] item s t e := by
    intro item final none ended
    obtain ⟨rfl, drives, gone⟩ := endReader_ends hosts ended
    refine .last final ?_ gone
    rw [none]
    exact drives
  have told : ∀ {reason} {u : Reception}, (onReception (onHub (Node.fault r (.protocol reason)))).Ends
      (surroundings play) s () u →
      Drives h limit r [] [.error (.protocol reason)] s u ∧
        Hosts h limit r false false (some r) u.node := by
    intro reason u done
    rw [onReception_onHub play] at done
    obtain ⟨l, handled, passed⟩ := fault_ends hosts done
    exact driven handled passed
  cases item with
  | frame f =>
    cases f with
    | text text =>
      obtain ⟨rfl, drives, stays⟩ := spoken ended
      exact .more rfl drives stays
    | binary octets =>
      cases decoded : Text.utf8? octets with
      | some text =>
        rw [(handle_binary_text decoded).1] at ended
        obtain ⟨rfl, drives, stays⟩ := spoken ended
        refine .more rfl ?_ stays
        rw [(handle_binary_text (r := r) decoded).2]
        exact drives
      | none =>
        rw [(handle_binary_fault decoded).1] at ended
        obtain ⟨_, _, done, rfl, rfl⟩ := ends_onReception_bind.mp ended
        obtain ⟨drives, stays⟩ := told done
        refine .more rfl ?_ stays
        rw [(handle_binary_fault (r := r) decoded).2]
        exact drives
    | ping _ | pong _ =>
      obtain ⟨rfl, rfl⟩ := ended
      exact .more rfl (.of_same rfl rfl) hosts
    | close _ => exact torn rfl rfl ended
  | fault reason =>
    obtain ⟨_, u, done, ended⟩ := ends_onReception_bind.mp ended
    obtain ⟨drives, hosts⟩ := told done
    obtain ⟨rfl, drives', gone⟩ := endReader_ends hosts ended
    exact .last rfl (drives.append drives') gone
  | ended => exact torn rfl rfl ended

/-- Every item is dealt with. -/
theorem exists_handle (play : PolitePlay r) (hosts : Hosts h limit r false false (some r) s.node)
    (item : Socket.Incoming) : ∃ e t, (onReception (handle r item)).Ends (surroundings play) s e t := by
  have again : ∀ p : HubProgram Unit, ∃ e t,
      (onReception (onHub p >>= fun _ => (return .again : ReaderProgram Round))).Ends
        (surroundings play) s e t := by
    intro p
    obtain ⟨_, u, done⟩ := exists_hub_ends play p s
    exact ⟨.again, u, ends_onReception_bind.mpr ⟨(), u, done, rfl, rfl⟩⟩
  cases item with
  | frame f =>
    cases f with
    | text text => exact again (Node.message r text)
    | binary octets =>
      cases decoded : Text.utf8? octets with
      | some text =>
        rw [(handle_binary_text decoded).1]
        exact again (Node.message r text)
      | none =>
        rw [(handle_binary_fault decoded).1]
        exact again _
    | ping _ | pong _ => exact ⟨.again, s, rfl, rfl⟩
    | close _ => exact exists_endReader play hosts
  | fault reason =>
    obtain ⟨_, u, done⟩ := exists_hub_ends play (Node.fault r (.protocol reason)) s
    have spared := done
    rw [onReception_onHub play] at spared
    obtain ⟨_, _, passed⟩ := fault_ends hosts spared
    obtain ⟨e, t, ended⟩ := exists_endReader play (hosts.spares passed.spares)
    exact ⟨e, t, ends_onReception_bind.mpr ⟨(), u, done, ended⟩⟩
  | ended => exact exists_endReader play hosts

/-- **One round** of the reader is about the next item. -/
theorem round_ends (hosts : Hosts h limit r false false (some r) s.node)
    (ended : (onReception (readerRound r)).Ends (surroundings play) s e t) :
    ∃ item, Treated h limit r [item] item s t e := by
  obtain ⟨next, u, ⟨v, _, _, passed, served, rfl, rfl⟩, ended⟩ := ends_onReception_bind.mp ended
  have hosts := hosts.spares passed.spares
  cases next with
  | none => exact absurd (hosts.closed.symm.trans served.1) (by simp)
  | some item =>
    obtain ⟨unread, node, callbacks⟩ := served
    rw [← node] at hosts
    have read : Drives h limit r [item] [] s u :=
      .of_same (callbacks.trans (passed.callbacks.trans (List.append_nil _))) (passed.unread.symm.trans unread)
    exact ⟨item, (handle_ends hosts ended).behind read⟩

/-- **The reader goes on** as long as there is something to read. -/
theorem exists_round (play : PolitePlay r) (hosts : Hosts h limit r false false (some r) s.node)
    {rest : List Socket.Incoming} (next : s.unread = item :: rest) :
    ∃ e t, (onReception (readerRound r)).Ends (surroundings play) s e t ∧
      Treated h limit r [item] item s t e ∧ t.unread = rest := by
  let behind : Reception := { s with unread := rest }
  obtain ⟨e, t, ended⟩ := exists_handle play (s := behind) hosts item
  have asked : (onReception (Connection.next r)).Ends (surroundings play) s (some item) behind :=
    ⟨s, some item, behind, .of_spares (.refl r s.node), ⟨next, rfl, rfl⟩, rfl, rfl⟩
  have read : Drives h limit r [item] [] s behind := .of_same rfl next
  have treated := (handle_ends (s := behind) hosts ended).behind read
  refine ⟨e, t, ends_onReception_bind.mpr ⟨some item, behind, asked, ended⟩, treated, ?_⟩
  have unread : s.unread = item :: t.unread := by
    cases treated with
    | last _ drives _ => exact drives.unread
    | more _ drives _ => exact drives.unread
  exact (List.cons.inj (unread.symm.trans next)).2

/-! ## A whole reading -/

/-- Rounds of the reader, after each of which there is another. -/
def Rounds (play : PolitePlay r) : Reception → Reception → Prop :=
  Relation.ReflTransGen fun s t => (onReception (readerRound r)).Ends (surroundings play) s .again t

/-- Rounds deal with the items one after another. -/
theorem rounds_drive (hosts : Hosts h limit r false false (some r) s.node) (rounds : Rounds play s t) :
    ∃ items, (∀ item ∈ items, isLast item = false) ∧
      Drives h limit r items (items.flatMap occasions) s t ∧
      Hosts h limit r false false (some r) t.node := by
  induction rounds with
  | refl => exact ⟨[], by simp, .of_same rfl rfl, hosts⟩
  | tail _ round ih =>
    obtain ⟨items, unlast, drives, hosts⟩ := ih
    obtain ⟨item, treated⟩ := round_ends hosts round
    cases treated with
    | more onward drives' stays =>
      refine ⟨items ++ [item], ?_, ?_, stays⟩
      · simpa [or_imp, forall_and, onward] using unlast
      · rw [List.flatMap_append, List.flatMap_singleton]
        exact drives.append drives'

/-- Whatever there is to read is read, up to the first item that ends the connection. -/
theorem exists_rounds (play : PolitePlay r) (hosts : Hosts h limit r false false (some r) s.node)
    {rest : List Socket.Incoming} (unread : s.unread = items ++ item :: rest)
    (unlast : ∀ item ∈ items, isLast item = false) (last : isLast item = true) :
    ∃ u t, Rounds play s u ∧ (onReception (readerRound r)).Ends (surroundings play) u (.finished .null) t ∧
      t.unread = rest := by
  induction items generalizing s with
  | nil =>
    obtain ⟨_, t, round, treated, rest⟩ := exists_round play hosts unread
    cases treated with
    | last => exact ⟨s, t, .refl, round, rest⟩
    | more onward => exact absurd (last.symm.trans onward) (by simp)
  | cons first items ih =>
    obtain ⟨_, t, round, treated, rest⟩ := exists_round play hosts unread
    cases treated with
    | last final => exact absurd (final.symm.trans (unlast first List.mem_cons_self)) (by simp)
    | more _ _ stays =>
      obtain ⟨u, v, rounds, ended, done⟩ :=
        ih stays rest fun item among => unlast item (List.mem_cons_of_mem _ among)
      exact ⟨u, v, .head round rounds, ended, done⟩

/-- **What arrives from a client drives its callbacks.** A connection is admitted, nobody else closes or
removes its session, and its handler leaves it open as well. Then the handler has been told, at every point
between two rounds of the reader, that the session has opened, and of what was read so far, item by item
and in order, and of nothing else but its own failures. As long as there is something to read there is
another round. When the reader comes to its end, it has read up to the first item that ends the
connection; the handler was told at last that the session has closed, and the session is closed and off
the roster. And a connection with an item that ends it comes to such an end, with everything behind that
item unread. -/
theorem inflow_exact {path : String} {handshake : Handshake}
    (admitted : (onReception (admission path handshake)).Ends (surroundings play) s (.ok r) t) :
    ∃ h, s.node.handlers.handler? path = some h ∧
      (∀ u, Rounds play t u →
        (∃ items, (∀ item ∈ items, isLast item = false) ∧
          Drives h s.node.config.handlerTimeout r items (.opened :: items.flatMap occasions) s u) ∧
        (u.unread ≠ [] → ∃ e v, (onReception (readerRound r)).Ends (surroundings play) u e v) ∧
        ∀ e v, (onReception (readerRound r)).Ends (surroundings play) u e v → e ≠ .again →
          e = .finished .null ∧
          (∃ items last, (∀ item ∈ items, isLast item = false) ∧ isLast last = true ∧
            Drives h s.node.config.handlerTimeout r (items ++ [last])
              (.opened :: (items ++ [last]).flatMap occasions ++ [.closed]) s v) ∧
          (v.node.session r).outbox.closed = true ∧
          v.node.floor.roster.lookup (v.node.session r).id = none) ∧
      ∀ items last rest, s.unread = items ++ last :: rest → (∀ item ∈ items, isLast item = false) →
        isLast last = true → ∃ u v, Rounds play t u ∧
          (onReception (readerRound r)).Ends (surroundings play) u (.finished .null) v ∧
          v.unread = rest := by
  obtain ⟨_, _, ⟨rfl, rfl⟩, accepted⟩ := ends_onReception_bind.mp admitted
  rw [onReception_onHub play] at accepted
  obtain ⟨h, l, a, known, handled, callbacks, unread, hosts⟩ := accept_ends rfl accepted
  have opened := Drives.of_handled handled callbacks unread
  refine ⟨h, known, fun u rounds => ?_, fun items last rest split unlast ends => ?_⟩
  · obtain ⟨items, unlast, drives, hosts⟩ := rounds_drive hosts rounds
    refine ⟨⟨items, unlast, opened.append drives⟩, fun more => ?_, fun e v ended unlike => ?_⟩
    · obtain ⟨item, rest, next⟩ := List.exists_cons_of_ne_nil more
      obtain ⟨e, v, round, _⟩ := exists_round play hosts next
      exact ⟨e, v, round⟩
    · obtain ⟨last, treated⟩ := round_ends hosts ended
      cases treated with
      | more => exact absurd rfl unlike
      | last final drives' gone =>
        have order : .opened :: (items ++ [last]).flatMap occasions ++ [.closed]
            = [.opened] ++ (items.flatMap occasions ++ (occasions last ++ [.closed])) := by simp
        refine ⟨rfl, ⟨items, last, unlast, final, ?_⟩, gone.closed, gone.entry⟩
        rw [order]
        exact opened.append (drives.append drives')
  · exact exists_rounds play hosts (unread.trans split) unlast ends

/-- A handler that does nothing. -/
def idle (r : SessionRef) : PolitePlay r where
  act _ _ _ _ n := (.fine, n)
  path _ _ _ _ _ := rfl
  spares _ _ _ _ n := .refl r n

/-- A client that says something, sends octets that are no text, and closes; there is more behind that. -/
def visit : Reception where
  node := { id := ⟨"n1"⟩, handlers := [("/chat", .plain)] }
  unread := [.frame (.text "hi"), .frame (.binary [255]), .frame (.close none), .frame (.text "late")]

theorem inflow_exact_visit : ∃ t v : Reception,
    (onReception (admission "/chat" {})).Ends (surroundings (idle 0)) visit (.ok 0) t ∧
      v.unread = [.frame (.text "late")] ∧ (v.node.session 0).outbox.closed = true ∧
      Drives .plain visit.node.config.handlerTimeout 0
        [.frame (.text "hi"), .frame (.binary [255]), .frame (.close none)]
        [.opened, .message "hi", .error (.protocol "binary frame is not UTF-8"), .closed] visit v := by
  have admitted : ∃ t, (onReception (admission "/chat" {})).Ends (surroundings (idle 0)) visit (.ok 0) t :=
    ⟨_, _, _, _, .of_spares (.refl 0 _), ⟨rfl, rfl⟩, rfl, rfl⟩
  obtain ⟨t, admitted⟩ := admitted
  obtain ⟨h, known, points, complete⟩ := inflow_exact admitted
  obtain ⟨u, v, rounds, ended, unread⟩ := complete [.frame (.text "hi"), .frame (.binary [255])]
    (.frame (.close none)) [.frame (.text "late")] rfl (by simp [isLast]) rfl
  obtain ⟨_, _, visited⟩ := points u rounds
  obtain ⟨_, ⟨items, last, _, _, drives⟩, closed, _⟩ := visited _ v ended (by simp)
  have read := drives.unread
  rw [unread] at read
  have read : visit.unread.take 3 = items ++ [last] := List.append_cancel_right read
  rw [← read] at drives
  obtain rfl := Option.some.inj (show some .plain = some h from known)
  exact ⟨t, v, admitted, unread, closed, drives⟩

end Reading

end SessionHub.Connection
