import SessionHub.Proofs.Cluster.Site
import SessionHub.Proofs.Cluster.Upkeep
import SessionHub.Proofs.Delivery
import SessionHub.Proofs.Entries

/-!
# Renewals and departures

A renewal of routes has one job for every session that is registered when it begins, any number of them
side by side. A job looks for its session, writes its route and looks again; if the session has left
meanwhile, it deletes what it has written. Whoever departs is taken off the roster first and has its
route deleted then. So a route may be written behind a departed session's back, but never without
somebody who looks afterwards.

A **worksite** is a site with its jobs that are over. Its store does whatever it is asked, though not at
once: a call takes effect some time after it was made, and the answer comes back some time after that. A
renewal is told that its jobs are over, and counts those that came to a good end.

The programs of a worksite stand on one `Leg` after another of their way to the store and back, and what
they may put in place and ask on each leg is their conduct. It is told relative to a node as it was at
first, to which the present one is *kin*: it has the same name and keys, and sessions have come and gone.
-/

namespace SessionHub

namespace Floor

/-- Sessions come and go. Nobody who has left comes back, and who comes is named like nobody before. -/
structure Turnover (f f' : Floor) : Prop where
  listed : Listed f'
  size : f.sessions.size ≤ f'.sessions.size
  id : ∀ r < f.sessions.size, (f'.session r).id = (f.session r).id
  path : ∀ r < f.sessions.size, (f'.session r).path = (f.session r).path
  joins : ∀ r ∈ f'.registered, r ∈ f.registered ∨
    (f.sessions.size ≤ r ∧ ∀ r' < f.sessions.size, (f'.session r).id ≠ (f.session r').id)

theorem Turnover.of_aside {f f' : Floor} (listed : Listed f) (aside : Aside f f') : Turnover f f' where
  listed := listed.aside aside
  size := aside.size.ge
  id r _ := aside.id r
  path r _ := aside.path r
  joins _ here := .inl ((aside.roster.map _).subset here)

/-- Who was there and is registered still was registered before. -/
theorem Turnover.stayed {f f' : Floor} (h : Turnover f f') {r : SessionRef}
    (there : r < f.sessions.size) (here : r ∈ f'.registered) : r ∈ f.registered :=
  (h.joins r here).resolve_right fun new => absurd there (Nat.not_lt.mpr new.1)

end Floor

/-- A site, and the jobs that are over: their sessions, and whether they came to a good end. -/
structure Worksite where
  site : Site
  finished : List (SessionRef × Bool) := []

/-- A call to the store, on its way out or back, and the wait for some jobs to be over. -/
inductive Errand where
  | store (call : StoreCall)
  | back
  | gather (work : List RouteWork)
  deriving Repr

/-- A store that does whatever it is asked replies to it. -/
def Errand.Answer : Errand → Type
  | .store call => call.Reply
  | .back | .gather _ => Unit

/-- A program of a worksite. -/
abbrev WorksiteProgram (α : Type) := Program Worksite Errand Errand.Answer α

namespace Worksite

/-- The node of a worksite. -/
def node (w : Worksite) : Node := w.site.node

/-- Changes the node. -/
def setNode (n : Node) (w : Worksite) : Worksite := { w with site := w.site.setNode n }

/-- A call takes effect. -/
def land (call : StoreCall) (w : Worksite) : Worksite := { w with site := w.site.land call }

/-- A job is over. -/
def finish (r : SessionRef) (good : Bool) (w : Worksite) : Worksite :=
  { w with finished := w.finished ++ [(r, good)] }

/-- How many jobs came to a good end. -/
def good (w : Worksite) : Nat := w.finished.countP (·.2)

/-- How a question of the node is answered at a worksite. -/
def answer : (q : ClusterAsk) → WorksiteProgram q.Answer
  | .store call => .call (.store call) fun reply => .call .back fun _ => .done (.ok reply)
  | .together work => .call (.gather work) fun _ => .look fun w => .done w.good

end Worksite

namespace Node

/-- A program of the node, at a worksite. -/
def atWork {α : Type} (p : ClusterProgram α) : WorksiteProgram α :=
  p.embed Worksite.node Worksite.setNode Worksite.answer

/-- A session departs: it is taken off the roster, and then its route is deleted. -/
def depart (r : SessionRef) : ClusterProgram Unit := do
  let n ← Program.get
  let s := n.session r
  discard (Program.update (onFloor (Floor.remove s.path s.id)))
  discard (forgetRoute s.path s.id)

/-- Where a session's route is kept. -/
def routeOf (n : Node) (r : SessionRef) : String :=
  n.membership.keys.routeKey (n.session r).path (n.session r).id

/-- The node goes on: its sessions come and go, and it changes in what else is no concern of routes. -/
structure Moves (n n' : Node) : Prop where
  steady : Steady n n'
  floor : n.floor.Turnover n'.floor

end Node

/-- What goes on at a worksite. -/
inductive Renewal where
  | refresh
  | job (session : SessionRef)
  | depart (session : SessionRef)
  deriving Repr, DecidableEq

/-- What is done. A refresh says how many routes stand. -/
def Renewal.program : Renewal → WorksiteProgram (Option Nat)
  | .refresh => do return some (← Node.atWork Node.refreshRoutes)
  | .job r => do
    let good ← Node.atWork (Node.refreshRoute r)
    Program.modify (Worksite.finish r good)
    return none
  | .depart r => do
    Node.atWork (Node.depart r)
    return none

/-- What happens besides: time passes, the node goes on, and the store changes in what is no concern of
the routes of sessions that are there. -/
structure Worksite.Meantime (w w' : Worksite) : Prop where
  node : w.node.Moves w'.node
  time : w.site.now ≤ w'.site.now
  keyed : w'.site.store.Keyed
  routes : ∀ r < w.node.floor.sessions.size, ∀ t, w'.site.now ≤ t →
    w'.site.store.value? t (w.node.routeOf r) = w.site.store.value? t (w.node.routeOf r)
  landed : w'.site.landed = w.site.landed
  finished : w'.finished = w.finished

/-- Whether a job of a refresh is for a session. -/
def IsFor (r : SessionRef) (notes : List (Note Worksite Errand (Option Nat) Renewal)) : Prop :=
  ∃ work, .asked .refresh (.gather work) ∈ notes ∧ .refresh r ∈ work

/-- What a job was for, it is for later on. -/
theorem IsFor.later {r : SessionRef} {h h' : List (Note Worksite Errand (Option Nat) Renewal)}
    (isFor : IsFor r h) (later : h <+: h') : IsFor r h' := by
  obtain ⟨work, asked, job⟩ := isFor
  exact ⟨work, later.subset asked, job⟩

/-- A refresh, with which everything begins; its jobs, each of which is begun once; and departures of
sessions that it has a job for, at any time. Whoever is on the roster no more when it departs, because a
send to it was in vain or because it was idle, departs all the same. -/
def renewing : System Worksite Errand Errand.Answer (Option Nat) Renewal where
  program := Renewal.program
  admits
    | .refresh, _, notes, _ => notes = []
    | .job r, _, notes, _ => IsFor r notes ∧ .called (.job r) ∉ notes
    | .depart r, _, notes, _ => IsFor r notes
  serves
    | .store call, w, reply, w' => reply = w.site.reply call ∧ w' = w.land call
    | .back, w, _, w' => w' = w
    | .gather work, w, _, w' => w' = w ∧ (w.finished.map fun e => .refresh e.1).Perm work
  mayDrop _ := False
  turns := Worksite.Meantime

namespace Node

/-! ## Kin -/

/-- What has become of a node after a while, its sessions having come and gone. -/
structure Kin (base n : Node) : Prop where
  steady : Steady base n
  listed : n.floor.Listed
  size : base.floor.sessions.size ≤ n.floor.sessions.size
  id : ∀ r < base.floor.sessions.size, (n.session r).id = (base.session r).id
  path : ∀ r < base.floor.sessions.size, (n.session r).path = (base.session r).path
  /-- Nobody has the name of a session that was registered at first. -/
  alone : ∀ r ∈ base.floor.registered, ∀ r' ∈ n.floor.registered,
    (n.session r').id = (base.session r).id → r' = r
  /-- A session that was registered at first. -/
  first : ∀ r ∈ base.floor.registered, r < base.floor.sessions.size

variable {base n n' : Node} {r : SessionRef}

theorem Kin.refl (listed : n.floor.Listed) : Kin n n where
  steady := .refl n
  listed := listed
  size := Nat.le_refl _
  id _ _ := rfl
  path _ _ := rfl
  alone _ here _ here' same := listed.inj here' here same
  first _ here := listed.lt here

theorem Kin.moves (kin : Kin base n) (moves : Moves n n') : Kin base n' where
  steady :=
    { id := moves.steady.id.trans kin.steady.id
      keys := moves.steady.keys.trans kin.steady.keys
      ttl := moves.steady.ttl.trans kin.steady.ttl
      destroyed := moves.steady.destroyed.trans kin.steady.destroyed }
  listed := moves.floor.listed
  size := Nat.le_trans kin.size moves.floor.size
  id r there := (moves.floor.id r (Nat.lt_of_lt_of_le there kin.size)).trans (kin.id r there)
  path r there := (moves.floor.path r (Nat.lt_of_lt_of_le there kin.size)).trans (kin.path r there)
  alone r here r' here' same := by
    have there : r < n.floor.sessions.size := Nat.lt_of_lt_of_le (kin.first r here) kin.size
    rcases moves.floor.joins r' here' with before | ⟨_, new⟩
    · exact kin.alone r here r' before ((moves.floor.id r' (kin.listed.lt before)).symm.trans same)
    · exact absurd (same.trans (kin.id r (kin.first r here)).symm) (new r there)
  first := kin.first

/-- Who was registered at first does not come back. -/
theorem Kin.stayed (kin : Kin base n) (moves : Moves n n') (first : r ∈ base.floor.registered)
    (here : r ∈ n'.floor.registered) : r ∈ n.floor.registered :=
  moves.floor.stayed (Nat.lt_of_lt_of_le (kin.first r first) kin.size) here

/-- A session that was registered at first is found by its path and its name as long as it is
registered. -/
theorem Kin.get?_isSome (kin : Kin base n) (first : r ∈ base.floor.registered) :
    (n.floor.get? (base.session r).path (base.session r).id).isSome = true ↔
      r ∈ n.floor.registered := by
  rw [Option.isSome_iff_exists]
  constructor
  · intro found
    obtain ⟨r', found⟩ := found
    obtain ⟨here, _, named⟩ := kin.listed.get?_eq_some.mp found
    rwa [← kin.alone r first r' here named]
  · intro here
    have there := kin.first r first
    exact ⟨r, kin.listed.get?_eq_some.mpr ⟨here, kin.path r there, kin.id r there⟩⟩

theorem Kin.routeKey (kin : Kin base n) :
    n.membership.keys.routeKey (base.session r).path (base.session r).id = base.routeOf r := by
  rw [kin.steady.keys]
  rfl

theorem moves_storeSucceeded (listed : n.floor.Listed) : Moves n n.storeSucceeded :=
  ⟨steady_storeSucceeded n, .of_aside listed (aside_storeSucceeded n).floor⟩

theorem moves_remove (listed : n.floor.Listed) (path : String) (id : SessionId) :
    Moves n (onFloor (Floor.remove path id) n).2 :=
  ⟨⟨rfl, rfl, rfl, rfl⟩, .of_aside listed (Floor.aside_remove path id n.floor)⟩

/-- Who is taken off the roster is not on it. -/
theorem Kin.gone (kin : Kin base n) (first : r ∈ base.floor.registered) :
    r ∉ (onFloor (Floor.remove (base.session r).path (base.session r).id) n).2.floor.registered := by
  have there := kin.first r first
  by_cases here : r ∈ n.floor.registered
  · have dismissed := kin.listed.dismissed here
    rw [show (n.floor.session r).path = (base.session r).path from kin.path r there,
      show (n.floor.session r).id = (base.session r).id from kin.id r there] at dismissed
    exact (dismissed.gone r (List.mem_singleton_self r)).1
  · intro still
    exact here (((Floor.aside_remove _ _ n.floor).roster.map _).subset still)

end Node

/-! ## The conduct -/

/-- Where a program stands on its way. -/
inductive Leg where
  /-- A refresh, and one whose jobs are over. -/
  | whole
  | gathered
  /-- A job, or a departure, of a session. -/
  | fresh (r : SessionRef)
  | writing (r : SessionRef)
  | written (r : SessionRef)
  | leaving (r : SessionRef)
  | owing (r : SessionRef)
  | deleting (r : SessionRef)
  | deleted (r : SessionRef)
  | finished
  deriving Repr, DecidableEq

/-- What may be put in place on a leg. -/
inductive Leg.Puts (w : Worksite) : Leg → Worksite → Leg → Prop
  | moves {g : Leg} {n : Node} (moves : w.node.Moves n) : Puts w g (w.setNode n) g
  | leaves {r : SessionRef} {n : Node} (moves : w.node.Moves n) (gone : r ∉ n.floor.registered) :
    Puts w (.leaving r) (w.setNode n) (.owing r)
  | stands {r : SessionRef} (here : r ∈ w.node.floor.registered) :
    Puts w (.written r) (w.finish r true) .finished
  | skipped {r : SessionRef} (gone : r ∉ w.node.floor.registered) :
    Puts w (.fresh r) (w.finish r false) .finished
  | undone {r : SessionRef} : Puts w (.deleted r) (w.finish r false) .finished

/-- What may be asked on a leg. -/
inductive Leg.Asks (base : Node) (w : Worksite) : Leg → Errand → Leg → Prop
  | gather : Asks base w .whole (.gather (base.floor.registered.map .refresh)) .gathered
  | write {r : SessionRef} : Asks base w (.fresh r)
    (.store (.set (base.routeOf r) base.id.text base.membership.ttl)) (.writing r)
  | wrote {r : SessionRef} : Asks base w (.writing r) .back (.written r)
  | retract {r : SessionRef} (gone : r ∉ w.node.floor.registered) :
    Asks base w (.written r) (.store (.delete (base.routeOf r))) (.deleting r)
  | pay {r : SessionRef} : Asks base w (.owing r) (.store (.delete (base.routeOf r))) (.deleting r)
  | deleted {r : SessionRef} : Asks base w (.deleting r) .back (.deleted r)

/-- The conduct of renewals and departures. -/
def renewal (base : Node) : Conduct Worksite Errand Leg where
  finds _ w := base.Kin w.node
  puts g w w' g' := g.Puts w w' g'
  asks g w q g' := g.Asks base w q g'

namespace Node

section Rules

variable {α β γ : Type} {C : Conduct Worksite Errand γ} {ending : γ → Worksite → β → Prop} {g : γ}
  {w : Worksite}

/-- One program of the node after another. -/
theorem heeds_atWork_bind {p : ClusterProgram α} {f : α → ClusterProgram β} :
    (atWork (p >>= f)).Heeds C ending g w ↔
      (atWork p).Heeds C (fun g w a => (atWork (f a)).Heeds C ending g w) g w := by
  rw [atWork, Program.embed_bind]
  exact Program.heeds_bind _ g w

theorem heeds_atWork_get_bind {f : Node → ClusterProgram β} :
    (atWork (Program.get >>= f)).Heeds C ending g w ↔ (atWork (f w.node)).Heeds C ending g w :=
  Iff.rfl

end Rules

variable {base : Node} {w : Worksite} {r : SessionRef}

/-- A call goes two legs, out and back, and is a success. -/
theorem guarded_renewal {op : String} {call : StoreCall} {g g' g'' : Leg}
    (out : g.Asks base w (.store call) g') (back : ∀ w, g'.Asks base w .back g'') :
    (atWork (guarded op call)).Heeds (renewal base)
      (fun x w reply => x = g'' ∧ reply.isSome = true ∧ base.Kin w.node) g w := by
  refine ⟨g', out, fun reply w _ => ⟨g'', back w, fun _ w kin => ?_⟩⟩
  have moves := moves_storeSucceeded kin.listed
  exact ⟨g'', .moves moves, rfl, rfl, kin.moves moves⟩

/-- A refresh waits for its jobs and counts them. -/
theorem refreshRoutes_renewal (first : w.node.floor.registered = base.floor.registered) :
    (atWork refreshRoutes).Heeds (renewal base) (fun g w k => g = .gathered ∧ k = w.good) .whole w := by
  unfold refreshRoutes
  rw [heeds_atWork_get_bind, first]
  exact ⟨.gathered, .gather, fun _ _ _ => ⟨rfl, rfl⟩⟩

theorem writeRoute_renewal (kin : base.Kin w.node) :
    (atWork (writeRoute (base.session r).path (base.session r).id)).Heeds (renewal base)
      (fun g w written => g = .written r ∧ written = true ∧ base.Kin w.node) (.fresh r) w := by
  unfold writeRoute
  rw [heeds_atWork_get_bind, kin.routeKey, kin.steady.id, kin.steady.ttl, heeds_atWork_bind]
  exact guarded_renewal .write fun _ => .wrote

theorem forgetRoute_renewal {g : Leg} (kin : base.Kin w.node)
    (out : g.Asks base w (.store (.delete (base.routeOf r))) (.deleting r)) :
    (atWork (forgetRoute (base.session r).path (base.session r).id)).Heeds (renewal base)
      (fun g _ _ => g = .deleted r) g w := by
  unfold forgetRoute
  rw [heeds_atWork_get_bind, kin.routeKey, heeds_atWork_bind]
  exact (guarded_renewal out fun _ => .deleted).mono fun _ _ _ ended => ended.1

/-- **A job** ends so that what it says may be put down. -/
theorem refreshRoute_renewal (kin : base.Kin w.node) (first : r ∈ base.floor.registered)
    (present : base.membership.destroyed = false) :
    (atWork (refreshRoute r)).Heeds (renewal base)
      (fun g w good => g.Puts w (w.finish r good) .finished) (.fresh r) w := by
  have there := kin.first r first
  unfold refreshRoute
  rw [heeds_atWork_get_bind]
  dsimp only
  rw [kin.path r there, kin.id r there, kin.steady.destroyed, present, Bool.false_or]
  split
  · rename_i absent
    refine .skipped fun here => ?_
    rw [Option.isNone_iff_eq_none] at absent
    have found := (kin.get?_isSome first).mpr here
    rw [absent] at found
    nomatch found
  · rw [heeds_atWork_bind]
    refine (writeRoute_renewal kin).mono fun g w written ended => ?_
    obtain ⟨rfl, rfl, kin⟩ := ended
    rw [if_neg (by decide), heeds_atWork_get_bind]
    split
    · rename_i found
      exact .stands ((kin.get?_isSome first).mp found)
    · rename_i absent
      have gone : r ∉ w.node.floor.registered := fun here => absent ((kin.get?_isSome first).mpr here)
      show (atWork (forgetRoute _ _ >>= fun _ => pure () >>= fun _ => pure false)).Heeds _ _ _ _
      rw [heeds_atWork_bind]
      refine (forgetRoute_renewal kin (.retract gone)).mono fun g w _ ended => ?_
      obtain rfl := ended
      exact .undone

/-- **A departure** ends when the route is deleted. -/
theorem depart_renewal (kin : base.Kin w.node) (first : r ∈ base.floor.registered) :
    (atWork (depart r)).Heeds (renewal base) (fun g _ _ => g = .deleted r) (.leaving r) w := by
  have there := kin.first r first
  have moves := moves_remove kin.listed (base.session r).path (base.session r).id
  unfold depart
  rw [heeds_atWork_get_bind]
  dsimp only
  rw [kin.path r there, kin.id r there]
  refine ⟨.owing r, .leaves moves (kin.gone first), ?_⟩
  show (atWork (forgetRoute _ _ >>= fun _ => pure ())).Heeds _ _ _ _
  rw [heeds_atWork_bind]
  exact forgetRoute_renewal (kin.moves moves) .pay

end Node

/-- Where a program stands that is begun. -/
def Renewal.start : Renewal → Leg
  | .refresh => .whole
  | .job r => .fresh r
  | .depart r => .leaving r

/-- With what a program may end. -/
def Renewal.Ends (c : Renewal) (g : Leg) (w : Worksite) (a : Option Nat) : Prop :=
  match c with
  | .refresh => g = .gathered ∧ a = some w.good
  | .job _ => g = .finished ∧ a = none
  | .depart r => g = .deleted r ∧ a = none

/-- Whether something may be begun. -/
def Renewal.Ready (base : Node) (w : Worksite) : Renewal → Prop
  | .refresh => w.node.floor.registered = base.floor.registered
  | .job r | .depart r => r ∈ base.floor.registered

/-- **Renewals and departures keep to their conduct.** -/
theorem Renewal.heeds {base : Node} {w : Worksite} (kin : base.Kin w.node)
    (present : base.membership.destroyed = false) {c : Renewal} (ready : c.Ready base w) :
    c.program.Heeds (renewal base) c.Ends c.start w := by
  cases c with
  | refresh => exact (Node.refreshRoutes_renewal ready).bind fun g w k ended =>
      ⟨ended.1, congrArg some ended.2⟩
  | job r => exact (Node.refreshRoute_renewal kin ready present).bind fun g w good ended =>
      ⟨.finished, ended, rfl, rfl⟩
  | depart r => exact (Node.depart_renewal kin ready).bind fun g w _ ended => ⟨ended, rfl⟩

end SessionHub
