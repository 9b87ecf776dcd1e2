import SessionHub.Node.Broadcast
import SessionHub.Proofs.Cluster.Sweep

/-!
# What a node does in its cluster

A node has a handful of **duties** in its cluster, each a program that calls the store: it joins,
beats, sweeps and leaves, it sees to the routes of its sessions, it publishes and it sends. All of them
are made of a few pieces: **deeds** of their own, and calls to the store that are guarded, so that the
node registers how each of them came out. `Dutiful` says so along a program, and `attend_dutiful` of
every duty; what holds of the pieces is drawn from it by induction.

So, whatever the store answers, what a duty changes of the node is **tended**: it is of a few kinds, and
all but those of a sweep are apart from the tables of other nodes.
-/

namespace SessionHub

/-- What a node does in its cluster. -/
inductive Duty where
  | join
  | heartbeat
  | sweep
  | leave
  /-- Renews the routes of all sessions. -/
  | refresh
  /-- Writes the route of a session that has come. -/
  | enter (path : String) (session : SessionId)
  /-- Does one of the jobs on routes. -/
  | route (work : RouteWork)
  | publish (path payload : String) (source : NodeId)
  | send (path : String) (session : SessionId) (payload : String)
  deriving Repr, DecidableEq

namespace Node

/-- What is done for a duty. -/
def attend : Duty → ClusterProgram Unit
  | .join => join
  | .heartbeat => discard heartbeat
  | .sweep => discard sweep
  | .leave => leave
  | .refresh => discard refreshRoutes
  | .enter path session => discard (writeRoute path session)
  | .route work => discard (routeProgram work)
  | .publish path payload source => discard (publish path payload source)
  | .send path session payload => discard (sendOrLookUp path session payload)

/-! ## What a duty is made of -/

/-- A change that a duty makes of its own, and not because of how a call to the store came out. -/
inductive Deed (n : Node) : Node → Prop
  | warned (message : String) (fields : List (String × String)) :
    Deed n (n.record (·.warn message fields))
  | pruned (now : Int) : Deed n (n.pruneDeparted now)
  | met (b : Beacon) (other : b.node ≠ n.id)
    (present : n.membership.departed.lookup b.node = none) : Deed n (n.meet b)
  | buried (dead : List NodeId) : Deed n (dead.foldl (fun n p => n.bury p) n)
  | listening (broadcasts control : SubRef) : Deed n (n.listenTo broadcasts control)
  | givenUp (sub : SubRef) : Deed n (n.start (.unsubscribe n.seat sub)).2
  | refreshing : Deed n n.startRefresh
  | leaving : Deed n n.beginLeave
  | published : Deed n (n.record (·.count .publishedBroadcasts))
  | sent (path : String) (session : SessionId) (payload : String) :
    Deed n (onFloor (Floor.sendTo path session payload) n).2

/-- **What a duty is made of**: looks, deeds, jobs side by side, and calls to the store, each of which
is guarded. It goes on after any answer and from whatever the node has become. -/
inductive Dutiful {α : Type} : ClusterProgram α → Node → Prop
  | done (a : α) (n : Node) : Dutiful (.done a) n
  | look {next : Node → ClusterProgram α} {n : Node} (rest : Dutiful (next n) n) :
    Dutiful (.look next) n
  | put {next : ClusterProgram α} {n n' : Node} (deed : Deed n n') (rest : Dutiful next n') :
    Dutiful (.put n' next) n
  | together {work : List RouteWork} {resume : (ClusterAsk.together work).Answer → ClusterProgram α}
    {n : Node} (rest : ∀ k n', Dutiful (resume k) n') : Dutiful (.call (.together work) resume) n
  | guarded (op : String) (call : StoreCall) {resume : Option call.Reply → ClusterProgram α} {n : Node}
    (rest : ∀ reply n', Dutiful (resume reply) n') : Dutiful (guarded op call >>= resume) n

theorem guarded_bind {α : Type} (op : String) (call : StoreCall)
    (resume : Option call.Reply → ClusterProgram α) : guarded op call >>= resume =
      .call (.store call) fun
        | .ok reply => .look fun n => .put n.storeSucceeded (resume (some reply))
        | .error fault => .look fun n => .put (n.storeFailed op fault) (resume none) :=
  congrArg (Program.call (ClusterAsk.store call)) (funext fun a => by cases a <;> rfl)

theorem guarded_bind_assoc {α β : Type} (op : String) (call : StoreCall)
    (resume : Option call.Reply → ClusterProgram α) (f : α → ClusterProgram β) :
    guarded op call >>= resume >>= f = guarded op call >>= fun reply => resume reply >>= f :=
  congrArg (Program.call (ClusterAsk.store call)) (funext fun a => by cases a <;> rfl)

namespace Dutiful

variable {α β : Type} {n : Node}

theorem bind {p : ClusterProgram α} {f : α → ClusterProgram β} (h : Dutiful p n)
    (next : ∀ a n', Dutiful (f a) n') : Dutiful (p >>= f) n := by
  induction h with
  | done a n => exact next a n
  | look _ ih => exact .look ih
  | put deed _ ih => exact .put deed ih
  | together _ ih => exact .together ih
  | guarded op call _ ih =>
    rw [guarded_bind_assoc]
    exact .guarded op call ih

theorem discard {p : ClusterProgram α} (h : Dutiful p n) :
    Dutiful (Functor.discard p : ClusterProgram Unit) n :=
  h.bind fun _ n' => .done () n'

theorem call (op : String) (call : StoreCall) : Dutiful (Node.guarded op call) n := by
  have alone : Node.guarded op call >>= Program.done = Node.guarded op call := by
    rw [guarded_bind]
    exact congrArg (Program.call (ClusterAsk.store call)) (funext fun a => by cases a <;> rfl)
  rw [← alone]
  exact .guarded op call fun reply n' => .done reply n'

theorem get_bind {f : Node → ClusterProgram α} (next : Dutiful (f n) n) :
    Dutiful (Program.get >>= f) n := .look next

theorem view_bind {view : Node → β} {f : β → ClusterProgram α} (next : Dutiful (f (view n)) n) :
    Dutiful (Program.view view >>= f) n := .look next

theorem modify_bind {change : Node → Node} {f : Unit → ClusterProgram α} (deed : Deed n (change n))
    (next : Dutiful (f ()) (change n)) : Dutiful (Program.modify change >>= f) n :=
  .look (.put deed next)

theorem modify {change : Node → Node} (deed : Deed n (change n)) :
    Dutiful (Program.modify change) n :=
  .look (.put deed (.done () _))

theorem update_bind {change : Node → β × Node} {f : β → ClusterProgram α} (deed : Deed n (change n).2)
    (next : Dutiful (f (change n).1) (change n).2) : Dutiful (Program.update change >>= f) n :=
  .look (.put deed next)

end Dutiful

theorem ensureSubscribed_dutiful (n : Node) : Dutiful ensureSubscribed n := by
  refine .get_bind ?_
  split
  · exact .done () n
  · refine .guarded _ _ fun first n => ?_
    cases first with
    | none => exact .done () n
    | some broadcasts =>
      refine .guarded _ _ fun second n => ?_
      cases second with
      | none => exact .modify (.givenUp broadcasts)
      | some control => exact .modify (.listening broadcasts control)

theorem writeRecord_dutiful (n : Node) : Dutiful writeRecord n :=
  .get_bind (.guarded _ _ fun _ n => .done _ n)

theorem join_dutiful (n : Node) : Dutiful join n :=
  (ensureSubscribed_dutiful n).bind fun _ n => (writeRecord_dutiful n).discard

theorem heartbeat_dutiful (n : Node) : Dutiful heartbeat n := by
  refine .get_bind ?_
  split
  · exact .done _ n
  · refine (ensureSubscribed_dutiful _).bind fun _ n => ?_
    refine (writeRecord_dutiful n).bind fun written n => ?_
    split
    · exact .modify_bind .refreshing (.done _ _)
    · exact .done _ n

theorem inspect_dutiful (now : Int) (records : List (String × String)) (seen dead : List NodeId)
    (n : Node) : Dutiful (inspect now records seen dead) n := by
  induction records generalizing seen dead n with
  | nil => exact .done _ n
  | cons record rest ih =>
    obtain ⟨key, text⟩ := record
    unfold inspect
    split
    · exact .modify_bind (.warned ..) (ih ..)
    · rename_i b _
      refine .get_bind ?_
      split
      · exact ih ..
      · rename_i concern
        rw [Bool.or_eq_true, not_or, decide_eq_true_eq] at concern
        split
        · exact (Dutiful.call ..).discard.bind fun _ _ => ih ..
        · exact .modify_bind (.met b concern.1 (Option.not_isSome_iff_eq_none.mp concern.2)) (ih ..)

theorem purgeRoutesOf_dutiful (dead : List NodeId) (n : Node) : Dutiful (purgeRoutesOf dead) n := by
  refine .get_bind (.guarded _ _ fun reply n => ?_)
  cases reply with
  | none => exact .done () n
  | some routes => exact Dutiful.discard (.together fun k n => .done k n)

theorem sweep_dutiful (n : Node) : Dutiful sweep n := by
  refine .get_bind (.guarded _ _ fun reply n => ?_)
  cases reply with
  | none => exact .done _ n
  | some records =>
    refine .view_bind (.modify_bind (.pruned _) ?_)
    refine (inspect_dutiful ..).bind fun found n => ?_
    refine .update_bind (.buried _) ?_
    split
    · exact (purgeRoutesOf_dutiful ..).bind fun _ n => .done _ n
    · exact .done _ _

theorem leave_dutiful (n : Node) : Dutiful leave n := by
  refine .get_bind ?_
  split
  · exact .done () n
  · refine .modify_bind .leaving ?_
    refine (Dutiful.call ..).discard.bind fun _ n => ?_
    refine (Dutiful.call ..).discard.bind fun _ n => ?_
    exact .get_bind (Dutiful.discard (.together fun k n => .done k n))

theorem writeRoute_dutiful (path : String) (id : SessionId) (n : Node) :
    Dutiful (writeRoute path id) n :=
  .get_bind (.guarded _ _ fun _ n => .done _ n)

theorem forgetRoute_dutiful (path : String) (id : SessionId) (n : Node) :
    Dutiful (forgetRoute path id) n :=
  .get_bind (.guarded _ _ fun _ n => .done _ n)

theorem routeProgram_dutiful (work : RouteWork) (n : Node) : Dutiful (routeProgram work) n := by
  cases work with
  | refresh r =>
    refine .get_bind ?_
    dsimp only
    split
    · exact .done _ n
    · refine (writeRoute_dutiful ..).bind fun written n => ?_
      cases written with
      | false => exact .done _ n
      | true =>
        refine .get_bind ?_
        split
        · exact .done _ n
        · exact (forgetRoute_dutiful ..).discard.bind fun _ n => .done _ n
  | forget path session => exact forgetRoute_dutiful path session n
  | purge key => exact (Dutiful.call ..).bind fun _ n => .done _ n

theorem publish_dutiful (path payload : String) (source : NodeId) (n : Node) :
    Dutiful (publish path payload source) n := by
  refine .get_bind (.guarded _ _ fun reply n => ?_)
  dsimp only
  split
  · exact .modify_bind .published (.done _ _)
  · exact .done _ n

theorem sendOrLookUp_dutiful (path : String) (session : SessionId) (payload : String) (n : Node) :
    Dutiful (sendOrLookUp path session payload) n := by
  refine .update_bind (.sent path session payload) ?_
  split
  · exact .done _ _
  · exact .get_bind ((Dutiful.call ..).discard.bind fun _ n => .done _ n)

theorem sendTo_dutiful (path : String) (id : SessionId) (payload : String) (n : Node) :
    Dutiful (sendTo path id payload) n := by
  refine .get_bind ?_
  split
  · exact sendOrLookUp_dutiful path id payload n
  · exact .look (.put (.sent path id payload) (.done _ _))

/-- **Every duty is made so.** -/
theorem attend_dutiful (d : Duty) (n : Node) : Dutiful (attend d) n := by
  cases d with
  | join => exact join_dutiful n
  | heartbeat => exact (heartbeat_dutiful n).discard
  | sweep => exact (sweep_dutiful n).discard
  | leave => exact leave_dutiful n
  | refresh => exact Dutiful.discard (.get_bind (.together fun k n => .done k n))
  | enter path session => exact (writeRoute_dutiful path session n).discard
  | route work => exact (routeProgram_dutiful work n).discard
  | publish path payload source => exact (publish_dutiful path payload source n).discard
  | send path session payload => exact (sendOrLookUp_dutiful path session payload n).discard

/-! ## What a duty changes -/

/-- A change that a duty makes. -/
inductive Tended (n : Node) : Node → Prop
  | swept {n' : Node} (change : Swept n n') : Tended n n'
  | listening (broadcasts control : SubRef) : Tended n (n.listenTo broadcasts control)
  | givenUp (sub : SubRef) : Tended n (n.start (.unsubscribe n.seat sub)).2
  | refreshing : Tended n n.startRefresh
  | leaving : Tended n n.beginLeave
  | published : Tended n (n.record (·.count .publishedBroadcasts))
  | sent (path : String) (session : SessionId) (payload : String) :
    Tended n (onFloor (Floor.sendTo path session payload) n).2

theorem Deed.tended {n n' : Node} (h : Deed n n') : Tended n n' := by
  cases h with
  | warned message fields => exact .swept (.warned message fields)
  | pruned now => exact .swept (.pruned now)
  | met b other present => exact .swept (.met b other present)
  | buried dead => exact .swept (.buried dead)
  | listening broadcasts control => exact .listening broadcasts control
  | givenUp sub => exact .givenUp sub
  | refreshing => exact .refreshing
  | leaving => exact .leaving
  | published => exact .published
  | sent path session payload => exact .sent path session payload

/-- **Whatever it is answered**, what is made so makes changes of these kinds only. -/
theorem Dutiful.tended {α : Type} {p : ClusterProgram α} {n : Node} (h : Dutiful p n) :
    p.ChangesBy Tended n := by
  induction h with
  | done => exact trivial
  | look _ ih => exact ih
  | put deed _ ih => exact ⟨(), deed.tended, ih⟩
  | together _ ih => exact Program.changesBy_call ih
  | guarded op call _ ih =>
    exact ((guarded_changesBy_swept op call _).mono fun _ _ => .swept).bind ih

theorem join_tended (n : Node) : join.ChangesBy Tended n := (join_dutiful n).tended

theorem heartbeat_tended (n : Node) : heartbeat.ChangesBy Tended n := (heartbeat_dutiful n).tended

theorem sweep_tended (n : Node) : sweep.ChangesBy Tended n := (sweep_dutiful n).tended

theorem leave_tended (n : Node) : leave.ChangesBy Tended n := (leave_dutiful n).tended

theorem writeRoute_tended (path : String) (id : SessionId) (n : Node) :
    (writeRoute path id).ChangesBy Tended n := (writeRoute_dutiful path id n).tended

theorem forgetRoute_tended (path : String) (id : SessionId) (n : Node) :
    (forgetRoute path id).ChangesBy Tended n := (forgetRoute_dutiful path id n).tended

theorem sendTo_tended (path : String) (id : SessionId) (payload : String) (n : Node) :
    (sendTo path id payload).ChangesBy Tended n := (sendTo_dutiful path id payload n).tended

/-- A broadcast hands its payload to the sessions of this node, and what it does besides is a duty. -/
theorem broadcast_changesBy {R : Node → Node → Prop} {path payload : String} {n : Node}
    (here : R n (n.broadcastHere path payload fun _ => true).2)
    (tended : ∀ {n n'}, Tended n n' → R n n') : (broadcast path payload).ChangesBy R n := by
  refine Program.changesBy_update_bind here ?_
  rw [Program.changesBy_get_bind]
  split
  · exact ((publish_dutiful ..).tended.mono fun _ _ => tended).bind fun _ _ => trivial
  · exact trivial

/-- A duty makes changes of its kinds only. -/
theorem attend_tended (d : Duty) (n : Node) : (attend d).ChangesBy Tended n := (attend_dutiful d n).tended

/-- Nothing changes while the former job still renews the routes; else a new job is started. -/
theorem startRefresh_cases (n : Node) : n.startRefresh = n ∨
    n.startRefresh = (n.start (.refreshRoutes n.seat)).2.modifyMembership fun m =>
      { m with refresher := some (n.start (.refreshRoutes n.seat)).1 } := by
  unfold startRefresh
  dsimp only
  split
  · split
    · exact .inl rfl
    · exact .inr rfl
  · exact .inr rfl

/-! ## Apart from the tables -/

theorem Apart.trans {n n' n'' : Node} (h : Apart n n') (h' : Apart n' n'') : Apart n n'' where
  id := h'.id.trans h.id
  peers := h'.peers.trans h.peers
  departed := h'.departed.trans h.departed
  news := by
    obtain ⟨told, events, silent⟩ := h.news
    obtain ⟨told', events', silent'⟩ := h'.news
    refine ⟨told ++ told', by rw [events', events, List.append_assoc], fun e he => ?_⟩
    cases List.mem_append.mp he with
    | inl he => exact silent e he
    | inr he => exact silent' e he

theorem apart_start (work : Work) (n : Node) : Apart n (n.start work).2 := .of_eq rfl rfl

theorem apart_drop (job : JobRef) (n : Node) : Apart n (n.drop job) := .of_eq rfl rfl

theorem apart_modifyMembership {change : Membership → Membership} {n : Node}
    (peers : (change n.membership).peers = n.membership.peers)
    (departed : (change n.membership).departed = n.membership.departed)
    (events : (change n.membership).events = n.membership.events) :
    Apart n (n.modifyMembership change) :=
  ⟨rfl, peers, departed, [], by rw [List.append_nil]; exact events, nofun⟩

theorem apart_listenTo (broadcasts control : SubRef) (n : Node) :
    Apart n (n.listenTo broadcasts control) := by
  unfold listenTo
  dsimp only
  split
  · exact ((apart_start _ n).trans (apart_drop ..)).trans (apart_modifyMembership rfl rfl rfl)
  · exact (apart_start _ n).trans (apart_modifyMembership rfl rfl rfl)

theorem apart_startRefresh (n : Node) : Apart n n.startRefresh := by
  rcases n.startRefresh_cases with still | started
  · rw [still]
    exact .refl n
  · rw [started]
    exact (apart_start _ n).trans (apart_modifyMembership rfl rfl rfl)

theorem apart_beginLeave (n : Node) : Apart n n.beginLeave := by
  unfold beginLeave
  dsimp only
  split <;> split
  · exact ((apart_drop _ n).trans (apart_drop ..)).trans (apart_modifyMembership rfl rfl rfl)
  · exact (apart_drop _ n).trans (apart_modifyMembership rfl rfl rfl)
  · exact (apart_drop _ n).trans (apart_modifyMembership rfl rfl rfl)
  · exact apart_modifyMembership rfl rfl rfl

/-- **All but the changes of a sweep are apart** from the tables of other nodes. -/
theorem Tended.swept_or_apart {n n' : Node} (h : Tended n n') : Swept n n' ∨ Apart n n' := by
  cases h with
  | swept change => exact .inl change
  | listening broadcasts control => exact .inr (apart_listenTo ..)
  | givenUp sub => exact .inr (apart_start _ n)
  | refreshing => exact .inr (apart_startRefresh n)
  | leaving => exact .inr (apart_beginLeave n)
  | published => exact .inr (apart_record _ n)
  | sent path session payload => exact .inr (.of_eq rfl rfl)

end Node

end SessionHub
