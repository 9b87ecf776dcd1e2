import Mathlib.Data.List.Forall2
import SessionHub.Proofs.Cluster.Broadcast
import SessionHub.Proofs.Likeness
import SessionHub.Proofs.Program.Solo

/-!
# The store has no say in local delivery

A node in a cluster sends by way of programs that ask the store as well: a broadcast is published, and
the route of a session that is not here is looked up. A node by itself sends by the same programs and
asks nobody. What the sessions of the node get is the same, and so is what whoever sends is told about
them, whether the store takes what it is asked, fails or does not answer in time, and whether the node is
in its cluster or has begun to leave it.

The reason is the order of things. The sessions of the node are served in the first stretch, before
anything is asked (`Sending.perform`), and whatever is done on an answer leaves them alone
(`Sending.of_ends`). So a run is a run of what is performed on the floor, and two floors that cannot be
told apart by what is sent stay so (`Sends.like`).

One thing the store does have: it can make the caller wait. What is sent after that is sent later, which
is written down with the sessions that took it. So the two nodes agree in everything if they send at the
same instants, and if they do not, in everything but these times, as long as nobody chooses sessions by
them.
-/

namespace SessionHub

/-! ## Sending by way of a node -/

/-- A payload that somebody sends: on a path on all nodes, on a path on this node to the sessions that
are chosen, or to one session. -/
inductive Sending where
  | broadcast (path payload : String)
  | here (path payload : String) (admits : Session → Bool)
  | single (path : String) (id : SessionId) (payload : String)

/-- What whoever sends is told about the sessions of this node. -/
inductive Sending.Report where
  | delivered (here : Delivery)
  | taken (taken : Bool)
  deriving Repr, DecidableEq

namespace Sending

/-- How it is sent. Whether an envelope was published is not about the sessions of this node. -/
def program : Sending → ClusterProgram Report
  | .broadcast path payload => do return .delivered (← Node.broadcast path payload).here
  | .here path payload admits => do
    return .delivered (← Program.update (Node.broadcastHere path payload admits))
  | .single path id payload => do return .taken (← Node.sendTo path id payload)

/-- What it comes to for the sessions of this node, at once. -/
def perform : Sending → Node → Report × Node
  | .broadcast path payload, n => (n.broadcastHere path payload fun _ => true).map .delivered id
  | .here path payload admits, n => (n.broadcastHere path payload admits).map .delivered id
  | .single path session payload, n =>
    (n.onFloor (Floor.sendTo path session payload)).map .taken id

/-- Whoever chooses the sessions does not tell apart what is alike. -/
def BlindTo (R : Session → Session → Prop) : Sending → Prop
  | .here _ _ admits => ∀ {s s'}, R s s' → admits s' = admits s
  | _ => True

/-- Nobody is chosen by when something was last carried over a session. -/
def Timeless (s : Sending) : Prop := s.BlindTo Session.Alike

/-- Sessions that are the same are told apart by nobody. -/
theorem blindTo_eq (s : Sending) : s.BlindTo Eq := by
  cases s with
  | here path payload admits => exact fun same => by rw [same]
  | broadcast | single => trivial

/-- To send is nothing that takes a node out of its cluster or into one. -/
theorem inCluster_perform (s : Sending) (n : Node) : (s.perform n).2.inCluster = n.inCluster := by
  cases s <;> rfl

/-- **Floors that are alike cannot be told apart by what is sent**: the same is told about both, and
they stay alike. -/
theorem perform_like {R : Session → Session → Prop} {s : Sending} {n m : Node} (blind : s.BlindTo R)
    (clocks : Session.Likeness R n.floor.now m.floor.now) (like : Floor.Like R n.floor m.floor) :
    (s.perform m).1 = (s.perform n).1 ∧ Floor.Like R (s.perform n).2.floor (s.perform m).2.floor := by
  have alike : Floor.Matches R n.floor m.floor := ⟨like, clocks⟩
  have counted := alike.record (·.count .localBroadcasts) (·.count .localBroadcasts)
  cases s with
  | broadcast path payload =>
    obtain ⟨same, like⟩ := counted.deliver path payload (fun _ => true) fun _ => rfl
    exact ⟨congrArg Report.delivered same, like.toLike⟩
  | here path payload admits =>
    obtain ⟨same, like⟩ := counted.deliver path payload admits blind
    exact ⟨congrArg Report.delivered same, like.toLike⟩
  | single path id payload =>
    obtain ⟨same, like⟩ := alike.sendTo path id payload
    exact ⟨congrArg Report.taken same, like.toLike⟩

end Sending

/-! ## What the store may do -/

/-- What surrounds a node where nobody else touches its sessions. The rest of the node may change at any
time and in any way: it may leave its cluster, tick, hear of its peers, and hear what it has published
itself (`Node.still_receiveEnvelope`). A question may be answered in any way, by a reply or by a fault;
that it is answered is because a call is over when its time is. -/
structure Surroundings.Aloof (X : Surroundings Node ClusterAsk ClusterAsk.Answer) : Prop where
  passes : ∀ {n n'}, X.passes n n' → n.floor.Still n'.floor
  serves : ∀ {q n a n'}, X.serves q n a n' → n.floor.Still n'.floor
  waits : ∀ n, ∃ n', X.passes n n'
  answers : ∀ q n, ∃ n' a n'', X.passes n n' ∧ X.serves q n' a n''

variable {X Y : Surroundings Node ClusterAsk ClusterAsk.Answer} {n n' m m' : Node}

namespace Node

/-- What the node does about its store is no concern of its sessions, whatever it is answered. -/
theorem still_of_ends {α : Type} {p : ClusterProgram α} {a : α} (aloof : X.Aloof)
    (changes : p.ChangesBy (fun n n' => n.floor.Still n'.floor) n) (ended : p.Ends X n a n') :
    n.floor.Still n'.floor :=
  Program.ChangesBy.of_ends (R := fun n n' => n.floor.Still n'.floor) (fun _ => ⟨rfl, rfl⟩) .trans
    (fun passes served => (aloof.passes passes).trans (aloof.serves served)) changes ended

theorem guarded_still (op : String) (call : StoreCall) (n : Node) :
    (guarded op call).ChangesBy (fun n n' => n.floor.Still n'.floor) n :=
  (guarded_changesBy_swept op call n).mono fun _ _ swept => swept.unaffected.still

theorem publish_still (path payload : String) (source : NodeId) (n : Node) :
    (publish path payload source).ChangesBy (fun n n' => n.floor.Still n'.floor) n := by
  unfold publish
  rw [Program.changesBy_get_bind]
  refine (guarded_still ..).bind fun reply n => ?_
  dsimp only
  split
  · exact Program.changesBy_modify_bind ⟨rfl, rfl⟩ trivial
  · exact trivial

end Node

namespace Sending

/-- **Whatever the store does**, what is told about the sessions of the node is what sending came to at
once, and nothing happens to them after it. -/
theorem of_ends (aloof : X.Aloof) {s : Sending} {report : Report}
    (ended : s.program.Ends X n report n') :
    report = (s.perform n).1 ∧ (s.perform n).2.floor.Still n'.floor := by
  cases s with
  | here path payload admits =>
    obtain ⟨_, _, ⟨rfl, rfl⟩, rfl, rfl⟩ := Program.ends_bind.mp ended
    exact ⟨rfl, rfl, rfl⟩
  | broadcast path payload =>
    obtain ⟨b, t, ended, rfl, rfl⟩ := Program.ends_bind.mp ended
    obtain ⟨_, _, ⟨rfl, rfl⟩, rest⟩ := Program.ends_bind.mp ended
    obtain ⟨u, _, ⟨rfl, rfl⟩, rest⟩ := Program.ends_bind.mp rest
    dsimp only at rest
    split at rest
    · obtain ⟨_, _, asked, rfl, rfl⟩ := Program.ends_bind.mp rest
      exact ⟨rfl, Node.still_of_ends aloof (Node.publish_still ..) asked⟩
    · obtain ⟨_, _, ⟨_, rfl⟩, rfl, rfl⟩ := Program.ends_bind.mp rest
      exact ⟨rfl, rfl, rfl⟩
  | single path id payload =>
    obtain ⟨b, t, ended, rfl, rfl⟩ := Program.ends_bind.mp ended
    obtain ⟨u, _, ⟨rfl, rfl⟩, rest⟩ := Program.ends_bind.mp ended
    split at rest
    · unfold Node.sendOrLookUp at rest
      obtain ⟨taken, _, ⟨same, rfl⟩, rest⟩ := Program.ends_bind.mp rest
      split at rest
      · -- Whoever took the payload is not looked up.
        rename_i took
        obtain ⟨rfl, rfl⟩ := rest
        exact ⟨by rw [← took, same]; rfl, rfl, rfl⟩
      · rename_i refused
        obtain ⟨_, _, ⟨rfl, rfl⟩, rest⟩ := Program.ends_bind.mp rest
        obtain ⟨_, _, asked, rfl, rfl⟩ := Program.ends_bind.mp rest
        refine ⟨?_, Node.still_of_ends aloof (Node.guarded_still ..).discard asked⟩
        rw [← Bool.eq_false_iff.mpr refused, same]
        rfl
    · obtain ⟨rfl, rfl⟩ := rest
      exact ⟨rfl, rfl, rfl⟩

/-- Who is in no cluster asks nobody. -/
theorem ends_alone (alone : n.inCluster = false) (s : Sending) :
    s.program.Ends X n (s.perform n).1 (s.perform n).2 := by
  cases s with
  | here path payload admits => exact ⟨rfl, rfl⟩
  | broadcast path payload =>
    refine Program.ends_bind.mpr ⟨⟨(n.broadcastHere path payload fun _ => true).1, false⟩, _, ?_, rfl, rfl⟩
    have still : (n.broadcastHere path payload fun _ => true).2.inCluster = false := alone
    show Program.Ends X (if (n.broadcastHere path payload fun _ => true).2.inCluster = true then _ else _)
      _ _ _
    rw [if_neg (by rw [still]; decide)]
    exact ⟨rfl, rfl⟩
  | single path id payload =>
    refine Program.ends_bind.mpr ⟨(n.onFloor (Floor.sendTo path id payload)).1, _, ?_, rfl, rfl⟩
    show Program.Ends X (if n.inCluster = true then _ else _) _ _ _
    rw [if_neg (by rw [alone]; decide)]
    exact ⟨rfl, rfl⟩

end Sending

/-! ## One call after another -/

/-- A payload that was sent: at which instant, and what was told about the sessions of the node. -/
structure Sent where
  sending : Sending
  time : Nat
  report : Sending.Report

/-- What was sent, and when. -/
def Sent.order (s : Sent) : Sending × Nat := (s.sending, s.time)

/-- **Payloads are sent one after another** by way of a node, which waits before each of them as long as
whoever sends takes. -/
inductive Sends (X : Surroundings Node ClusterAsk ClusterAsk.Answer) : Node → List Sent → Node → Prop
  | nil (n : Node) : Sends X n [] n
  | cons {n m m' n' : Node} {s : Sending} {report : Sending.Report} {rest : List Sent}
    (waits : X.passes n m) (ends : s.program.Ends X m report m') (later : Sends X m' rest n') :
    Sends X n (⟨s, m.floor.now, report⟩ :: rest) n'

/-- Whatever is to be sent can be, whatever the store does. -/
theorem Sends.exists_run (aloof : X.Aloof) (n : Node) (sendings : List Sending) :
    ∃ sent n', Sends X n sent n' ∧ sent.map (·.sending) = sendings := by
  induction sendings generalizing n with
  | nil => exact ⟨[], n, .nil n, rfl⟩
  | cons s rest ih =>
    obtain ⟨m, waits⟩ := aloof.waits n
    obtain ⟨report, m', ends⟩ := Program.exists_ends aloof.answers s.program m
    obtain ⟨sent, n', later, same⟩ := ih m'
    exact ⟨_, n', .cons waits ends later, congrArg (s :: ·) same⟩

/-- Two payloads are the same, and are sent at instants at which no likeness of sessions is lost. -/
def Sent.Abreast (R : Session → Session → Prop) (a b : Sent) : Prop :=
  b.sending = a.sending ∧ Session.Likeness R a.time b.time ∧ a.sending.BlindTo R

/-- **Two runs by way of nodes that are alike**, each with a store of its own: the same is told, and the
nodes are alike after it. -/
theorem Sends.like {R : Session → Session → Prop} (left : X.Aloof) (right : Y.Aloof)
    {sent sent' : List Sent} (run : Sends X n sent n') (run' : Sends Y m sent' m')
    (like : Floor.Like R n.floor m.floor) (abreast : List.Forall₂ (Sent.Abreast R) sent sent') :
    sent'.map (·.report) = sent.map (·.report) ∧ Floor.Like R n'.floor m'.floor := by
  induction run generalizing m sent' with
  | nil n =>
    cases abreast
    cases run'
    exact ⟨rfl, like⟩
  | cons waits ends later ih =>
    cases run' with
    | nil => nomatch abreast
    | cons waits' ends' later' =>
      obtain ⟨⟨same, clocks, blind⟩, others⟩ := List.forall₂_cons.mp abreast
      cases same
      -- The clocks have gone on before the call, but each to an instant that is written down.
      have before := like.of_still (left.passes waits) (right.passes waits')
      obtain ⟨told, still⟩ := Sending.of_ends left ends
      obtain ⟨told', still'⟩ := Sending.of_ends right ends'
      obtain ⟨one, after⟩ := Sending.perform_like blind clocks before
      obtain ⟨rest, like⟩ := ih later' (after.of_still still still') others
      refine ⟨?_, like⟩
      rw [List.map_cons, List.map_cons, rest, told, told', one]

/-! ## A node by itself -/

/-- The same node by itself: nobody else is in its cluster, and it has no store. -/
def Node.alone (n : Node) : Node := { n with clustered := false }

/-- Where there is no store, nothing happens but that the clock goes on, and nobody answers. -/
def Surroundings.clock : Surroundings Node ClusterAsk ClusterAsk.Answer where
  passes n n' := ∃ now, n' = { n with floor := { n.floor with now } }
  serves _ _ _ _ := False

/-- **Every run by way of a node in a cluster is one by way of a node by itself**, with the same reports
at the same instants. -/
theorem Sends.by_itself (aloof : X.Aloof) {sent : List Sent} (run : Sends X n sent n')
    (alone : m.inCluster = false) (still : n.floor.Still m.floor) :
    ∃ m', Sends Surroundings.clock m sent m' ∧ n'.floor.Still m'.floor := by
  induction run generalizing m with
  | nil n => exact ⟨m, .nil m, still⟩
  | @cons n p _ _ s _ _ waits ends later ih =>
    -- The node by itself waits until its clock shows the instant of the call.
    let shown : Node := { m with floor := { m.floor with now := p.floor.now } }
    have before : Floor.Like Eq p.floor shown.floor :=
      (Floor.like_eq_iff.mpr still).of_still (aloof.passes waits) ⟨rfl, rfl⟩
    obtain ⟨told, still⟩ := Sending.of_ends aloof ends
    obtain ⟨one, like⟩ :=
      Sending.perform_like (n := p) (m := shown) s.blindTo_eq (Session.likeness_eq _) before
    obtain ⟨m', later, still⟩ := ih (m := (s.perform shown).2)
      ((s.inCluster_perform shown).trans alone) (Floor.like_eq_iff.mp (like.of_still still ⟨rfl, rfl⟩))
    refine ⟨m', ?_, still⟩
    have ends := Sending.ends_alone (X := .clock) (n := shown) alone s
    rw [one, ← told] at ends
    exact .cons (m := shown) ⟨p.floor.now, rfl⟩ ends later

/-! ## With and without a store -/

/-- Lists that agree in a key are related element by element, if elements that agree in it are. -/
theorem forall₂_of_map_eq {α β : Type} {R : α → α → Prop} {key : α → β} {l l' : List α}
    (same : l'.map key = l.map key) (related : ∀ a ∈ l, ∀ b, key b = key a → R a b) :
    List.Forall₂ R l l' := by
  induction l generalizing l' with
  | nil =>
    obtain rfl := List.map_eq_nil_iff.mp same
    exact .nil
  | cons a rest ih =>
    obtain ⟨b, rest', rfl, one, others⟩ := List.map_eq_cons_iff.mp same
    exact .cons (related a List.mem_cons_self b one)
      (ih others fun a' here => related a' (List.mem_cons_of_mem a here))

/-- **The store has no say in what the sessions of a node get**: what is sent by way of the node, next to
the same sent by way of the same node by itself. -/
structure Node.Autonomous (X : Surroundings Node ClusterAsk ClusterAsk.Answer) (n : Node) : Prop where
  /-- Every call returns. -/
  returns : ∀ sendings, ∃ sent n', Sends X n sent n' ∧ sent.map (·.sending) = sendings
  /-- Whatever the store does, the node by itself may do the same without it. -/
  by_itself : ∀ {sent n'}, Sends X n sent n' →
    ∃ m', Sends Surroundings.clock n.alone sent m' ∧ n'.floor.Still m'.floor
  /-- And it cannot do otherwise: who sends the same at the same instants is told the same, and leaves
  the same sessions and the same roster behind. -/
  same : ∀ {Y sent n' sent' m'}, Y.Aloof → Sends X n sent n' → Sends Y n.alone sent' m' →
    sent'.map Sent.order = sent.map Sent.order →
      sent'.map (·.report) = sent.map (·.report) ∧ n'.floor.Still m'.floor
  /-- At other instants too, but for when something was last carried over a session. -/
  timeless : ∀ {Y sent n' sent' m'}, Y.Aloof → Sends X n sent n' → Sends Y n.alone sent' m' →
    sent'.map (·.sending) = sent.map (·.sending) → (∀ s ∈ sent, s.sending.Timeless) →
      sent'.map (·.report) = sent.map (·.report) ∧ Floor.Like Session.Alike n'.floor m'.floor

/-- **A node's sessions are served as if there were no store**, whether the node is in its cluster, has
left it or leaves it meanwhile, and whatever becomes of the calls to the store. -/
theorem Node.autonomous (aloof : X.Aloof) (n : Node) : n.Autonomous X where
  returns := Sends.exists_run aloof n
  by_itself run := run.by_itself aloof (by rfl) ⟨rfl, rfl⟩
  same aloof' run run' orders := by
    have abreast := forall₂_of_map_eq (R := Sent.Abreast Eq) orders fun a _ b same => by
      obtain ⟨sending, time⟩ := Prod.mk.inj same
      exact ⟨sending, time ▸ Session.likeness_eq _, a.sending.blindTo_eq⟩
    obtain ⟨told, like⟩ := run.like aloof aloof' run' (Floor.like_eq_iff.mpr ⟨rfl, rfl⟩) abreast
    exact ⟨told, Floor.like_eq_iff.mp like⟩
  timeless aloof' run run' sendings timeless := by
    have abreast := forall₂_of_map_eq (R := Sent.Abreast Session.Alike) sendings fun a here b same =>
      ⟨same, Session.likeness_alike .., timeless a here⟩
    exact run.like aloof aloof' run' ⟨rfl, rfl, fun r => ⟨_, rfl⟩⟩ abreast

/-- Whatever a store may do. -/
def Surroundings.anyStore : Surroundings Node ClusterAsk ClusterAsk.Answer where
  passes n n' := n.floor.Still n'.floor
  serves _ n _ n' := n.floor.Still n'.floor

theorem Surroundings.aloof_anyStore : anyStore.Aloof where
  passes still := still
  serves still := still
  waits n := ⟨n, rfl, rfl⟩
  answers
    | .store _, n => ⟨n, .error (.unavailable ""), n, ⟨rfl, rfl⟩, rfl, rfl⟩
    | .together _, n => ⟨n, (0 : Nat), n, ⟨rfl, rfl⟩, rfl, rfl⟩

/-- A node in a cluster with two sessions on a path. The first has room for two frames, the second has
none left. -/
def outpost : Node :=
  let s (id : String) (outbox : Outbox) := Session.opening ⟨id⟩ "/x" ⟨"n"⟩ {} outbox 0
  { id := ⟨"n"⟩
    clustered := true
    floor := {
      sessions := #[s "a" (.ofCapacity 2), s "b" { capacity := 1, queue := ["old"] }]
      roster := [(⟨"a"⟩, 0), (⟨"b"⟩, 1)] } }

/-- What is sent by way of it: the envelope of the broadcast is taken at once, and the route of who is
not there any more is looked up in vain for two seconds. -/
def outpostSent : List Sent :=
  [⟨.broadcast "/x" "hello", 0, .delivered ⟨1, [⟨"b"⟩]⟩⟩,
   ⟨.single "/x" ⟨"a"⟩ "you", 0, .taken true⟩,
   ⟨.single "/x" ⟨"b"⟩ "you", 0, .taken false⟩,
   ⟨.here "/x" "bye" fun s => s.lastActive < 1000, 2000, .delivered ⟨0, [⟨"a"⟩]⟩⟩]

/-- It is a run in the cluster and one without it. -/
theorem outpost_autonomous : Surroundings.anyStore.Aloof ∧ ∃ n' m',
    Sends .anyStore outpost outpostSent n' ∧ Sends .clock outpost.alone outpostSent m' ∧
      n'.floor.Still m'.floor := by
  have autonomous := outpost.autonomous Surroundings.aloof_anyStore
  let told := (outpost.broadcastHere "/x" "hello" fun _ => true).2.record
    (·.count .publishedBroadcasts)
  let took := (told.onFloor (Floor.sendTo "/x" ⟨"a"⟩ "you")).2
  let waited : Node := { took with floor := { took.floor with now := 2000 } }
  let missed := waited.storeFailed "get_route" (.timedOut (.ofMillis 2000))
  have still (n : Node) : n.floor.Still n.floor := ⟨rfl, rfl⟩
  have published : (Sending.broadcast "/x" "hello").program.Ends Surroundings.anyStore outpost
      (.delivered ⟨1, [⟨"b"⟩]⟩) told :=
    ⟨_, .ok (), _, still _, still _, rfl, rfl⟩
  have taken : (Sending.single "/x" ⟨"a"⟩ "you").program.Ends Surroundings.anyStore told
      (.taken true) took :=
    ⟨rfl, rfl⟩
  have lookedUp : (Sending.single "/x" ⟨"b"⟩ "you").program.Ends Surroundings.anyStore took
      (.taken false) missed :=
    ⟨took, .error _, waited, still _, still _, rfl, rfl⟩
  have parted : (Sending.here "/x" "bye" fun s => s.lastActive < 1000).program.Ends
      Surroundings.anyStore missed (.delivered ⟨0, [⟨"a"⟩]⟩)
      (missed.broadcastHere "/x" "bye" fun s => s.lastActive < 1000).2 :=
    ⟨rfl, rfl⟩
  have run : ∃ n', Sends .anyStore outpost outpostSent n' :=
    ⟨_, .cons (still outpost) published <| .cons (still told) taken <|
      .cons (still took) lookedUp <| .cons (still missed) parted <| .nil _⟩
  obtain ⟨n', run⟩ := run
  obtain ⟨m', alone, still⟩ := autonomous.by_itself run
  exact ⟨Surroundings.aloof_anyStore, n', m', run, alone, still⟩

end SessionHub
