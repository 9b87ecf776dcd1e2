import SessionHub.Proofs.Cluster.Duties
import SessionHub.Proofs.Program.Pool
import SessionHub.Proofs.Store.Trails

/-!
# A node that keeps listening

A node sees to its subscriptions whenever it joins and whenever it beats. It looks whether it is
subscribed; if not, it makes two subscriptions, one after the other, and waits for the store each time;
and only then it says that it is subscribed and starts a listening job in place of the former one. Between
the look and the start anything may happen, and another attempt may begin.

A **vigil** is a node with its store, what has happened to the store so far, the subscriptions that the
node has made, and what it has heard on the broadcast channels, each message with its place on the bus.
The programs of the node are taken over to the vigil (`Node.vigilant`): a call waits until the store gets
to it, and then takes effect and is answered at once, or until its time is over, and then it never takes
effect.

What is proved here of the two programs is where they **stand** while they see to the subscriptions, and
which subscriptions they have in hand (`attempt_heeds`).
-/

namespace SessionHub

/-! ## Listening jobs -/

/-- The two subscriptions of a listening job, that to the broadcasts first. -/
def Work.ears? : Work → Option (SubRef × SubRef)
  | .listen _ broadcasts control => some (broadcasts, control)
  | _ => none

/-- The subscriptions of a job that listens and has not come to an end. -/
def Job.hears? (j : Job) : Option (SubRef × SubRef) := if j.phase.hasEnded then none else j.work.ears?

theorem filterMap_modify_eq {α β : Type} {view : α → Option β} {change : α → α}
    (same : ∀ x, view (change x) = view x) (l : List α) (i : Nat) :
    (l.modify i change).filterMap view = l.filterMap view := by
  induction l generalizing i with
  | nil => rw [List.modify_nil]
  | cons x l ih =>
    cases i with
    | zero => rw [List.modify_zero_cons, List.filterMap_cons, List.filterMap_cons, same]
    | succ i => rw [List.modify_succ_cons, List.filterMap_cons, List.filterMap_cons, ih]

theorem filterMap_modify_subset {α β : Type} {view : α → Option β} {change : α → α}
    (fewer : ∀ x b, view (change x) = some b → view x = some b) (l : List α) (i : Nat) :
    (l.modify i change).filterMap view ⊆ l.filterMap view := by
  intro b hb
  obtain ⟨x, hx, shown⟩ := List.mem_filterMap.mp hb
  obtain ⟨k, found⟩ := List.mem_iff_getElem?.mp hx
  rw [List.getElem?_modify, Option.map_eq_map, Option.map_eq_some_iff] at found
  obtain ⟨y, there, rfl⟩ := found
  refine List.mem_filterMap.mpr ⟨y, List.mem_of_getElem? there, ?_⟩
  split at shown
  · exact fewer y b shown
  · exact shown

namespace Node

variable {n n' n'' : Node}

/-- The subscriptions of all listening jobs that there have ever been. -/
def listeners (n : Node) : List (SubRef × SubRef) := n.jobs.toList.filterMap (·.work.ears?)

/-- The subscriptions of the jobs that still listen. -/
def listening (n : Node) : List (SubRef × SubRef) := n.jobs.toList.filterMap Job.hears?

/-- The subscriptions to broadcasts that have been listened to. -/
def ears (n : Node) : List SubRef := n.listeners.map (·.1)

/-- All subscriptions that have been listened to. -/
def followed (n : Node) : List SubRef := n.ears ++ n.listeners.map (·.2)

theorem listening_subset (n : Node) : n.listening ⊆ n.listeners := by
  intro x hx
  obtain ⟨j, hj, hears⟩ := List.mem_filterMap.mp hx
  unfold Job.hears? at hears
  split at hears
  · nomatch hears
  · exact List.mem_filterMap.mpr ⟨j, hj, hears⟩

/-- **A change that has nothing to do with listening**, but that jobs may come to an end. -/
structure Unstirred (n n' : Node) : Prop where
  listeners : n'.listeners = n.listeners
  listening : n'.listening ⊆ n.listening
  subscribed : n'.membership.subscribed = n.membership.subscribed

theorem Unstirred.trans (h : Unstirred n n') (h' : Unstirred n' n'') : Unstirred n n'' :=
  ⟨h'.listeners.trans h.listeners, fun _ hy => h.listening (h'.listening hy),
    h'.subscribed.trans h.subscribed⟩

theorem Unstirred.of_eq (jobs : n'.jobs = n.jobs)
    (subscribed : n'.membership.subscribed = n.membership.subscribed) : Unstirred n n' where
  listeners := by rw [Node.listeners, jobs]; rfl
  listening := by rw [Node.listening, jobs]; exact List.Subset.refl _
  subscribed := subscribed

theorem listeners_start (work : Work) (n : Node) :
    (n.start work).2.listeners = n.listeners ++ work.ears?.toList := by
  show (n.jobs.push { work }).toList.filterMap _ = _
  rw [Array.toList_push, List.filterMap_append]
  cases work <;> rfl

theorem listening_start (work : Work) (n : Node) :
    (n.start work).2.listening = n.listening ++ work.ears?.toList := by
  show (n.jobs.push { work }).toList.filterMap _ = _
  rw [Array.toList_push, List.filterMap_append]
  cases work <;> rfl

theorem unstirred_start {work : Work} (other : work.ears? = none) (n : Node) :
    Unstirred n (n.start work).2 where
  listeners := by rw [listeners_start, other]; exact List.append_nil _
  listening := by rw [listening_start, other, Option.toList_none, List.append_nil]; exact List.Subset.refl _
  subscribed := rfl

theorem unstirred_drop (job : JobRef) (n : Node) : Unstirred n (n.drop job) where
  listeners := by
    show (n.jobs.modify job _).toList.filterMap _ = _
    rw [Array.toList_modify]
    refine filterMap_modify_eq (fun j => ?_) _ job
    split <;> rfl
  listening := by
    show (n.jobs.modify job _).toList.filterMap _ ⊆ _
    rw [Array.toList_modify]
    refine filterMap_modify_subset (fun j x hears => ?_) _ job
    split at hears
    · exact hears
    · nomatch hears
  subscribed := rfl

theorem unstirred_storeSucceeded (n : Node) : Unstirred n n.storeSucceeded := by
  unfold storeSucceeded
  split <;> exact .of_eq rfl rfl

theorem unstirred_storeFailed (op : String) (fault : StoreFault) (n : Node) :
    Unstirred n (n.storeFailed op fault) := by
  unfold storeFailed
  dsimp only
  split <;> exact .of_eq rfl rfl

theorem unstirred_startRefresh (n : Node) : Unstirred n n.startRefresh := by
  rcases n.startRefresh_cases with still | started
  · rw [still]
    exact .of_eq rfl rfl
  · rw [started]
    exact (unstirred_start rfl n).trans (.of_eq rfl rfl)

theorem unstirred_hearBroadcast (m : Message) (n : Node) : Unstirred n (n.hearBroadcast m) := by
  unfold hearBroadcast
  split
  · exact .of_eq rfl rfl
  · split
    · unfold receiveEnvelope
      split <;> exact .of_eq rfl rfl
    · exact .of_eq rfl rfl

theorem unstirred_hearControl (m : Message) (n : Node) : Unstirred n (n.hearControl m) := by
  unfold hearControl
  split
  · exact .of_eq rfl rfl
  · rename_i a _
    obtain ⟨b⟩ := a
    show Unstirred n (n.hear (.leave b))
    unfold hear
    dsimp only
    split
    · exact .of_eq rfl rfl
    · split <;> exact .of_eq rfl rfl

/-- **A listening job takes over.** -/
theorem listenTo_stirs (broadcasts control : SubRef) (n : Node) :
    (n.listenTo broadcasts control).listeners = n.listeners ++ [(broadcasts, control)] ∧
      (n.listenTo broadcasts control).listening ⊆ n.listening ++ [(broadcasts, control)] ∧
      (n.listenTo broadcasts control).membership.subscribed = true := by
  have started := listeners_start (.listen n.seat broadcasts control) n
  have starting := listening_start (.listen n.seat broadcasts control) n
  unfold listenTo
  dsimp only
  split
  · rename_i former _
    have dropped := unstirred_drop former (n.start (.listen n.seat broadcasts control)).2
    exact ⟨dropped.listeners.trans started, starting ▸ dropped.listening, rfl⟩
  · exact ⟨started, starting ▸ List.Subset.refl _, rfl⟩

theorem unstirred_meet (b : Beacon) (n : Node) : Unstirred n (n.meet b) := by
  unfold meet
  dsimp only
  split <;> exact .of_eq rfl rfl

theorem unstirred_bury_all (dead : List NodeId) (n : Node) :
    Unstirred n (dead.foldl (fun n p => n.bury p) n) := by
  refine dead.foldlRecOn (motive := Unstirred n) _ (.of_eq rfl rfl) fun n' so p _ => so.trans ?_
  exact .of_eq rfl rfl

theorem unstirred_beginLeave (n : Node) : Unstirred n n.beginLeave := by
  unfold beginLeave
  dsimp only
  split <;> split
  · exact ((unstirred_drop _ n).trans (unstirred_drop ..)).trans (.of_eq rfl rfl)
  · exact (unstirred_drop _ n).trans (.of_eq rfl rfl)
  · exact (unstirred_drop _ n).trans (.of_eq rfl rfl)
  · exact .of_eq rfl rfl

/-- **Of all that a node does in its cluster only one thing stirs its listening**: that a listening job
takes over. -/
theorem Deed.unstirred {n n' : Node} (h : Deed n n') :
    Unstirred n n' ∨ ∃ broadcasts control, n' = n.listenTo broadcasts control := by
  cases h with
  | listening broadcasts control => exact .inr ⟨broadcasts, control, rfl⟩
  | met b other present => exact .inl (unstirred_meet b n)
  | buried dead => exact .inl (unstirred_bury_all dead n)
  | givenUp sub => exact .inl (unstirred_start rfl n)
  | refreshing => exact .inl (unstirred_startRefresh n)
  | leaving => exact .inl (unstirred_beginLeave n)
  | warned _ _ | pruned _ | published | sent _ _ _ => exact .inl (.of_eq rfl rfl)

end Node

/-! ## Vigils -/

/-- A node with its store, what has happened there so far, the subscriptions that the node has made, and
what it has heard on the broadcast channels, with the places on the bus. -/
structure Vigil where
  node : Node
  store : Store := {}
  story : List (Store × Store.Event) := []
  own : List SubRef := []
  heard : List (Nat × Message) := []

namespace Vigil

/-- Changes the node. -/
def setNode (n : Node) (v : Vigil) : Vigil := { v with node := n }

/-- Something happens to the store. -/
def happen (e : Store.Event) (v : Vigil) : Vigil :=
  { v with store := v.store.happen e, story := v.story ++ [(v.store, e)] }

/-- The store gets to a call of the node. -/
def serve (now : Nat) (call : StoreCall) (v : Vigil) : call.Answer × Vigil :=
  let made := match call with
    | .subscribe _ => if v.store.available then [v.store.subscriptions.size] else []
    | _ => []
  ((v.store.serve now call).1, { v.happen (.serve now call) with own := v.own ++ made })

/-- A listening job handles the next message of its broadcasts. -/
def hear (broadcasts : SubRef) (m : Message) (v : Vigil) : Vigil :=
  { v.happen (.receive broadcasts) with
    node := v.node.hearBroadcast m
    heard := v.heard ++ [((Store.trail broadcasts v.story).waiting.headD 0, m)] }

/-- **What goes on beside the attempts to be subscribed**: at the node, at the store, and in the
listening jobs. -/
inductive Turn (v : Vigil) : Vigil → Prop
  /-- The node does something else. -/
  | elsewhere {n : Node} (unstirred : v.node.Unstirred n) : Turn v (v.setNode n)
  /-- Something happens to the store: calls of other nodes, steps of forwarders, ends of subscriptions. -/
  | store {e : Store.Event} (possible : e.Possible v.store) (others : ∀ r ∈ v.own, e ≠ .receive r) :
    Turn v (v.happen e)
  /-- A listening job handles a broadcast, -/
  | hear {broadcasts control : SubRef} {m : Message} (listens : (broadcasts, control) ∈ v.node.listening)
    (next : (v.store.receive broadcasts).1 = some m) : Turn v (v.hear broadcasts m)
  /-- or an announcement. -/
  | mind {broadcasts control : SubRef} {m : Message} (listens : (broadcasts, control) ∈ v.node.listening)
    (next : (v.store.receive control).1 = some m) :
    Turn v ((v.happen (.receive control)).setNode (v.node.hearControl m))
  /-- It ends because one of its subscriptions did. -/
  | close {broadcasts control : SubRef} {n : Node} (listens : (broadcasts, control) ∈ v.node.listening)
    (unstirred : v.node.Unstirred n) (ended : (broadcasts, control) ∉ n.listening) :
    Turn v (v.setNode n.subscriptionEnded)

end Vigil

/-- A program of a vigil. Its calls wait until the store gets to them, and are told when; or until their
time is over. -/
abbrev VigilProgram (α : Type) := Program Vigil StoreCall (fun _ => Option Nat) α

/-- A program of a node that listens. Joining and beating put no jobs side by side. -/
def Node.vigilant {α : Type} (p : ClusterProgram α) : VigilProgram α :=
  p.embed Vigil.node Vigil.setNode fun
    | .store call => .call call fun
      | some now => .look fun v => .put (v.serve now call).2 (.done (v.serve now call).1)
      | none => .look fun v => .done (.error (.timedOut (.ofMillis v.node.membership.opTimeout)))
    | .together _ => .done (0 : Nat)

/-- An attempt to be subscribed. -/
inductive Attempt where
  | join
  | heartbeat
  deriving Repr, DecidableEq

/-- What runs in an attempt. -/
def Attempt.program : Attempt → VigilProgram Unit
  | .join => Node.vigilant Node.join
  | .heartbeat => Node.vigilant (discard Node.heartbeat)

/-- Attempts to be subscribed, side by side with everything else; or, if they are **orderly**, only where
no other attempt waits for a subscription. -/
def vigil (orderly : Bool) : System Vigil StoreCall (fun _ => Option Nat) Unit Attempt where
  program := Attempt.program
  admits _ _ _ waiting := orderly = true → ∀ w ∈ waiting, ∀ pattern, w.2 ≠ .subscribe pattern
  serves _ v _ v' := v' = v
  mayDrop _ := True
  turns := Vigil.Turn

/-! ## Where an attempt stands -/

/-- Where an attempt stands. -/
inductive Footing where
  /-- It has not looked yet. -/
  | fresh
  /-- It asks for the first subscription, -/
  | asking
  /-- has it and asks for the second, -/
  | holding (broadcasts : SubRef)
  /-- and has both. -/
  | paired (broadcasts control : SubRef)
  /-- It is over with subscribing. -/
  | through
  deriving Repr, DecidableEq

/-- The subscriptions that it has in hand. -/
def Footing.refs : Footing → List SubRef
  | .holding b => [b]
  | .paired b c => [b, c]
  | _ => []

/-- What an attempt may put in place. -/
inductive Footing.Puts : Footing → Vigil → Vigil → Footing → Prop
  | unstirred {g : Footing} {v : Vigil} {n : Node} (unstirred : v.node.Unstirred n) :
    Puts g v (v.setNode n) g
  | served {v : Vigil} {now : Nat} {call : StoreCall} (other : ∀ pattern, call ≠ .subscribe pattern) :
    Puts .through v (v.serve now call).2 .through
  | refused {g : Footing} {v : Vigil} {now : Nat} {pattern : String} (off : v.store.available = false) :
    Puts g v (v.serve now (.subscribe pattern)).2 g
  | first {v : Vigil} {now : Nat} {pattern : String} (on : v.store.available = true) :
    Puts .asking v (v.serve now (.subscribe pattern)).2 (.holding v.store.subscriptions.size)
  | second {b : SubRef} {v : Vigil} {now : Nat} {pattern : String} (on : v.store.available = true) :
    Puts (.holding b) v (v.serve now (.subscribe pattern)).2 (.paired b v.store.subscriptions.size)
  | listening {b c : SubRef} {v : Vigil} :
    Puts (.paired b c) v (v.setNode (v.node.listenTo b c)) .through

/-- What an attempt may ask. -/
inductive Footing.Asks : Footing → Vigil → StoreCall → Footing → Prop
  | first {v : Vigil} {pattern : String} (off : v.node.membership.subscribed = false) :
    Asks .fresh v (.subscribe pattern) .asking
  | second {b : SubRef} {v : Vigil} {pattern : String} :
    Asks (.holding b) v (.subscribe pattern) (.holding b)
  | other {g : Footing} {v : Vigil} {call : StoreCall} (other : ∀ pattern, call ≠ .subscribe pattern) :
    Asks g v call .through

/-- The conduct of attempts. -/
def attempting : Conduct Vigil StoreCall Footing where
  finds _ _ := True
  puts := Footing.Puts
  asks := Footing.Asks

namespace Node

variable {α β : Type}

theorem vigilant_bind (p : ClusterProgram α) (f : α → ClusterProgram β) :
    vigilant (p >>= f) = vigilant p >>= fun a => vigilant (f a) := by
  induction p with
  | done a => rfl
  | look next ih => exact congrArg Program.look (funext fun v => ih v.node)
  | put n next ih => exact congrArg Program.look (funext fun v => congrArg (Program.put _) ih)
  | call q resume ih =>
    cases q with
    | together work => exact ih (0 : Nat)
    | store call =>
      refine congrArg (Program.call call) (funext fun inTime => ?_)
      cases inTime with
      | none => exact congrArg Program.look (funext fun v => ih _)
      | some now => exact congrArg Program.look (funext fun v => congrArg (Program.put _) (ih _))

/-- **A call**: it is asked, may take effect, and the node registers how it came out. -/
theorem heeds_guarded {op : String} {call : StoreCall} {g g' : Footing} {v : Vigil}
    {ending : Footing → Vigil → Option call.Reply → Prop} (ask : Footing.Asks g v call g')
    (late : ∀ v, ending g' v none)
    (served : ∀ v now, ∃ g'', Footing.Puts g' v (v.serve now call).2 g'' ∧
      ∀ v', ending g'' v' (v.store.serve now call).1.toOption) :
    (vigilant (guarded op call)).Heeds attempting ending g v := by
  refine ⟨g', ask, fun inTime v _ => ?_⟩
  cases inTime with
  | none => exact ⟨g', .unstirred (unstirred_storeFailed ..), late _⟩
  | some now =>
    obtain ⟨g'', put, ended⟩ := served v now
    refine ⟨g'', put, ?_⟩
    rw [show (v.serve now call).1 = (v.store.serve now call).1 from rfl]
    cases answer : (v.store.serve now call).1 with
    | ok reply =>
      rw [answer] at ended
      exact ⟨g'', .unstirred (unstirred_storeSucceeded _), ended _⟩
    | error fault =>
      rw [answer] at ended
      exact ⟨g'', .unstirred (unstirred_storeFailed ..), ended _⟩

/-- A call that is no subscription. -/
theorem heeds_other {op : String} {call : StoreCall} (other : ∀ pattern, call ≠ .subscribe pattern)
    (g : Footing) (v : Vigil) :
    (vigilant (guarded op call)).Heeds attempting (fun _ _ _ => True) g v :=
  heeds_guarded (.other other) (fun _ => trivial) fun _ _ => ⟨_, .served other, fun _ => trivial⟩

/-- **A subscription**: it is made, and then it is in hand; or else it is not. -/
theorem heeds_subscribe {op pattern : String} {g g' : Footing} {after : SubRef → Footing} {v : Vigil}
    (ask : Footing.Asks g v (.subscribe pattern) g')
    (made : ∀ v now, v.store.available = true →
      Footing.Puts g' v (v.serve now (.subscribe pattern)).2 (after v.store.subscriptions.size)) :
    (vigilant (guarded op (.subscribe pattern))).Heeds attempting
      (fun g _ reply => ∀ r, reply = some r → g = after r) g v := by
  refine heeds_guarded ask (fun _ r none => absurd none (Option.some_ne_none r).symm) fun v now => ?_
  cases on : v.store.available with
  | true =>
    refine ⟨_, made v now on, fun _ r same => ?_⟩
    rw [Store.serve, if_pos on] at same
    exact congrArg after (Option.some.inj same)
  | false =>
    refine ⟨g', .refused on, fun _ r same => ?_⟩
    rw [Store.serve, if_neg (by rw [on]; exact Bool.false_ne_true)] at same
    exact absurd same (Option.some_ne_none r).symm

/-- A change of the node that does not concern its listening. -/
theorem heeds_modify_unstirred {change : Node → Node} (unstirred : ∀ n, Unstirred n (change n))
    (g : Footing) (v : Vigil) :
    (vigilant (Program.modify change)).Heeds attempting (fun _ _ _ => True) g v :=
  ⟨g, .unstirred (unstirred v.node), trivial⟩

theorem heeds_vigilant_get_bind {f : Node → ClusterProgram α} {ending : Footing → Vigil → α → Prop}
    {g : Footing} {v : Vigil} :
    (vigilant (Program.get >>= f)).Heeds attempting ending g v ↔
      (vigilant (f v.node)).Heeds attempting ending g v := Iff.rfl

/-- **Seeing to the subscriptions.** -/
theorem ensureSubscribed_heeds (v : Vigil) :
    (vigilant ensureSubscribed).Heeds attempting (fun _ _ _ => True) .fresh v := by
  unfold ensureSubscribed
  rw [heeds_vigilant_get_bind]
  split
  · exact trivial
  · rename_i off
    rw [Bool.or_eq_true, not_or, Bool.not_eq_true] at off
    rw [vigilant_bind]
    refine (heeds_subscribe (.first off.1) fun v now => .first).bind fun g v first known => ?_
    cases first with
    | none => exact trivial
    | some broadcasts =>
      obtain rfl := known broadcasts rfl
      rw [vigilant_bind]
      refine (heeds_subscribe .second fun v now => .second).bind fun g v second known => ?_
      cases second with
      | none => exact heeds_modify_unstirred (fun n => unstirred_start rfl n) g v
      | some control =>
        obtain rfl := known control rfl
        exact ⟨.through, .listening, trivial⟩

theorem writeRecord_heeds (g : Footing) (v : Vigil) :
    (vigilant writeRecord).Heeds attempting (fun _ _ _ => True) g v := by
  unfold writeRecord
  rw [heeds_vigilant_get_bind, vigilant_bind]
  exact (heeds_other (by simp) g v).bind fun _ _ _ _ => trivial

theorem heeds_discard {p : ClusterProgram α} {g : Footing} {v : Vigil}
    (h : (vigilant p).Heeds attempting (fun _ _ _ => True) g v) :
    (vigilant (discard p)).Heeds attempting (fun _ _ _ => True) g v := by
  show (vigilant (p >>= fun _ => .done ())).Heeds attempting _ g v
  rw [vigilant_bind]
  exact h.bind fun _ _ _ _ => trivial

theorem join_heeds (v : Vigil) : (vigilant join).Heeds attempting (fun _ _ _ => True) .fresh v := by
  unfold join
  rw [vigilant_bind]
  exact (ensureSubscribed_heeds v).bind fun g v _ _ => heeds_discard (writeRecord_heeds g v)

theorem heartbeat_heeds (v : Vigil) :
    (vigilant heartbeat).Heeds attempting (fun _ _ _ => True) .fresh v := by
  unfold heartbeat
  rw [heeds_vigilant_get_bind]
  split
  · exact trivial
  · rw [vigilant_bind]
    refine (ensureSubscribed_heeds v).bind fun g v _ _ => ?_
    rw [vigilant_bind]
    refine (writeRecord_heeds g v).bind fun g v written _ => ?_
    split
    · rw [vigilant_bind]
      exact (heeds_modify_unstirred unstirred_startRefresh g v).bind fun _ _ _ _ => trivial
    · exact trivial

end Node

/-- **Every attempt keeps to the conduct.** -/
theorem attempt_heeds (a : Attempt) (v : Vigil) :
    a.program.Heeds attempting (fun _ _ _ => True) .fresh v := by
  cases a with
  | join => exact Node.join_heeds v
  | heartbeat => exact Node.heeds_discard (Node.heartbeat_heeds v)

end SessionHub
