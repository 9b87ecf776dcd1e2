import Mathlib.Logic.Function.Basic
import SessionHub.Proofs.Cluster.Broadcast
import SessionHub.Proofs.Store

/-!
# Nodes that share a store

Several nodes share a store, and each follows the broadcast channels by a subscription of its own. A
run of them is any interleaving of broadcasts, which wait for the store in between, of forwarders that
take message after message from the bus, of nodes that hear what was forwarded to them, and of anything
else that happens to the nodes' sessions and to the store.

What is done to a node's sessions in the name of a broadcast is kept as **deeds**, with the floor as it
was before and after: when it is called, when the store has answered it, and when its envelope is heard.
-/

namespace SessionHub

/-- Who takes part: the common layout of keys, and the name and the subscription of each node. -/
structure Fleet (ι : Type) where
  keys : KeyLayout
  name : ι → NodeId
  sub : ι → SubRef
  name_inj : Function.Injective name
  sub_inj : Function.Injective sub

/-- A broadcast that was called. -/
structure Cast (ι : Type) where
  origin : ι
  path : String
  payload : String

/-- A broadcast that waits for an answer. -/
abbrev Cast.Strand (ι : Type) :=
  SessionHub.Strand Node ClusterAsk ClusterAsk.Answer Broadcast (Cast ι)

/-- Something that was done at a node, and the node's floor before and after. -/
structure Deed (β : Type) where
  what : β
  before : Floor
  after : Floor

/-- The nodes and their store, the broadcasts that wait for an answer, and what was done so far, the
earliest first. -/
structure Net (ι : Type) where
  nodes : ι → Node
  store : Store
  waiting : List (Cast.Strand ι) := []
  casts : List (Deed (Cast ι)) := []
  published : List (Deed (Cast ι)) := []
  heard : ι → List (Deed Message) := fun _ => []

variable {ι : Type}

namespace Fleet

variable (F : Fleet ι)

/-! ## Who takes part -/

/-- A node that takes part. Its roster is a table of its sessions, and its clock shows a time. -/
structure Member (i : ι) (n : Node) : Prop where
  id : n.id = F.name i
  keys : n.membership.keys = F.keys
  inCluster : n.inCluster = true
  listed : n.floor.Listed
  time : IsTime n.wall

variable {F}

theorem Member.of_stays {i : ι} {n n' : Node} (h : F.Member i n) (stays : Node.Stays n n')
    (listed : n'.floor.Listed) : F.Member i n' where
  id := stays.id.trans h.id
  keys := stays.keys.trans h.keys
  inCluster := stays.inCluster.trans h.inCluster
  listed := listed
  time := stays.wall ▸ h.time

/-- Who lets a session in still takes part. -/
theorem Member.enrol {i : ι} {n : Node} (h : F.Member i n) (path : String) (handshake : Handshake)
    (outbox : Outbox) : F.Member i (n.enrol path handshake outbox).2 := by
  have listed : ∀ s, (Floor.register (n.floor.place s).1 (n.floor.place s).2).2.Listed :=
    fun s => (h.listed.place s).register (by simp [Floor.place])
  unfold Node.enrol
  dsimp only
  split
  · rename_i refused
    have kept := refused ▸ listed _
    exact h.of_stays ⟨rfl, rfl, rfl, rfl⟩ ((kept.aside (Floor.aside_close ..)).of_still ⟨rfl, rfl⟩)
  · rename_i taken
    have kept := taken ▸ listed _
    exact h.of_stays ⟨rfl, rfl, rfl, rfl⟩ (kept.of_still ⟨rfl, rfl⟩)

/-- And so does whoever does anything aside to its sessions: sends, removes, touches or closes them. -/
theorem Member.onFloor {α : Type} {i : ι} {n : Node} (h : F.Member i n) {change : Floor → α × Floor}
    (aside : n.floor.Aside (change n.floor).2) : F.Member i (n.onFloor change).2 :=
  h.of_stays ⟨rfl, rfl, rfl, rfl⟩ (h.listed.aside aside)

variable (F)

/-- What else happens to the store: the nodes' subscriptions stay, and nothing is published that they
would hear. -/
structure Beside (s s' : Store) : Prop where
  available : s'.available = s.available
  bus : ∃ more, s'.bus.toList = s.bus.toList ++ more ∧
    ∀ m ∈ more, m.fits F.keys.broadcastPattern = false
  size : s.subscriptions.size ≤ s'.subscriptions.size
  subscriptions : ∀ j, s'.subscription (F.sub j) = s.subscription (F.sub j)

/-- Whatever is asked of the store is of this kind, but for what is published on channels that the
nodes hear. -/
theorem beside_serve (now : Nat) (call : StoreCall) {s : Store}
    (there : ∀ j, F.sub j < s.subscriptions.size)
    (elsewhere : ∀ channel payload, call = .publish channel payload →
      Message.fits F.keys.broadcastPattern ⟨channel, payload⟩ = false) :
    F.Beside s (s.serve now call).2 := by
  have same : ∀ entries, F.Beside s { s with entries } := fun entries =>
    ⟨rfl, ⟨[], (List.append_nil _).symm, nofun⟩, Nat.le_refl _, fun _ => rfl⟩
  unfold Store.serve
  split
  · cases call with
    | set key value ttl => exact same _
    | get key =>
      dsimp only [Store.perform]
      split
      · exact same s.entries
      · exact same _
    | delete key => exact same _
    | scan start => exact same _
    | publish channel payload =>
      refine ⟨rfl, ⟨[⟨channel, payload⟩], Array.toList_push, ?_⟩, Nat.le_refl _, fun _ => rfl⟩
      intro m here
      rw [List.mem_singleton.mp here]
      exact elsewhere channel payload rfl
    | subscribe pattern =>
      refine ⟨rfl, ⟨[], (List.append_nil _).symm, nofun⟩, ?_, fun j => getD_push_of_lt _ (there j)⟩
      simp [Store.perform, Store.subscribe]
  · exact same s.entries

/-! ## Messages -/

/-- A message carries a broadcast, as it was at some time. -/
def Carries (b : Cast ι) (m : Message) : Prop :=
  ∃ timestamp, IsTime timestamp ∧ m = ⟨F.keys.broadcastChannel b.path,
    Envelope.encode { path := b.path, payload := b.payload, source := F.name b.origin, timestamp }⟩

/-- A broadcast that waits for its message to be published, and is over then. -/
def Publishes (f : Cast.Strand ι) : Prop :=
  (∃ m, F.Carries f.call m ∧ f.question = .store (.publish m.channel m.payload)) ∧
    ∀ a n, (f.resume a).Heeds (Conduct.alone Node.Quiet) (fun _ _ _ => True) () n

variable {F}

theorem Member.carries {b : Cast ι} {n : Node} (h : F.Member b.origin n) :
    F.Carries b ⟨n.membership.keys.broadcastChannel b.path,
      (n.envelope b.path b.payload).encode⟩ := by
  have sent : n.envelope b.path b.payload
      = { path := b.path, payload := b.payload, source := F.name b.origin, timestamp := n.wall } := by
    rw [Node.envelope, h.id]
  exact ⟨n.wall, h.time, by rw [sent, h.keys]⟩

theorem Carries.fits {b : Cast ι} {m : Message} (h : F.Carries b m) :
    m.fits F.keys.broadcastPattern = true := by
  obtain ⟨_, _, rfl⟩ := h
  exact F.keys.matches_broadcastChannel b.path

end Fleet

/-! ## Runs -/

/-- What a store answers to a question, and what becomes of it. About jobs on routes, which no broadcast
asks, it has nothing to say. -/
def Store.answer (now : Nat) : (q : ClusterAsk) → Store → q.Answer × Store
  | .store call, s => s.serve now call
  | .together _, s => ((0 : Nat), s)

theorem Store.answer_publish (now : Nat) {q : ClusterAsk} {s : Store} {m : Message}
    (asked : q = .store (.publish m.channel m.payload)) (available : s.available = true) :
    (s.answer now q).2 = s.publish m := by
  subst asked
  rw [answer, Store.serve, if_pos available]
  rfl

namespace Net

/-- What is still to come for a subscription. -/
def due (c : Net ι) (r : SubRef) : List Message := c.store.due (c.store.subscription r)

/-- A forwarder takes a step. -/
def forward (r : SubRef) (c : Net ι) : Net ι :=
  { c with store := c.store.modifySubscription r fun sub => (c.store.forwardStep sub).2 }

variable [DecidableEq ι]

/-- Puts a node in place. -/
def set (i : ι) (n : Node) (c : Net ι) : Net ι := { c with nodes := Function.update c.nodes i n }

/-- A broadcast is called, and goes on until it waits for the store. -/
def cast (b : Cast ι) (c : Net ι) : Net ι :=
  let n := c.nodes b.origin
  let p := Pool.go b (Node.broadcast b.path b.payload) { state := n }
  { c.set b.origin p.state with
    waiting := c.waiting ++ p.strands
    casts := c.casts ++ [⟨b, n.floor, p.state.floor⟩] }

/-- One of the broadcasts that wait is answered by the store, and goes on. -/
def answer (now k : Nat) (c : Net ι) : Net ι :=
  match c.waiting[k]? with
  | none => c
  | some f =>
    let n := c.nodes f.call.origin
    let served := c.store.answer now f.question
    let p := Pool.go f.call (f.resume served.1) { state := n }
    { c.set f.call.origin p.state with
      store := served.2
      waiting := c.waiting.eraseIdx k ++ p.strands
      published := c.published ++ [⟨f.call, n.floor, p.state.floor⟩] }

/-- A node hears the next message of a subscription, if there is one. -/
def hear (j : ι) (r : SubRef) (c : Net ι) : Net ι :=
  match c.store.receive r with
  | (none, _) => c
  | (some m, s) =>
    let n := c.nodes j
    let n' := n.hearBroadcast m
    { c.set j n' with
      store := s
      heard := Function.update c.heard j (c.heard j ++ [⟨m, n.floor, n'.floor⟩]) }

end Net

namespace Fleet

variable (F : Fleet ι) [DecidableEq ι]

/-- One step. A forwarder may go on as long as it has not fallen behind the bus; a node may change in
any way that leaves it a member. -/
inductive Step : Net ι → Net ι → Prop
  | cast {c : Net ι} (b : Cast ι) : Step c (c.cast b)
  | answer {c : Net ι} (now k : Nat) : Step c (c.answer now k)
  | forward {c : Net ι} {j : ι}
    (can : c.store.canForward (c.store.subscription (F.sub j)) = true)
    (caught : (c.store.forwardStep (c.store.subscription (F.sub j))).1 = 0) :
    Step c (c.forward (F.sub j))
  | hear {c : Net ι} (j : ι) : Step c (c.hear j (F.sub j))
  | turn {c : Net ι} {i : ι} {n : Node} (member : F.Member i n) : Step c (c.set i n)
  | elsewhere {c : Net ι} {s : Store} (beside : F.Beside c.store s) : Step c { c with store := s }

/-- **Deeds are all there is**: a node's floor changes only by a turn of its own, or by a deed that is
kept. -/
theorem Step.deeds {F : Fleet ι} {c c' : Net ι} (next : F.Step c c') (i : ι) :
    let done {β : Type} (what : β) : Deed β := ⟨what, (c.nodes i).floor, (c'.nodes i).floor⟩
    c'.nodes i = c.nodes i ∨ (∃ n, F.Member i n ∧ c' = c.set i n) ∨
      (∃ b, b.origin = i ∧ c'.casts = c.casts ++ [done b]) ∨
      (∃ b, b.origin = i ∧ c'.published = c.published ++ [done b]) ∨
      ∃ m, c'.heard i = c.heard i ++ [done m] := by
  intro done
  cases next with
  | cast b =>
    by_cases here : i = b.origin
    · subst here
      exact .inr (.inr (.inl ⟨b, rfl, by simp [done, Net.cast, Net.set]⟩))
    · exact .inl (Function.update_of_ne here ..)
  | answer now k =>
    cases found : c.waiting[k]? with
    | none => exact .inl (by simp [Net.answer, found])
    | some f =>
      by_cases here : i = f.call.origin
      · subst here
        exact .inr (.inr (.inr (.inl ⟨f.call, rfl, by simp [done, Net.answer, found, Net.set]⟩)))
      · exact .inl (by simp [Net.answer, found, Net.set, here])
  | forward can caught => exact .inl rfl
  | hear j =>
    cases next : c.store.receive (F.sub j) with
    | mk received s =>
      cases received with
      | none => exact .inl (by simp [Net.hear, next])
      | some m =>
        by_cases here : i = j
        · subst here
          exact .inr (.inr (.inr (.inr ⟨m, by simp [done, Net.hear, next, Net.set]⟩)))
        · exact .inl (by simp [Net.hear, next, Net.set, here])
  | @turn i' n member =>
    by_cases here : i = i'
    · subst here
      exact .inr (.inl ⟨n, member, rfl⟩)
    · exact .inl (Function.update_of_ne here ..)
  | elsewhere beside => exact .inl rfl

/-- Where a run may start: every node takes part and has its subscription, in which anything may wait,
and the store is available. -/
structure Established (c : Net ι) : Prop where
  members : ∀ i, F.Member i (c.nodes i)
  follows : ∀ j, c.store.Follows F.keys.broadcastPattern (F.sub j)
  available : c.store.available = true
  waiting : c.waiting = []
  casts : c.casts = []
  published : c.published = []
  heard : ∀ j, c.heard j = []

/-- What runs lead to. -/
inductive Reaches (start : Net ι) : Net ι → Prop
  | init : Reaches start start
  | step {c c' : Net ι} (before : Reaches start c) (next : F.Step c c') : Reaches start c'

/-- Nothing waits any more: every broadcast has been answered, and every node has heard all there is. -/
structure Settled (c : Net ι) : Prop where
  answered : c.waiting = []
  heard : ∀ j, c.due (F.sub j) = []

end Fleet

end SessionHub
