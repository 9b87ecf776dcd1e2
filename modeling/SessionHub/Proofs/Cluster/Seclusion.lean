import Mathlib.Logic.Relation
import SessionHub.Proofs.Cluster.Broadcast
import SessionHub.Proofs.Cluster.Voice
import SessionHub.Proofs.Store

/-!
# Clusters do not hear each other

Several clusters may share a store, and the pattern by which one listens to its broadcasts may fit
channels of another: where one prefix goes on behind the other, it does. `secluded` says that nothing
comes of it. Whatever the nodes of one cluster may publish, a node of another that hears it is left as
it was, but for what it writes down.

Three things keep the clusters apart. An envelope has to name the path of its channel, and a channel of
another cluster does not end with that path where the prefix ends. An envelope is no announcement, and
an announcement no envelope. And the pattern of the announcements, being escaped, fits one channel only.

A run is that of one node that listens, beside a store that anybody may call. Messages are heard when
forwarders have handed them on, which may be late and with others missed.
-/

namespace SessionHub

/-- Something that a node heard, and the node before and after. -/
structure Hearing where
  message : Message
  before : Node
  after : Node

/-- A node that listens, its store, and what it has heard so far, the earliest first. -/
structure Post where
  node : Node
  store : Store
  heard : List Hearing := []

namespace Node

/-- **Hearing nothing**: no session changes and neither does the roster, and what the node knows of its
cluster and has told its observers stays as it was. -/
structure Deaf (n n' : Node) : Prop where
  floor : n.floor.Still n'.floor
  membership : n'.membership = n.membership

theorem deaf_record (change : Journal → Journal) (n : Node) : Deaf n (n.record change) :=
  ⟨⟨rfl, rfl⟩, rfl⟩

variable {p q : KeyLayout} {n : Node} {m : Message}

/-- **A node takes no envelope of another cluster**, on whatever channel. -/
theorem deaf_hearBroadcast (distinct : p ≠ q) (here : n.membership.keys = p) (said : Spoken q m) :
    Deaf n (n.hearBroadcast m) := by
  unfold hearBroadcast
  cases said with
  | envelope e time =>
    rw [Envelope.decode_encode time]
    dsimp only
    rw [here, if_neg fun told => distinct (KeyLayout.eq_of_channelPath? told)]
    exact deaf_record _ n
  | leave node =>
    obtain ⟨f, refused⟩ := Envelope.decode_announcement (.leave node)
    rw [refused]
    exact deaf_record _ n

/-- **Nor an announcement of another cluster**, on the channel that it listens to. -/
theorem deaf_hearControl (distinct : p ≠ q) (fits : m.fits p.controlPattern = true)
    (said : Spoken q m) : Deaf n (n.hearControl m) := by
  unfold hearControl
  cases said with
  | envelope e time =>
    obtain ⟨f, refused⟩ := Announcement.decode_envelope time
    rw [refused]
    exact deaf_record _ n
  | leave node =>
    have own := KeyLayout.matches_controlPattern_iff.mp fits
    exact absurd (KeyLayout.controlChannel_inj own).symm distinct

theorem keys_hearControl (m : Message) (n : Node) :
    (n.hearControl m).membership.keys = n.membership.keys := by
  unfold hearControl
  split
  · rfl
  · rename_i a _
    cases a with
    | leave b =>
      unfold hear
      dsimp only
      split
      · rfl
      · split <;> rfl

end Node

/-! ## Runs -/

namespace Post

/-- A forwarder takes a step. -/
def forward (r : SubRef) (c : Post) : Post :=
  { c with store := c.store.modifySubscription r fun sub => (c.store.forwardStep sub).2 }

/-- The node hears the next message of a subscription, if there is one. -/
def hear (handle : Message → Node → Node) (r : SubRef) (c : Post) : Post :=
  match c.store.receive r with
  | (none, _) => c
  | (some m, s) =>
    { node := handle m c.node, store := s, heard := c.heard ++ [⟨m, c.node, handle m c.node⟩] }

/-- One step. Anybody may call the store, and so publish and subscribe; the node hears what comes on
subscriptions of its own patterns, and may change in any way that leaves it in its cluster. -/
inductive Step : Post → Post → Prop
  | call {c : Post} (now : Nat) (call : StoreCall) :
    Step c { c with store := (c.store.serve now call).2 }
  | switch {c : Post} (available : Bool) (latency : Nat) :
    Step c { c with store := { c.store with available, latency } }
  | forward {c : Post} (r : SubRef) : Step c (c.forward r)
  | hearBroadcast {c : Post} {r : SubRef}
    (own : (c.store.subscription r).pattern = c.node.membership.keys.broadcastPattern) :
    Step c (c.hear Node.hearBroadcast r)
  | hearControl {c : Post} {r : SubRef}
    (own : (c.store.subscription r).pattern = c.node.membership.keys.controlPattern) :
    Step c (c.hear Node.hearControl r)
  | received {c : Post} (r : SubRef) : Step c { c with store := (c.store.receive r).2 }
  | ended {c : Post} (r : SubRef) : Step c { c with store := c.store.unsubscribe r }
  | turn {c : Post} {n : Node} (same : n.membership.keys = c.node.membership.keys) :
    Step c { c with node := n }

/-- What runs lead to. -/
def Reaches : Post → Post → Prop := Relation.ReflTransGen Step

/-- Where a run may start: at a node of a cluster that has heard nothing yet, with nobody subscribed. -/
structure Begins (keys : KeyLayout) (c : Post) : Prop where
  layout : c.node.membership.keys = keys
  subscriptions : c.store.subscriptions = #[]
  heard : c.heard = []

/-- How a message was heard at a node of a cluster: as one of a broadcast channel or as one of the
control channel, each on a channel that fits the pattern. -/
structure Received (keys : KeyLayout) (d : Hearing) : Prop where
  layout : d.before.membership.keys = keys
  handled : d.after = d.before.hearBroadcast d.message ∨
    d.message.fits keys.controlPattern = true ∧ d.after = d.before.hearControl d.message

/-- **What is kept** by a run. -/
structure Kept (keys : KeyLayout) (c : Post) : Prop where
  layout : c.node.membership.keys = keys
  sifted : c.store.Sifted
  heard : ∀ d ∈ c.heard, Received keys d

variable {keys p q : KeyLayout} {start c c' : Post} {r : SubRef}

theorem Begins.kept (h : Begins keys c) : Kept keys c where
  layout := h.layout
  sifted := Store.sifted_of_nil h.subscriptions
  heard d here := by
    rw [h.heard] at here
    nomatch here

theorem Kept.hear (h : Kept keys c) {handle : Message → Node → Node}
    (stays : ∀ m, (handle m c.node).membership.keys = c.node.membership.keys)
    (received : ∀ m, m.fits (c.store.subscription r).pattern = true →
      Received keys ⟨m, c.node, handle m c.node⟩) : Kept keys (c.hear handle r) := by
  unfold Post.hear
  split
  · exact h
  · rename_i m s next
    have rest := h.sifted.receive r
    rw [next] at rest
    refine ⟨(stays m).trans h.layout, rest, fun d here => ?_⟩
    rcases List.mem_append.mp here with here | here
    · exact h.heard d here
    · exact List.mem_singleton.mp here ▸ received m (h.sifted.fits next)

/-- **One step keeps it.** -/
theorem Step.kept (step : Step c c') (h : Kept keys c) : Kept keys c' := by
  cases step with
  | call now call => exact ⟨h.layout, h.sifted.serve now call, h.heard⟩
  | switch available latency => exact ⟨h.layout, h.sifted, h.heard⟩
  | forward r =>
    have passed : (c.forward r).store.Sifted :=
      h.sifted.modifySubscription r (Store.sifted_forwardStep (h.sifted r) c.store)
    exact ⟨h.layout, passed, h.heard⟩
  | hearBroadcast own =>
    exact h.hear (fun m => (Node.hearBroadcast_stays m c.node).1.keys) fun m _ => ⟨h.layout, .inl rfl⟩
  | hearControl own =>
    refine h.hear (fun m => Node.keys_hearControl m c.node) fun m fits => ⟨h.layout, .inr ⟨?_, rfl⟩⟩
    rw [own, h.layout] at fits
    exact fits
  | received r => exact ⟨h.layout, h.sifted.receive r, h.heard⟩
  | ended r => exact ⟨h.layout, h.sifted.unsubscribe r, h.heard⟩
  | turn same => exact ⟨same.trans h.layout, h.sifted, h.heard⟩

/-- **A run keeps it.** -/
theorem Reaches.kept (run : Reaches c c') (h : Kept keys c) : Kept keys c' := by
  induction run with
  | refl => exact h
  | tail _ step ih => exact step.kept ih

/-- **Nothing comes of hearing another cluster.** Of whatever a node has heard in a run, what nodes of
another cluster may have published has changed neither its sessions nor its roster, neither its tables
of other nodes nor what its observers were told. -/
theorem secluded (distinct : p ≠ q) (begins : Begins p start) (run : Reaches start c) :
    ∀ d ∈ c.heard, Node.Publishes q d.message → Node.Deaf d.before d.after := by
  intro d here published
  have said := Node.spoken_of_publishes published
  obtain ⟨layout, broadcast | ⟨fits, control⟩⟩ := (run.kept begins.kept).heard d here
  · rw [broadcast]
    exact Node.deaf_hearBroadcast distinct layout said
  · rw [control]
    exact Node.deaf_hearControl distinct fits said

/-! ## A pattern that fits too much -/

/-- A cluster, and another whose prefix goes on behind the first one's as its broadcast channels do. -/
def outer : KeyLayout := ⟨"p"⟩
def inner : KeyLayout := ⟨"p:broadcast:x"⟩

/-- What a node of the second cluster publishes: an envelope, and that it leaves. -/
def murmur : Message := ⟨inner.broadcastChannel "/chat", Envelope.encode ⟨"/chat", "hello", ⟨"b"⟩, 0⟩⟩
def farewell : Message := ⟨inner.controlChannel, Announcement.encode (.leave ⟨"b"⟩)⟩

theorem publishes_murmur : Node.Publishes inner murmur :=
  (Node.Spoken.envelope ⟨"/chat", "hello", ⟨"b"⟩, 0⟩ ⟨by decide, by decide⟩).publishes

theorem publishes_farewell : Node.Publishes inner farewell := (Node.Spoken.leave ⟨"b"⟩).publishes

/-- A node of the first cluster subscribes to its broadcasts, both messages are published, and both are
handed on to it. -/
def silence : Post := { node := { id := ⟨"n"⟩, membership := { keys := outer } }, store := {} }
def subscribed : Post :=
  { silence with store := (silence.store.serve 0 (.subscribe outer.broadcastPattern)).2 }
def whispered : Post :=
  { subscribed with store := (subscribed.store.serve 0 (.publish murmur.channel murmur.payload)).2 }
def departing : Post :=
  { whispered with store := (whispered.store.serve 0 (.publish farewell.channel farewell.payload)).2 }
def overheard : Post :=
  (((departing.forward 0).forward 0).hear Node.hearBroadcast 0).hear Node.hearBroadcast 0

theorem overheard_reached : Reaches silence overheard :=
  Relation.ReflTransGen.refl.tail (.call 0 _) |>.tail (.call 0 _) |>.tail (.call 0 _)
    |>.tail (.forward 0) |>.tail (.forward 0) |>.tail (.hearBroadcast rfl) |>.tail (.hearBroadcast rfl)

/-- **Both are heard, and nothing comes of either.** -/
theorem overheard_secluded : outer ≠ inner ∧ Begins outer silence ∧ Reaches silence overheard ∧
    overheard.heard.map (·.message) = [murmur, farewell] ∧ Node.Publishes inner murmur ∧
    Node.Publishes inner farewell ∧
    ∀ d ∈ overheard.heard, Node.Publishes inner d.message → Node.Deaf d.before d.after := by
  have distinct : outer ≠ inner := by decide
  have begins : Begins outer silence := ⟨rfl, rfl, rfl⟩
  exact ⟨distinct, begins, overheard_reached, rfl, publishes_murmur, publishes_farewell,
    secluded distinct begins overheard_reached⟩

end Post

end SessionHub
