import SessionHub.Proofs.Delivery
import SessionHub.Proofs.KeyLayout
import SessionHub.Proofs.Program.Pool
import SessionHub.Proofs.Wire

/-!
# One node's part in a broadcast

A node that broadcasts hands the payload to its own sessions and asks the store to publish an envelope,
all in one stretch; when it is answered it only writes down how that went. A node that hears the
envelope hands the payload to its sessions if the envelope is another's, and to nobody if it is its
own.
-/

namespace SessionHub

/-- The conduct of programs that ask nothing and make changes of one kind. -/
def Conduct.alone {σ Q : Type} (R : σ → σ → Prop) : Conduct σ Q Unit where
  finds _ _ := True
  puts _ s s' _ := R s s'
  asks _ _ _ _ := False

/-- A program that asks nothing is over after one stretch. -/
theorem Pool.go_alone {σ Q α ι : Type} {A : Q → Type} {R : σ → σ → Prop} (refl : ∀ s, R s s)
    (trans : ∀ {s s' s''}, R s s' → R s' s'' → R s s'') {c : ι} {prog : Program σ Q A α}
    {p : Pool σ Q A α ι}
    (h : prog.Heeds (Conduct.alone R) (fun _ _ _ => True) () p.state) :
    R p.state (p.go c prog).state ∧ (p.go c prog).strands = p.strands := by
  induction prog generalizing p with
  | done a => exact ⟨refl _, rfl⟩
  | look next ih => exact ih p.state h
  | put s next ih =>
    obtain ⟨_, put, rest⟩ := h
    obtain ⟨kept, strands⟩ := ih (p := p.turn s) rest
    exact ⟨trans put kept, strands⟩
  | call q resume ih =>
    obtain ⟨_, impossible, _⟩ := h
    exact impossible.elim

namespace Node

/-- A change of a node that leaves alone its name, its clock and its place in the cluster. -/
structure Stays (n n' : Node) : Prop where
  id : n'.id = n.id
  wall : n'.wall = n.wall
  keys : n'.membership.keys = n.membership.keys
  inCluster : n'.inCluster = n.inCluster

/-- A change of a node that is no concern of its sessions either. -/
def Quiet (n n' : Node) : Prop := Stays n n' ∧ n.floor.Still n'.floor

variable {n n' n'' : Node} {path payload : String}

theorem Stays.trans (h : Stays n n') (h' : Stays n' n'') : Stays n n'' :=
  ⟨h'.id.trans h.id, h'.wall.trans h.wall, h'.keys.trans h.keys, h'.inCluster.trans h.inCluster⟩

theorem Quiet.refl (n : Node) : Quiet n n := ⟨⟨rfl, rfl, rfl, rfl⟩, rfl, rfl⟩

theorem Quiet.trans (h : Quiet n n') (h' : Quiet n' n'') : Quiet n n'' :=
  ⟨h.1.trans h'.1, h.2.trans h'.2⟩

theorem quiet_record (change : Journal → Journal) (n : Node) : Quiet n (n.record change) :=
  ⟨⟨rfl, rfl, rfl, rfl⟩, rfl, rfl⟩

theorem quiet_storeSucceeded (n : Node) : Quiet n n.storeSucceeded := by
  unfold storeSucceeded
  split <;> exact ⟨⟨rfl, rfl, rfl, rfl⟩, rfl, rfl⟩

theorem quiet_storeFailed (op : String) (fault : StoreFault) (n : Node) :
    Quiet n (n.storeFailed op fault) := by
  unfold storeFailed
  dsimp only
  split <;> exact ⟨⟨rfl, rfl, rfl, rfl⟩, rfl, rfl⟩

/-! ## Broadcasting -/

/-- What a node broadcasts. -/
def envelope (path payload : String) (n : Node) : Envelope :=
  { path, payload, source := n.id, timestamp := n.wall }

theorem handed_broadcastHere (listed : n.floor.Listed) (path payload : String) :
    let n' := (n.broadcastHere path payload fun _ => true).2
    Stays n n' ∧ n.floor.Aside n'.floor ∧
      Floor.Handed payload (n.floor.onPath path) n.floor n'.floor := by
  have counted : (n.record (·.count .localBroadcasts)).floor.Listed := ⟨listed.distinct, listed.named⟩
  have handed := Floor.handed_deliver counted path payload
  exact ⟨⟨rfl, rfl, rfl, rfl⟩, (aside_broadcastHere ..).floor,
    handed.taken, handed.lost, handed.others, handed.now⟩

/-- **A broadcast hands the payload to the node's own sessions and asks for one envelope to be
published**; whatever it is answered, it asks nothing more and no session is concerned. -/
theorem go_broadcast {ι : Type} (c : ι) (path payload : String) (member : n.inCluster = true) :
    let p := Pool.go c (broadcast path payload) { state := n }
    p.state = (n.broadcastHere path payload fun _ => true).2 ∧
      ∃ resume, p.strands = [{
          call := c
          question := .store
            (.publish (n.membership.keys.broadcastChannel path) (n.envelope path payload).encode)
          resume }] ∧
        ∀ a n, (resume a).Heeds (Conduct.alone Quiet) (fun _ _ _ => True) () n := by
  have still : (n.broadcastHere path payload fun _ => true).2.inCluster = true := member
  have stretch : Pool.go c (broadcast path payload) { state := n }
      = Pool.go c ((publish path payload n.id).bind fun published =>
          pure { here := (n.broadcastHere path payload fun _ => true).1, published })
        (Pool.turn (n.broadcastHere path payload fun _ => true).2 { state := n }) := by
    show Pool.go c (if (n.broadcastHere path payload fun _ => true).2.inCluster = true then _ else _)
      (Pool.turn _ _) = _
    rw [if_pos still]
    rfl
  rw [stretch]
  refine ⟨rfl, _, rfl, fun a s => ?_⟩
  cases a with
  | ok reply => exact ⟨(), quiet_storeSucceeded s, (), quiet_record _ _, trivial⟩
  | error fault => exact ⟨(), quiet_storeFailed _ fault s, trivial⟩

/-! ## Hearing -/

/-- Whatever message a node hears, it stays in its cluster, and nobody comes to its floor. -/
theorem hearBroadcast_stays (m : Message) (n : Node) :
    Stays n (n.hearBroadcast m) ∧ n.floor.Aside (n.hearBroadcast m).floor := by
  unfold hearBroadcast
  split
  · exact ⟨⟨rfl, rfl, rfl, rfl⟩, Floor.aside_record (by simp)⟩
  · rename_i e _
    split
    · unfold receiveEnvelope
      split
      · exact ⟨⟨rfl, rfl, rfl, rfl⟩, Floor.aside_record (by simp)⟩
      · have counted : n.floor.Aside (n.record (·.count .receivedEnvelopes)).floor :=
          Floor.aside_record (by simp)
        exact ⟨⟨rfl, rfl, rfl, rfl⟩, counted.trans (Floor.aside_deliver ..)⟩
    · exact ⟨⟨rfl, rfl, rfl, rfl⟩, Floor.aside_record (by simp)⟩

/-- An envelope on the channel of its path is received. -/
theorem hearBroadcast_encode {keys : KeyLayout} (same : n.membership.keys = keys) {e : Envelope}
    (time : IsTime e.timestamp) :
    n.hearBroadcast ⟨keys.broadcastChannel e.path, e.encode⟩ = (n.receiveEnvelope e).2 := by
  unfold hearBroadcast
  rw [Envelope.decode_encode time]
  dsimp only
  rw [same, KeyLayout.channelPath?_broadcastChannel, if_pos rfl]

/-- **What comes back delivers nothing.** -/
theorem still_receiveEnvelope {e : Envelope} (own : e.source = n.id) :
    n.floor.Still (n.receiveEnvelope e).2.floor := by
  rw [receiveEnvelope, if_pos own]
  exact ⟨rfl, rfl⟩

/-- **What comes from another node is handed to the sessions of its path.** -/
theorem handed_receiveEnvelope (listed : n.floor.Listed) {e : Envelope} (other : e.source ≠ n.id) :
    Floor.Handed e.payload (n.floor.onPath e.path) n.floor (n.receiveEnvelope e).2.floor := by
  have counted : (n.record (·.count .receivedEnvelopes)).floor.Listed :=
    ⟨listed.distinct, listed.named⟩
  have handed := Floor.handed_deliver counted e.path e.payload
  rw [receiveEnvelope, if_neg other]
  exact ⟨handed.taken, handed.lost, handed.others, handed.now⟩

end Node

end SessionHub
