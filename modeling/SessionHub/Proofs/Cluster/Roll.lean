import SessionHub.Node.Hub
import SessionHub.Proofs.Cluster.Duties
import SessionHub.Proofs.Cluster.Leaves

/-!
# Peers are who was last told to have joined

A node keeps a table of its peers and tells its observers who joins, who leaves and who times out. The
two agree at every moment: `roll_agrees` says that a node stands on the **roll** of peers exactly if the
last word about it is that it joined. This holds in every run of all that a node does in its cluster,
whatever the store answers and whichever of its sweeps run side by side.

A leave that is repeated takes a node off the table without a word. That this breaks nothing rests on
a second fact, kept together with the first: nobody is a peer and departed at once.
-/

namespace SessionHub

/-- What observers were last told of a node. -/
def lastWord (b : NodeId) (events : List ClusterEvent) : Option ClusterEvent :=
  (events.filter (·.node? = some b)).getLast?

@[simp] theorem lastWord_nil (b : NodeId) : lastWord b [] = none := rfl

theorem lastWord_append (b : NodeId) (events told : List ClusterEvent) :
    lastWord b (events ++ told) = (lastWord b told).or (lastWord b events) := by
  rw [lastWord, List.filter_append, List.getLast?_append]
  rfl

/-- Nothing is told of who is not named. -/
theorem lastWord_eq_none {b : NodeId} {told : List ClusterEvent}
    (silent : ∀ e ∈ told, e.node? ≠ some b) : lastWord b told = none := by
  rw [lastWord, List.getLast?_eq_none_iff, List.filter_eq_nil_iff]
  exact fun e he => by simpa using silent e he

theorem lastWord_singleton {b : NodeId} {e : ClusterEvent} (named : e.node? = some b) :
    lastWord b [e] = some e := by
  simp [lastWord, named]

/-- The last word of some burials is one of them. -/
theorem lastWord_timedOut {b : NodeId} {dead : List NodeId} (buried : b ∈ dead) :
    lastWord b (dead.map .timedOut) = some (.timedOut b) := by
  have theirs : ∀ e ∈ (dead.map ClusterEvent.timedOut).filter (·.node? = some b), e = .timedOut b := by
    intro e he
    obtain ⟨he, named⟩ := List.mem_filter.mp he
    obtain ⟨p, _, rfl⟩ := List.mem_map.mp he
    rw [Option.some.inj (of_decide_eq_true named)]
  have named : ClusterEvent.timedOut b ∈
      (dead.map ClusterEvent.timedOut).filter (·.node? = some b) :=
    List.mem_filter.mpr ⟨List.mem_map.mpr ⟨b, buried, rfl⟩, decide_eq_true rfl⟩
  cases last : lastWord b (dead.map .timedOut) with
  | none => exact absurd (List.getLast?_eq_none_iff.mp last) (List.ne_nil_of_mem named)
  | some e => rw [theirs e (List.mem_of_getLast? last)]

namespace Node

/-- The records of the peers, in ascending order of their names. -/
def roll (n : Node) : List Beacon :=
  (n.membership.peers.mergeSort fun a b => decide (a.1.text ≤ b.1.text)).map (·.2)

/-- The roll is what a node shows of its peers. -/
theorem peerRecords_eq (n : Node) : n.peerRecords = .arr (n.roll.map Beacon.toJson) := by
  rw [peerRecords, roll, List.map_map]
  rfl

theorem mem_roll {n : Node} {r : Beacon} : r ∈ n.roll ↔ ∃ e ∈ n.membership.peers, e.2 = r := by
  simp [roll]

/-! ## What is kept -/

/-- **What is kept** of the table of peers: each record stands under its own node's name, nobody is a
peer and departed at once, the node itself is neither, and the peers are those whose last word is that
they joined. -/
structure Accord (n : Node) : Prop where
  filed : ∀ e ∈ n.membership.peers, e.2.node = e.1
  apart : ∀ b, IsDeparted b n → ¬ IsPeer b n
  stranger : ¬ IsPeer n.id n ∧ ¬ IsDeparted n.id n
  word : ∀ b, IsPeer b n ↔ lastWord b n.membership.events = some (.joined b)

theorem Accord.apart_change {n n' : Node} (h : Accord n) (c : Apart n n') : Accord n' := by
  have peer : ∀ b, IsPeer b n' ↔ IsPeer b n := fun b => by rw [IsPeer, IsPeer, c.peers]
  have departed : ∀ b, IsDeparted b n' ↔ IsDeparted b n := fun b => by
    rw [IsDeparted, IsDeparted, c.departed]
  obtain ⟨told, events, silent⟩ := c.news
  constructor
  · rw [c.peers]
    exact h.filed
  · intro b
    rw [peer, departed]
    exact h.apart b
  · rw [peer, departed, c.id]
    exact h.stranger
  · intro b
    have unsaid : lastWord b told = none := lastWord_eq_none fun e he => by simp [silent e he]
    rw [peer, events, lastWord_append, unsaid, Option.none_or]
    exact h.word b

theorem Accord.pruned {n : Node} (h : Accord n) (now : Int) : Accord (n.pruneDeparted now) where
  filed := h.filed
  apart b gone := h.apart b gone.of_pruneDeparted
  stranger := ⟨h.stranger.1, fun gone => h.stranger.2 gone.of_pruneDeparted⟩
  word := h.word

theorem peers_meet (r : Beacon) (n : Node) : (n.meet r).membership.peers
    = (r.node, r) :: n.membership.peers.filter (·.1 != r.node) := by
  unfold meet
  dsimp only
  split <;> rfl

theorem id_meet (r : Beacon) (n : Node) : (n.meet r).id = n.id := by
  unfold meet
  dsimp only
  split <;> rfl

theorem Accord.met {n : Node} (h : Accord n) {r : Beacon} (other : r.node ≠ n.id)
    (present : ¬ IsDeparted r.node n) : Accord (n.meet r) := by
  have departed : ∀ b, IsDeparted b (n.meet r) ↔ IsDeparted b n := fun b => by
    rw [IsDeparted, IsDeparted, departed_meet]
  constructor
  · intro e he
    rw [peers_meet] at he
    rcases List.mem_cons.mp he with rfl | he
    · rfl
    · exact h.filed e (List.mem_of_mem_filter he)
  · intro b gone peer
    rw [departed] at gone
    rcases (isPeer_meet r b n).mp peer with rfl | peer
    · exact present gone
    · exact h.apart b gone peer
  · rw [isPeer_meet, departed, id_meet, not_or]
    exact ⟨⟨other.symm, h.stranger.1⟩, h.stranger.2⟩
  · intro b
    rw [isPeer_meet, events_meet, lastWord_append]
    by_cases known : IsPeer r.node n
    · rw [if_pos known, lastWord_nil, Option.none_or, ← h.word b, or_iff_right_of_imp]
      rintro rfl
      exact known
    · rw [if_neg known]
      by_cases same : b = r.node
      · subst same
        simp [lastWord_singleton (e := .joined r.node) rfl]
      · have unsaid : lastWord b [.joined r.node] = none := by
          refine lastWord_eq_none fun e he => ?_
          rw [List.mem_singleton.mp he]
          exact fun named => same (Option.some.inj named).symm
        rw [unsaid, Option.none_or, or_iff_right same]
        exact h.word b

theorem id_bury_all (dead : List NodeId) (n : Node) :
    (dead.foldl (fun n p => n.bury p) n).id = n.id := by
  induction dead generalizing n with
  | nil => rfl
  | cons p rest ih => exact ih (n.bury p)

theorem peers_bury_all (dead : List NodeId) (n : Node) :
    (dead.foldl (fun n p => n.bury p) n).membership.peers.Sublist n.membership.peers := by
  induction dead generalizing n with
  | nil => exact .refl _
  | cons p rest ih => exact (ih (n.bury p)).trans List.filter_sublist

theorem Accord.buried {n : Node} (h : Accord n) (dead : List NodeId) :
    Accord (dead.foldl (fun n p => n.bury p) n) := by
  obtain ⟨peer, departed, events⟩ := bury_all dead n
  constructor
  · exact fun e he => h.filed e ((peers_bury_all dead n).subset he)
  · intro b gone
    rw [IsDeparted, departed] at gone
    exact fun still => h.apart b gone ((peer b).mp still).1
  · rw [peer, IsDeparted, departed, id_bury_all]
    exact ⟨fun still => h.stranger.1 still.1, h.stranger.2⟩
  · intro b
    rw [peer, events, lastWord_append]
    by_cases buried : b ∈ dead
    · simp [lastWord_timedOut buried, buried]
    · have unsaid : lastWord b (dead.map .timedOut) = none := by
        refine lastWord_eq_none fun e he => ?_
        obtain ⟨p, hp, rfl⟩ := List.mem_map.mp he
        exact fun named => buried (Option.some.inj named ▸ hp)
      rw [unsaid, Option.none_or, and_iff_left buried]
      exact h.word b

theorem peers_hear {b : NodeId} {n : Node} (other : b ≠ n.id) :
    (n.hear (.leave b)).id = n.id ∧
      (n.hear (.leave b)).membership.peers.Sublist n.membership.peers := by
  simp only [hear, if_neg other]
  split <;> exact ⟨rfl, List.filter_sublist⟩

/-- **A leave takes a node off the table with a word, or finds it departed**, and then it is no peer
and the last word stands. -/
theorem Accord.heard {n : Node} (h : Accord n) {b : NodeId} (other : b ≠ n.id) :
    Accord (n.hear (.leave b)) := by
  obtain ⟨id, peers⟩ := peers_hear other
  constructor
  · exact fun e he => h.filed e (peers.subset he)
  · intro p gone peer
    rw [isPeer_hear other] at peer
    rcases (isDeparted_hear other).mp gone with rfl | gone
    · exact peer.2 rfl
    · exact h.apart p gone peer.1
  · rw [id, isPeer_hear other, isDeparted_hear other, not_or]
    exact ⟨fun peer => h.stranger.1 peer.1, other.symm, h.stranger.2⟩
  · intro p
    rw [isPeer_hear other, events_hear other, lastWord_append]
    by_cases again : IsDeparted b n
    · rw [if_pos again, lastWord_nil, Option.none_or, ← h.word p, and_iff_left_of_imp]
      rintro peer rfl
      exact h.apart p again peer
    · rw [if_neg again]
      by_cases same : p = b
      · subst same
        simp [lastWord_singleton (e := .left p) rfl]
      · have unsaid : lastWord p [.left b] = none := by
          refine lastWord_eq_none fun e he => ?_
          rw [List.mem_singleton.mp he]
          exact fun named => same (Option.some.inj named).symm
        rw [unsaid, Option.none_or, and_iff_left same]
        exact h.word p

theorem Accord.swept {n n' : Node} (h : Accord n) (change : Swept n n') : Accord n' := by
  cases change with
  | succeeded => exact h.apart_change (apart_storeSucceeded n)
  | failed op fault => exact h.apart_change (apart_storeFailed op fault n)
  | warned message fields => exact h.apart_change (apart_record _ n)
  | pruned now => exact h.pruned now
  | met r other present => exact h.met other (not_isDeparted_iff.mpr present)
  | buried dead => exact h.buried dead

theorem Accord.hearControl {n : Node} (h : Accord n) (m : Message) :
    Accord (n.hearControl m) := by
  rcases hearControl_cases m n with c | ⟨b, other, heard⟩
  · exact h.apart_change c
  · rw [heard]
    exact h.heard other

/-! ## Runs -/

/-- A node that does everything that it has to do in its cluster, any number of things side by side.
The store may answer them anything and fail at any time, and each may be dropped where it waits. In
between messages of the control channel are handled, time passes, and the node may change in what is
no concern of the tables. -/
def tenure : System Node ClusterAsk ClusterAsk.Answer Unit Duty where
  program := attend
  admits _ _ _ _ := True
  serves _ n _ n' := n' = n
  mayDrop _ := True
  turns n n' := Apart n n' ∨ ∃ m, n' = n.hearControl m

/-- The discipline of a node's duties. -/
def attended : Discipline tenure Unit where
  toConduct := .within Tended
  start _ := ()
  ending _ _ _ _ := True
  holds n _ _ _ _ := Accord n
  heeds {d n _ _ _} _ _ := attend_tended d n
  called h _ := h
  answered h served := ⟨trivial, served ▸ h⟩
  put h tended := by
    cases tended.swept_or_apart with
    | inl change => exact h.swept change
    | inr change => exact h.apart_change change
  asked h _ := h
  returned h _ := h
  dropped h _ := h
  turned {n _ _ _ _} h turned := by
    rcases turned with change | ⟨m, rfl⟩
    · exact h.apart_change change
    · exact h.hearControl m

/-- **The roll and the event stream agree** at every moment of every run from a node that knows of no
other: a node stands on the roll exactly if the last word about it is that it joined. Nobody is a peer
and departed at once, and the node itself is neither. -/
theorem roll_agrees {n : Node} (peers : n.membership.peers = [])
    (departed : n.membership.departed = []) (events : n.membership.events = [])
    {p : Pool Node ClusterAsk ClusterAsk.Answer Unit Duty} (run : tenure.Reaches n p) :
    (∀ b, (∃ r ∈ p.state.roll, r.node = b) ↔
        lastWord b p.state.membership.events = some (.joined b)) ∧
      (∀ b, ¬ (IsPeer b p.state ∧ IsDeparted b p.state)) ∧
      ¬ IsPeer p.state.id p.state ∧ ¬ IsDeparted p.state.id p.state := by
  have first : Accord n := by
    constructor
    · simp [peers]
    · simp [IsDeparted, departed]
    · simp [IsPeer, IsDeparted, peers, departed]
    · simp [IsPeer, peers, events]
  obtain ⟨_, _, _, _, h⟩ := attended.sound first run
  refine ⟨fun b => ?_, fun b both => h.apart b both.2 both.1, h.stranger⟩
  rw [← h.word b]
  constructor
  · intro listed
    obtain ⟨r, listed, rfl⟩ := listed
    obtain ⟨e, he, rfl⟩ := mem_roll.mp listed
    exact List.mem_map.mpr ⟨e, he, (h.filed e he).symm⟩
  · intro peer
    obtain ⟨e, he, rfl⟩ := List.mem_map.mp peer
    exact ⟨e.2, mem_roll.mpr ⟨e, he, rfl⟩, h.filed e he⟩

/-! ## One that stays and one that leaves -/

/-- The record of a third node, and where it is kept. -/
def token : String × String :=
  ("c", Beacon.encode { node := ⟨"c"⟩, lastBeat := 1000, startedAt := 0 })

/-- Two sweeps side by side find the records of two other nodes. -/
def introduced : Pool Node ClusterAsk ClusterAsk.Answer Unit Duty :=
  Pool.answer (obliging [vestige, token]) 0 (Pool.answer (obliging [vestige, token]) 0
    (Pool.call tenure .sweep (Pool.call tenure .sweep { state := lone })))

/-- One of them leaves, and says so twice. -/
def bereft : Pool Node ClusterAsk ClusterAsk.Answer Unit Duty :=
  let notice : Message := ⟨"control", Announcement.encode (.leave ⟨"b"⟩)⟩
  let once := introduced.turn (introduced.state.hearControl notice)
  once.turn (once.state.hearControl notice)

theorem introduced_reached : tenure.Reaches lone introduced :=
  .answer (.answer (.call (.call .init trivial) trivial) (fun _ => rfl) 0) (fun _ => rfl) 0

theorem bereft_reached : tenure.Reaches lone bereft :=
  .turn (.turn introduced_reached (.inr ⟨_, rfl⟩)) (.inr ⟨_, rfl⟩)

/-- The other stands on the roll, and of the one that left observers have been told once. -/
theorem bereft_roll :
    lone.membership.peers = [] ∧ lone.membership.departed = [] ∧ lone.membership.events = [] ∧
      tenure.Reaches lone bereft ∧
      (∀ b, (∃ r ∈ bereft.state.roll, r.node = b) ↔
        lastWord b bereft.state.membership.events = some (.joined b)) ∧
      (∀ b, ¬ (IsPeer b bereft.state ∧ IsDeparted b bereft.state)) ∧
      ¬ IsPeer bereft.state.id bereft.state ∧ ¬ IsDeparted bereft.state.id bereft.state ∧
      bereft.state.membership.events = [.joined ⟨"b"⟩, .joined ⟨"c"⟩, .left ⟨"b"⟩] ∧
      bereft.state.roll.map (·.node) = [⟨"c"⟩] := by
  obtain ⟨agree, apart, peer, departed⟩ := roll_agrees rfl rfl rfl bereft_reached
  exact ⟨rfl, rfl, rfl, bereft_reached, agree, apart, peer, departed, by decide +kernel,
    by decide +kernel⟩

end Node

end SessionHub
