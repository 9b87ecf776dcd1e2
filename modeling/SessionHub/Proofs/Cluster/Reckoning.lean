import Mathlib.Data.List.Nodup
import SessionHub.Proofs.Cluster.Review
import SessionHub.Proofs.Wire

/-!
# What a sweep comes to

A sweep has its site for itself. At the time of its scan some records *are posted*: they stand in the
store, readable, under the key of the node that they are of. Of those that **concern** the node, which are
those of other nodes that are not departed, some are fresh and their nodes live; the others have lapsed.
`sweep_reckons` says all that a sweep makes of this. It holds for dead whose record has lapsed and the
peers that have no fresh one; its roll is those that live; observers are told of whoever is new on it and
of whoever is dead; and the store loses the lapsed records and the routes of the dead, and nothing else.

Calls take their time. So there are two times to speak of, that of the scan and that at which the sweep
looks at the clock, and what has been over for the store since is no part of what it keeps.
-/

namespace SessionHub

namespace Site

/-- **A site in order**: no node stands twice in the table of peers, no peer is departed and the node is
no peer of its own; no key stands twice in the store; and every readable record stands under the key of
its own node. -/
structure InOrder (s : Site) : Prop where
  distinct : (s.node.membership.peers.map (·.1)).Nodup
  apart : ∀ a, Node.IsPeer a s.node → ¬ Node.IsDeparted a s.node
  stranger : ¬ Node.IsPeer s.node.id s.node
  keyed : s.store.Keyed
  filed : ∀ k text b, s.store.value? s.now k = some text →
    Store.startsWith k s.node.membership.keys.nodeStart = true → Beacon.decode text = .ok b →
      k = s.node.membership.keys.nodeKey b.node

/-- Whether a record is posted at some time: it stands in the store, under the key of its node. -/
def Posts (t : Nat) (s : Site) (b : Beacon) : Prop :=
  ∃ text, s.store.value? t (s.node.membership.keys.nodeKey b.node) = some text ∧
    Beacon.decode text = .ok b

/-- Whether a node concerns a sweep that looks at the wall clock at some time: it is another one, and not
departed any less than twice a lifetime ago. -/
def Concerns (w : Int) (s : Site) (a : NodeId) : Prop :=
  a ≠ s.node.id ∧ ¬ Node.IsDeparted a (s.node.pruneDeparted w)

/-- Whether a record is one of the living. -/
structure Lives (t : Nat) (w : Int) (s : Site) (b : Beacon) : Prop where
  posted : s.Posts t b
  concerns : s.Concerns w b.node
  young : b.isExpiredAt w s.node.membership.ttl = false

/-- Whether a record has lapsed. -/
structure Lapsed (t : Nat) (w : Int) (s : Site) (b : Beacon) : Prop where
  posted : s.Posts t b
  concerns : s.Concerns w b.node
  expired : b.isExpiredAt w s.node.membership.ttl = true

/-- **What a sweep comes to** that scans at one time and looks at the wall clock at another. -/
structure Reckoned (t : Nat) (w : Int) (s : Site) (dead : List NodeId) (s' : Site) : Prop where
  /-- Nobody is held for dead twice. -/
  once : dead.Nodup
  /-- The dead are those whose record has lapsed, and the peers that have no fresh one. -/
  verdict : ∀ a, a ∈ dead ↔ (∃ b, s.Lapsed t w b ∧ b.node = a) ∨
    (Node.IsPeer a s.node ∧
      ¬ ∃ b, s.Posts t b ∧ b.node = a ∧ b.isExpiredAt w s.node.membership.ttl = false)
  /-- The roll is the records of the living, one of each. -/
  roll : ∀ b, b ∈ s'.node.roll ↔ s.Lives t w b
  distinct : (s'.node.roll.map (·.node)).Nodup
  /-- Observers are told once of each of the living that was no peer, and once of each of the dead. -/
  events : ∃ met : List NodeId, met.Nodup ∧
    (∀ a, a ∈ met ↔ ¬ Node.IsPeer a s.node ∧ ∃ b, s.Lives t w b ∧ b.node = a) ∧
    s'.node.membership.events = s.node.membership.events ++
      (if s.node.membership.degraded then [.recovered] else []) ++ met.map .joined ++
      dead.map .timedOut
  /-- Of what the store would still hold it has lost the lapsed records and the routes of the dead. -/
  store : ∀ u, s'.now ≤ u → ∀ k v, s'.store.value? u k = some v ↔ s.store.value? u k = some v ∧
    (¬ ∃ b, s.Lapsed t w b ∧ k = s.node.membership.keys.nodeKey b.node) ∧
    ¬ Node.RoutesTo s.node.membership.keys dead k v
  /-- The node's own record is as it was. -/
  own : ∀ u, s'.now ≤ u → s'.store.value? u s.node.recordKey = s.store.value? u s.node.recordKey

variable {s s' : Site} {t : Nat} {w : Int} {a : NodeId} {b b' : Beacon}

/-- Of a node no two records are posted at one time. -/
theorem Posts.unique (h : s.Posts t b) (h' : s.Posts t b') (same : b.node = b'.node) : b = b' := by
  obtain ⟨text, value, read⟩ := h
  obtain ⟨text', value', read'⟩ := h'
  rw [same, value'] at value
  obtain rfl := Option.some.inj value
  exact Except.ok.inj (read.symm.trans read')

/-- A peer concerns a sweep. -/
theorem InOrder.concerns (order : s.InOrder) (peer : Node.IsPeer a s.node) : s.Concerns w a :=
  ⟨fun own => order.stranger (own ▸ peer), fun gone => order.apart a peer gone.of_pruneDeparted⟩

end Site

namespace Node

open Site

variable {s s' : Site} {t : Nat} {w : Int} {a : NodeId} {b : Beacon} {found : List (String × String)}
  {routes : List String} {dead : List NodeId}

/-- The node's own record is none of what the store loses. -/
theorem own_kept {u : Nat} (held : ∀ k v, s'.store.value? u k = some v ↔ s.store.value? u k = some v ∧
      (¬ ∃ b, s.Lapsed t w b ∧ k = s.node.membership.keys.nodeKey b.node) ∧
      ¬ RoutesTo s.node.membership.keys dead k v) :
    s'.store.value? u s.node.recordKey = s.store.value? u s.node.recordKey := by
  ext v
  rw [held, and_iff_left]
  constructor
  · intro h
    obtain ⟨b, lapsed, same⟩ := h
    exact lapsed.concerns.1 (KeyLayout.nodeKey_inj same).symm
  · intro h
    obtain ⟨begins, _⟩ := h
    exact KeyLayout.not_routeStart_prefix_nodeKey _ _ (List.isPrefixOf_iff_prefix.mp begins)

/-! ## Who is met -/

/-- The living as peers, the last one that was met first. -/
def metPeers (w : Int) (n : Node) (found : List (String × String)) : List (NodeId × Beacon) :=
  ((living w n found).map (·.2)).reverse.map fun b => (b.node, b)

theorem mem_metPeers {e : NodeId × Beacon} :
    e ∈ metPeers w s.node found ↔ ∃ r ∈ living w s.node found, (r.2.node, r.2) = e := by
  simp [metPeers]

/-- The peers of before that were not met. -/
def unmetPeers (w : Int) (n : Node) (found : List (String × String)) : List (NodeId × Beacon) :=
  n.membership.peers.filter fun e => !(names (living w n found)).contains e.1

theorem mem_unmetPeers {e : NodeId × Beacon} : e ∈ unmetPeers w s.node found ↔
    e ∈ s.node.membership.peers ∧ e.1 ∉ names (living w s.node found) := by
  simp [unmetPeers]

theorem names_metPeers : (metPeers w s.node found).map (·.1) = (names (living w s.node found)).reverse := by
  rw [metPeers, names, List.map_map, ← List.map_reverse, List.map_map, List.map_reverse]
  rfl

/-! ## The census -/

section Scanned

variable (scanned : Scanned s.node.membership.keys.nodeStart t s found) (order : s.InOrder)
include scanned order

/-- **The census of a scan are the posted records that concern the sweep.** -/
theorem Scanned.mem_census {key : String} :
    (key, b) ∈ (s.node.pruneDeparted w).census found ↔
      key = s.node.membership.keys.nodeKey b.node ∧ s.Posts t b ∧ s.Concerns w b.node := by
  rw [Node.mem_census]
  constructor
  · intro h
    obtain ⟨text, listed, read, concerns⟩ := h
    obtain ⟨value, begins⟩ := (scanned.mem_iff key text).mp listed
    obtain rfl := order.filed key text b (Store.value?_earlier scanned.late value) begins read
    exact ⟨rfl, ⟨text, value, read⟩, concerns⟩
  · intro h
    obtain ⟨rfl, ⟨text, value, read⟩, concerns⟩ := h
    exact ⟨text, (scanned.mem_iff _ text).mpr ⟨value, Store.startsWith_append ..⟩, read, concerns⟩

theorem Scanned.mem_living {key : String} :
    (key, b) ∈ living w s.node found ↔
      key = s.node.membership.keys.nodeKey b.node ∧ s.Lives t w b := by
  rw [living, fresh, List.mem_filter, scanned.mem_census order, Bool.not_eq_true']
  constructor
  · intro h
    obtain ⟨⟨same, posted, concerns⟩, young⟩ := h
    exact ⟨same, posted, concerns, young⟩
  · intro h
    obtain ⟨same, posted, concerns, young⟩ := h
    exact ⟨⟨same, posted, concerns⟩, young⟩

theorem Scanned.mem_perished {key : String} :
    (key, b) ∈ perished w s.node found ↔
      key = s.node.membership.keys.nodeKey b.node ∧ s.Lapsed t w b := by
  rw [perished, stale, List.mem_filter, scanned.mem_census order]
  constructor
  · intro h
    obtain ⟨⟨same, posted, concerns⟩, expired⟩ := h
    exact ⟨same, posted, concerns, expired⟩
  · intro h
    obtain ⟨same, posted, concerns, expired⟩ := h
    exact ⟨⟨same, posted, concerns⟩, expired⟩

theorem Scanned.mem_names_living :
    a ∈ names (living w s.node found) ↔ ∃ b, s.Lives t w b ∧ b.node = a := by
  constructor
  · intro named
    obtain ⟨⟨key, b⟩, listed, rfl⟩ := List.mem_map.mp named
    exact ⟨b, ((scanned.mem_living order).mp listed).2, rfl⟩
  · intro h
    obtain ⟨b, lives, rfl⟩ := h
    exact List.mem_map.mpr ⟨(_, b), (scanned.mem_living order).mpr ⟨rfl, lives⟩, rfl⟩

theorem Scanned.mem_names_perished :
    a ∈ names (perished w s.node found) ↔ ∃ b, s.Lapsed t w b ∧ b.node = a := by
  constructor
  · intro named
    obtain ⟨⟨key, b⟩, listed, rfl⟩ := List.mem_map.mp named
    exact ⟨b, ((scanned.mem_perished order).mp listed).2, rfl⟩
  · intro h
    obtain ⟨b, lapsed, rfl⟩ := h
    exact List.mem_map.mpr ⟨(_, b), (scanned.mem_perished order).mpr ⟨rfl, lapsed⟩, rfl⟩

/-- No node is in a census twice. -/
theorem Scanned.names_nodup : (names ((s.node.pruneDeparted w).census found)).Nodup := by
  have keys : ((s.node.pruneDeparted w).census found).map (·.1)
      = (names ((s.node.pruneDeparted w).census found)).map s.node.membership.keys.nodeKey := by
    rw [names, List.map_map]
    exact List.map_congr_left fun r listed => ((scanned.mem_census order).mp listed).1
  exact List.Nodup.of_map _ (keys ▸ (census_keys found).nodup scanned.distinct)

theorem Scanned.living_nodup : (names (living w s.node found)).Nodup :=
  (List.filter_sublist.map _).nodup (scanned.names_nodup order)

theorem Scanned.perished_nodup : (names (perished w s.node found)).Nodup :=
  (List.filter_sublist.map _).nodup (scanned.names_nodup order)

/-- Nobody lives whose record has lapsed. -/
theorem Scanned.disjoint
    (listed : a ∈ names (living w s.node found)) : a ∉ names (perished w s.node found) := by
  intro listed'
  obtain ⟨b, lives, rfl⟩ := (scanned.mem_names_living order).mp listed
  obtain ⟨b', lapsed, same⟩ := (scanned.mem_names_perished order).mp listed'
  obtain rfl := lapsed.posted.unique lives.posted same
  exact absurd lapsed.expired (by simp [lives.young])

/-! ## The peers -/

/-- **Who is a peer after the greetings**: those that live, and the peers of before. -/
theorem Scanned.greeting_eq :
    greeting w s.node found = { (s.node.pruneDeparted w).membership.recover with
      peers := metPeers w s.node found ++ unmetPeers w s.node found
      events := (s.node.pruneDeparted w).membership.recover.events ++
        ((names (living w s.node found)).filter fun a => ¬ IsPeer a s.node).map .joined } := by
  have nodes : ((living w s.node found).map (·.2)).map (·.node) = names (living w s.node found) := by
    rw [List.map_map]
    rfl
  have distinct := scanned.living_nodup order (w := w)
  rw [← nodes] at distinct
  rw [greeting, Membership.greet_all distinct, nodes]
  rfl

variable (tallied : Tallied w found routes s dead s')
include tallied

/-- The verdict by its two parts. -/
theorem Scanned.verdict_eq :
    dead = names (perished w s.node found) ++
      ((unmetPeers w s.node found).map (·.1)).filter fun a => a ∉ names (perished w s.node found) := by
  have met : ((metPeers w s.node found).map (·.1)).filter (fun p =>
      !(names (living w s.node found)).contains p && !(names (perished w s.node found)).contains p)
        = [] := by
    refine List.filter_eq_nil_iff.mpr fun a listed => ?_
    rw [names_metPeers, List.mem_reverse] at listed
    simp [listed]
  rw [tallied.verdict, scanned.greeting_eq order, List.map_append, List.filter_append, met,
    List.nil_append]
  refine congrArg (_ ++ ·) (List.filter_congr fun a listed => ?_)
  obtain ⟨e, other, rfl⟩ := List.mem_map.mp listed
  simp [(mem_unmetPeers.mp other).2]

/-- **Who is dead.** -/
theorem Scanned.mem_dead :
    a ∈ dead ↔ a ∈ names (perished w s.node found) ∨
      (IsPeer a s.node ∧ a ∉ names (living w s.node found)) := by
  have other : a ∈ (unmetPeers w s.node found).map (·.1) ↔
      IsPeer a s.node ∧ a ∉ names (living w s.node found) := by
    constructor
    · intro listed
      obtain ⟨e, other, rfl⟩ := List.mem_map.mp listed
      obtain ⟨peer, unmet⟩ := mem_unmetPeers.mp other
      exact ⟨List.mem_map.mpr ⟨e, peer, rfl⟩, unmet⟩
    · intro h
      obtain ⟨peer, unmet⟩ := h
      obtain ⟨e, listed, rfl⟩ := List.mem_map.mp peer
      exact List.mem_map.mpr ⟨e, mem_unmetPeers.mpr ⟨listed, unmet⟩, rfl⟩
  rw [scanned.verdict_eq order tallied, List.mem_append, List.mem_filter, other, decide_eq_true_eq]
  tauto

theorem Scanned.dead_nodup : dead.Nodup := by
  rw [scanned.verdict_eq order tallied]
  have rest : ((unmetPeers w s.node found).map (·.1)).Nodup :=
    (List.filter_sublist.map _).nodup order.distinct
  refine List.nodup_append'.mpr ⟨scanned.perished_nodup order, rest.filter _, ?_⟩
  intro a lapsed listed
  exact absurd lapsed (of_decide_eq_true (List.mem_filter.mp listed).2)

/-- **Who is a peer in the end**: those that live. -/
theorem Scanned.peers_eq : s'.node.membership.peers = metPeers w s.node found := by
  have alive : (metPeers w s.node found).filter (fun e => !dead.contains e.1)
      = metPeers w s.node found := by
    refine List.filter_eq_self.mpr fun e listed => ?_
    have met : e.1 ∈ names (living w s.node found) := by
      rw [← List.mem_reverse, ← names_metPeers]
      exact List.mem_map_of_mem listed
    have spared : e.1 ∉ dead := by
      rw [scanned.mem_dead order tallied, not_or]
      exact ⟨scanned.disjoint order met, fun both => both.2 met⟩
    simpa using spared
  have buried : (unmetPeers w s.node found).filter (fun e => !dead.contains e.1) = [] := by
    refine List.filter_eq_nil_iff.mpr fun e listed => ?_
    obtain ⟨peer, unmet⟩ := mem_unmetPeers.mp listed
    have doomed : e.1 ∈ dead :=
      (scanned.mem_dead order tallied).mpr (.inr ⟨List.mem_map_of_mem peer, unmet⟩)
    simpa using doomed
  rw [tallied.site.membership, Membership.mourn, scanned.greeting_eq order]
  dsimp only
  rw [List.filter_append, alive, buried, List.append_nil]

/-! ## The reckoning -/

theorem Scanned.mem_roll : b ∈ s'.node.roll ↔ s.Lives t w b := by
  rw [Node.mem_roll, scanned.peers_eq order tallied]
  constructor
  · intro h
    obtain ⟨_, listed, rfl⟩ := h
    obtain ⟨⟨key, b⟩, lives, rfl⟩ := mem_metPeers.mp listed
    exact ((scanned.mem_living order).mp lives).2
  · intro lives
    exact ⟨(b.node, b), mem_metPeers.mpr ⟨(_, b), (scanned.mem_living order).mpr ⟨rfl, lives⟩, rfl⟩, rfl⟩

theorem Scanned.roll_nodup : (s'.node.roll.map (·.node)).Nodup := by
  have sorted : (s'.node.roll.map (·.node)).Perm (s'.node.membership.peers.map (·.2.node)) := by
    rw [Node.roll, List.map_map]
    exact (List.mergeSort_perm ..).map _
  have nodes : (metPeers w s.node found).map (·.2.node) = (metPeers w s.node found).map (·.1) := by
    refine List.map_congr_left fun e listed => ?_
    obtain ⟨r, _, rfl⟩ := mem_metPeers.mp listed
    rfl
  rw [sorted.nodup_iff, scanned.peers_eq order tallied, nodes, names_metPeers, List.nodup_reverse]
  exact scanned.living_nodup order

/-- **What observers are told.** -/
theorem Scanned.events_eq :
    s'.node.membership.events = s.node.membership.events ++
      (if s.node.membership.degraded then [.recovered] else []) ++
      ((names (living w s.node found)).filter fun a => ¬ IsPeer a s.node).map .joined ++
      dead.map .timedOut := by
  rw [tallied.site.membership, Membership.mourn, scanned.greeting_eq order]
  rfl

/-- **What the store still holds.** -/
theorem Scanned.value?_eq_some_iff {u : Nat} (later : s'.now ≤ u) (k v : String) :
    s'.store.value? u k = some v ↔ s.store.value? u k = some v ∧
      (¬ ∃ b, s.Lapsed t w b ∧ k = s.node.membership.keys.nodeKey b.node) ∧
      ¬ RoutesTo s.node.membership.keys dead k v := by
  have deleted : k ∈ (perished w s.node found).map (·.1) ↔
      ∃ b, s.Lapsed t w b ∧ k = s.node.membership.keys.nodeKey b.node := by
    constructor
    · intro listed
      obtain ⟨⟨key, b⟩, lapsed, rfl⟩ := List.mem_map.mp listed
      obtain ⟨same, lapsed⟩ := (scanned.mem_perished order).mp lapsed
      exact ⟨b, lapsed, same⟩
    · intro h
      obtain ⟨b, lapsed, rfl⟩ := h
      exact List.mem_map.mpr ⟨(_, b), (scanned.mem_perished order).mpr ⟨rfl, lapsed⟩, rfl⟩
  rw [tallied.site.value?_eq_some_iff order.keyed later, List.mem_append, not_or, ← deleted]
  exact and_congr_right fun held => and_congr_right fun undeleted =>
    not_congr (tallied.routes u later k v held undeleted)

/-- **What has been tallied is reckoned up.** -/
theorem Scanned.reckoned : s.Reckoned t w dead s' where
  once := scanned.dead_nodup order tallied
  verdict a := by
    rw [scanned.mem_dead order tallied, scanned.mem_names_perished order, scanned.mem_names_living order]
    refine or_congr_right (and_congr_right fun peer => not_congr (exists_congr fun b => ?_))
    constructor
    · intro h
      obtain ⟨lives, same⟩ := h
      exact ⟨lives.posted, same, lives.young⟩
    · intro h
      obtain ⟨posted, rfl, young⟩ := h
      exact ⟨⟨posted, order.concerns peer, young⟩, rfl⟩
  roll b := scanned.mem_roll order tallied
  distinct := scanned.roll_nodup order tallied
  events := by
    refine ⟨_, (scanned.living_nodup order).filter _, fun a => ?_, scanned.events_eq order tallied⟩
    rw [List.mem_filter, scanned.mem_names_living order, decide_eq_true_eq]
    exact and_comm
  store u later := scanned.value?_eq_some_iff order tallied later
  own u later := own_kept (scanned.value?_eq_some_iff order tallied later)

end Scanned

/-- **What a sweep comes to** at a site in order, with nobody else about: it comes to an end, and whenever it
does, it has reckoned up the records that were posted at the time of its scan, with the wall clock as it
was some time after. -/
theorem sweep_reckons (order : s.InOrder) :
    (∃ dead s', (afar sweep).Ends calm s dead s') ∧
      ∀ dead s', (afar sweep).Ends calm s dead s' → ∃ t u, s.now ≤ t ∧ t ≤ u ∧ u ≤ s'.now ∧
        s.Reckoned t (s.node.wall + ((u : Int) - s.now)) dead s' := by
  refine ⟨Program.exists_ends calm_answers _ s, fun dead s' ended => ?_⟩
  obtain ⟨t, u, found, routes, scanned, before, past, tallied⟩ := sweep_ends order.keyed ended
  exact ⟨t, u, scanned.late, before, past, scanned.reckoned order tallied⟩

/-! ## A wake -/

/-- Records of nodes: one's own and that of a departed one, both too old, that of a peer, too old as well,
and that of a node that is new. -/
def wakeRecords : List Beacon :=
  [⟨⟨"a"⟩, 0, 0⟩, ⟨⟨"b"⟩, 1000, 0⟩, ⟨⟨"c"⟩, 3000, 0⟩, ⟨⟨"e"⟩, 1000, 0⟩]

/-- A node with two peers, of whom one has fallen silent and of the other no record is left. Among the
records is one that cannot be read, and two sessions have a route. -/
def wake : Site where
  node := { lone with
    wall := 3000
    membership := { lone.membership with
      peers := [(⟨"d"⟩, ⟨⟨"d"⟩, 2000, 0⟩), (⟨"b"⟩, ⟨⟨"b"⟩, 1000, 0⟩)]
      departed := [(⟨"e"⟩, 2500)] } }
  store.entries :=
    wakeRecords.map (fun b => (lone.membership.keys.nodeKey b.node, ⟨b.encode, 60000⟩)) ++
      [(lone.membership.keys.nodeKey ⟨"f"⟩, ⟨"?", 60000⟩),
        (lone.membership.keys.routeKey "/chat" ⟨"r"⟩, ⟨"a", 60000⟩),
        (lone.membership.keys.routeKey "/chat" ⟨"s"⟩, ⟨"d", 60000⟩)]

theorem decode_wakeRecords : ∀ b ∈ wakeRecords, Beacon.decode b.encode = .ok b := by
  have time : IsTime 0 ∧ IsTime 1000 ∧ IsTime 3000 :=
    ⟨⟨by decide, by decide⟩, ⟨by decide, by decide⟩, ⟨by decide, by decide⟩⟩
  obtain ⟨zero, one, three⟩ := time
  simp only [wakeRecords, List.forall_mem_cons]
  exact ⟨Beacon.decode_encode zero zero, Beacon.decode_encode one zero, Beacon.decode_encode three zero,
    Beacon.decode_encode one zero, by simp⟩

theorem wake_inOrder : wake.InOrder where
  distinct := by decide
  apart := by
    intro a peer
    have both : ∀ a ∈ wake.node.membership.peers.map (·.1), ¬ IsDeparted a wake.node := by decide
    exact both a peer
  stranger := by decide
  keyed := by
    unfold Store.Keyed
    decide +kernel
  filed := by
    intro k text b value begins read
    obtain ⟨e, found, rfl⟩ := Option.map_eq_some_iff.mp value
    have here := mem_of_lookup (Option.filter_eq_some_iff.mp found).1
    rcases List.mem_append.mp here with here | here
    · obtain ⟨r, listed, same⟩ := List.mem_map.mp here
      obtain ⟨rfl, rfl⟩ := Prod.mk.inj same
      obtain rfl := Except.ok.inj ((decode_wakeRecords r listed).symm.trans read)
      rfl
    · have garbled : (Beacon.decode "?").isOk = false := by decide +kernel
      simp only [List.mem_cons, List.not_mem_nil, or_false, Prod.mk.injEq] at here
      rcases here with ⟨rfl, rfl⟩ | ⟨rfl, rfl⟩ | ⟨rfl, rfl⟩
      · rw [read] at garbled
        exact absurd garbled (by simp [Except.isOk, Except.toBool])
      · exact absurd begins (by decide +kernel)
      · exact absurd begins (by decide +kernel)

/-- The beat of the silent peer lies back further than a lifetime, and ever further. -/
theorem wake_silent {w : Int} (later : 3000 ≤ w) :
    Beacon.isExpiredAt ⟨⟨"b"⟩, 1000, 0⟩ w wake.node.membership.ttl = true := by
  refine decide_eq_true ?_
  show 1000 < (min (w - 1000) _).toNat
  have far : (1001 : Int) ≤ (twoTo 63 : Int) - 1 := by decide
  omega

/-- **A wake is held**, however long the sweep takes: both peers are dead, the silent one and the one of
whom there is no record, and the session of the latter has no route any more. -/
theorem wake_reckoned : wake.InOrder ∧
    (∃ dead s', (afar sweep).Ends calm wake dead s') ∧
      ∀ dead s', (afar sweep).Ends calm wake dead s' →
        ⟨"b"⟩ ∈ dead ∧ ⟨"d"⟩ ∈ dead ∧ ∀ u, s'.now ≤ u →
          s'.store.value? u (lone.membership.keys.routeKey "/chat" ⟨"s"⟩) = none ∧
          s'.store.value? u wake.node.recordKey = wake.store.value? u wake.node.recordKey := by
  obtain ⟨ends, all⟩ := sweep_reckons wake_inOrder
  refine ⟨wake_inOrder, ends, fun dead s' ended => ?_⟩
  obtain ⟨t, u, _, _, _, reckoned⟩ := all dead s' ended
  have silent : ⟨"b"⟩ ∈ dead := by
    refine (reckoned.verdict _).mpr (.inr ⟨by decide, ?_⟩)
    intro h
    obtain ⟨b, ⟨text, value, read⟩, same, young⟩ := h
    rw [same] at value
    have posted : wake.store.value? 0 (wake.node.membership.keys.nodeKey ⟨"b"⟩)
        = some (Beacon.encode ⟨⟨"b"⟩, 1000, 0⟩) := by decide +kernel
    obtain rfl := Option.some.inj (posted.symm.trans (Store.value?_earlier (Nat.zero_le t) value))
    obtain rfl := Except.ok.inj ((decode_wakeRecords _ (by simp [wakeRecords])).symm.trans read)
    have later : (3000 : Int) ≤ wake.node.wall + ((u : Int) - wake.now) := by
      show (3000 : Int) ≤ 3000 + ((u : Int) - (0 : Nat))
      omega
    exact Bool.false_ne_true (young.symm.trans (wake_silent later))
  have lost : ⟨"d"⟩ ∈ dead := by
    refine (reckoned.verdict _).mpr (.inr ⟨by decide, ?_⟩)
    intro h
    obtain ⟨b, ⟨text, value, _⟩, same, _⟩ := h
    rw [same] at value
    have nothing : wake.store.value? 0 (wake.node.membership.keys.nodeKey ⟨"d"⟩) = none := by
      decide +kernel
    exact Option.some_ne_none text
      ((Store.value?_earlier (Nat.zero_le t) value).symm.trans nothing)
  refine ⟨silent, lost, fun u later => ⟨?_, reckoned.own u later⟩⟩
  refine Option.eq_none_iff_forall_ne_some.mpr fun v held => ?_
  obtain ⟨before, _, stays⟩ := (reckoned.store u later _ v).mp held
  have named : wake.store.value? 0 (lone.membership.keys.routeKey "/chat" ⟨"s"⟩) = some "d" := by
    decide +kernel
  obtain rfl := Option.some.inj (named.symm.trans (Store.value?_earlier (Nat.zero_le u) before))
  exact stays ⟨by decide +kernel, ⟨"d"⟩, lost, rfl⟩

end Node

end SessionHub
