import Mathlib.Logic.Function.Basic
import SessionHub.Proofs.Cluster.Census
import SessionHub.Proofs.KeyLayout
import SessionHub.Proofs.Program.History
import SessionHub.Proofs.Wire

/-!
# Silent nodes are found out, and no others

A node's record has two clocks. The store lets it lapse when its lifetime is over, and a sweep holds it
for too old when its last beat lies further back than that. If both clocks go alike and the store
answers at once, then the store's comes first: a sweep never sees a record that is too old, and it misses
the records of those that have been silent for a lifetime.

So a sweep's verdicts are **exact**: dead is a peer whose last write lies a lifetime back or more, and
nobody else. This holds of every sweep in every run of any number of nodes that join, beat and sweep,
as long as none of them leaves. Who writes in time is never held for dead; and who falls silent is held
for dead once by everyone who knew it, by the first sweep that comes when the lifetime is over.
-/

namespace SessionHub

/-- What happened that concerns liveness. -/
inductive Act (ι : Type) where
  /-- A node wrote its record. -/
  | wrote (a : NodeId) (t : Nat)
  /-- A node swept: whom it knew as its peers, and whom it held for dead. -/
  | swept (j : ι) (t : Nat) (known dead : List NodeId)
  deriving Repr, DecidableEq

variable {ι : Type}

namespace Act

def time : Act ι → Nat
  | .wrote _ t | .swept _ t _ _ => t

/-- When a node wrote its record, if that is what happened. -/
def write? (a : NodeId) : Act ι → Option Nat
  | .wrote b t => if b = a then some t else none
  | .swept .. => none

/-- Whether a node holds another for dead. -/
def Declares [DecidableEq ι] (j : ι) (a : NodeId) : Act ι → Bool
  | .swept i _ _ dead => i = j ∧ a ∈ dead
  | .wrote .. => false

/-- Whether a node sweeps, at some time or later. -/
def SweepsFrom [DecidableEq ι] (j : ι) (t : Nat) : Act ι → Bool
  | .swept i t' _ _ => i = j ∧ t ≤ t'
  | .wrote .. => false

end Act

/-- When a node wrote its record for the last time. -/
def lastWrite (a : NodeId) (acts : List (Act ι)) : Option Nat := (acts.filterMap (Act.write? a)).getLast?

@[simp] theorem lastWrite_nil (a : NodeId) : lastWrite a ([] : List (Act ι)) = none := rfl

theorem lastWrite_append (a : NodeId) (acts more : List (Act ι)) :
    lastWrite a (acts ++ more) = (lastWrite a more).or (lastWrite a acts) := by
  rw [lastWrite, List.filterMap_append, List.getLast?_append]
  rfl

theorem lastWrite_snoc (a : NodeId) (acts : List (Act ι)) (x : Act ι) :
    lastWrite a (acts ++ [x]) = (x.write? a).or (lastWrite a acts) := by
  rw [lastWrite_append]
  congr 1
  cases told : x.write? a <;> simp [lastWrite, told]

/-- While a node does not write, its last write stays what it is. -/
theorem lastWrite_append_of_silent {a : NodeId} {acts more : List (Act ι)}
    (silent : ∀ t, .wrote a t ∉ more) : lastWrite a (acts ++ more) = lastWrite a acts := by
  have none : more.filterMap (Act.write? a) = [] := by
    refine List.filterMap_eq_nil_iff.mpr fun x hx => ?_
    cases x with
    | wrote b t =>
      refine if_neg fun same => silent t ?_
      rwa [same] at hx
    | swept => rfl
  rw [lastWrite_append, lastWrite, none]
  rfl

/-- Whether a node's record is in force at some time. -/
def Alive (ttl : Nat) (a : NodeId) (t : Nat) (acts : List (Act ι)) : Prop :=
  ∃ t₀, lastWrite a acts = some t₀ ∧ t < t₀ + ttl

/-- **An exact verdict**: dead are the peers whose last write lies a lifetime back or more. -/
def Exact (ttl : Nat) (before : List (Act ι)) (x : Act ι) : Prop :=
  ∀ j t known dead, x = .swept j t known dead → ∀ a,
    a ∈ dead ↔ a ∈ known ∧ ∃ t₀, lastWrite a before = some t₀ ∧ t₀ + ttl ≤ t

/-- A write of a node's record comes less than a lifetime after the one before. -/
def InTime (ttl : Nat) (a : NodeId) (before : List (Act ι)) (x : Act ι) : Prop :=
  ∀ t, x = .wrote a t → ∀ t₀, lastWrite a before = some t₀ → t < t₀ + ttl

/-- Who writes in time does not write again when a lifetime has gone by. -/
theorem silent_of_inTime {ttl t₀ t : Nat} {a : NodeId} {pre post : List (Act ι)}
    (inTime : Always (InTime ttl a) (pre ++ post)) (last : lastWrite a pre = some t₀)
    (lapsed : t₀ + ttl ≤ t) (later : ∀ x ∈ post, t ≤ x.time) : ∀ t', .wrote a t' ∉ post := by
  induction post using List.reverseRecOn with
  | nil => exact fun _ => List.not_mem_nil
  | append_singleton post x ih =>
    rw [← List.append_assoc, always_snoc] at inTime
    have silent := ih inTime.1 fun y hy => later y (List.mem_append_left _ hy)
    intro t' wrote
    rcases List.mem_append.mp wrote with before | now
    · exact silent t' before
    · obtain rfl := List.mem_singleton.mp now
      have early := inTime.2 t' rfl t₀ (by rw [lastWrite_append_of_silent silent, last])
      have late : t ≤ t' := later (.wrote a t') (by simp)
      omega

/-! ## The cluster -/

/-- Nodes with a store in common, the clock, and what happened so far. -/
structure Cluster (ι : Type) where
  nodes : ι → Node
  store : Store := {}
  now : Nat := 0
  acts : List (Act ι) := []

namespace Cluster

/-- A node joins or beats. -/
def write [DecidableEq ι] (c : Cluster ι) (i : ι) (d : Duty) : Cluster ι :=
  let ended := (Node.attend d).run (Node.attending c.now) (c.nodes i) c.store
  { c with
    nodes := Function.update c.nodes i ended.2.1
    store := ended.2.2
    acts := c.acts ++ [.wrote (c.nodes i).id c.now] }

/-- A node sweeps. -/
def sweep [DecidableEq ι] (c : Cluster ι) (j : ι) : Cluster ι :=
  let ended := Node.sweep.run (Node.attending c.now) (c.nodes j) c.store
  { c with
    nodes := Function.update c.nodes j ended.2.1
    store := ended.2.2
    acts := c.acts ++ [.swept j c.now ((c.nodes j).membership.peers.map (·.1)) ended.1] }

/-- Time passes, and the wall clocks of the nodes go with the clock of the store. -/
def wait (epoch : Int) (c : Cluster ι) (t : Nat) : Cluster ι :=
  { c with nodes := fun i => { c.nodes i with wall := epoch + t }, now := t }

/-- Something happens that is no concern of liveness. -/
structure Aside (keys : KeyLayout) (c c' : Cluster ι) : Prop where
  nodes : ∀ i, Node.Unmoved (c.nodes i) (c'.nodes i)
  now : c'.now = c.now
  acts : c'.acts = c.acts
  keyed : c'.store.Keyed
  records : ∀ e, Store.startsWith e.1 keys.nodeStart = true → e.2.isLive c.now = true →
    (e ∈ c'.store.entries ↔ e ∈ c.store.entries)

/-- What may happen to nodes with a prefix in common of which none leaves. -/
inductive Step [DecidableEq ι] (keys : KeyLayout) (epoch : Int) : Cluster ι → Cluster ι → Prop
  | wait {c : Cluster ι} {t : Nat} (later : c.now ≤ t) (time : IsTime (epoch + t)) :
    Step keys epoch c (c.wait epoch t)
  | write {c : Cluster ι} (i : ι) {d : Duty} (keeper : Node.Keeper d) : Step keys epoch c (c.write i d)
  | sweep {c : Cluster ι} (j : ι) : Step keys epoch c (c.sweep j)
  | aside {c c' : Cluster ι} (change : Aside keys c c') : Step keys epoch c c'

/-- A node that has its settings and its clock from its cluster, and knows of nobody who left. -/
structure Member (keys : KeyLayout) (ttl : Nat) (wall : Int) (n : Node) : Prop where
  layout : n.membership.keys = keys
  lifetime : n.membership.ttl = ttl
  clock : n.wall = wall
  startedAt : IsTime n.membership.startedAt
  present : n.membership.destroyed = false
  departed : n.membership.departed = []

/-- What all nodes of a cluster have in common. -/
structure Shared (keys : KeyLayout) (ttl : Nat) (epoch : Int) (c : Cluster ι) : Prop where
  member : ∀ i, Member keys ttl (epoch + c.now) (c.nodes i)
  time : IsTime (epoch + c.now)
  keyed : c.store.Keyed

/-- A cluster in which nothing has happened yet. -/
structure Fresh (keys : KeyLayout) (ttl : Nat) (epoch : Int) (c : Cluster ι) : Prop
    extends Shared keys ttl epoch c where
  peers : ∀ i, (c.nodes i).membership.peers = []
  records : ∀ e ∈ c.store.entries, Store.startsWith e.1 keys.nodeStart = false
  acts : c.acts = []

/-! ## What is kept -/

/-- The record of a node and where it is kept, by when it was written. -/
def record (keys : KeyLayout) (ttl : Nat) (epoch : Int) (a : NodeId) (t : Nat) (startedAt : Int) :
    String × Entry :=
  (keys.nodeKey a,
    { value := Beacon.encode { node := a, lastBeat := epoch + t, startedAt }, expiresAt := t + ttl })

/-- **What is kept**: the store holds the records in force and no others, whoever is a peer has written
its record, and all verdicts were exact. -/
structure Sound (keys : KeyLayout) (ttl : Nat) (epoch : Int) (c : Cluster ι) : Prop
    extends Shared keys ttl epoch c where
  past : ∀ x ∈ c.acts, x.time ≤ c.now
  ordered : c.acts.Pairwise (·.time ≤ ·.time)
  written : ∀ e ∈ c.store.entries, Store.startsWith e.1 keys.nodeStart = true →
    e.2.isLive c.now = true → ∃ a t₀ startedAt, lastWrite a c.acts = some t₀ ∧
      IsTime (epoch + t₀) ∧ IsTime startedAt ∧ e = record keys ttl epoch a t₀ startedAt
  inForce : ∀ a t₀, lastWrite a c.acts = some t₀ → c.now < t₀ + ttl →
    ∃ startedAt, record keys ttl epoch a t₀ startedAt ∈ c.store.entries
  known : ∀ i a, Node.IsPeer a (c.nodes i) → ∃ t₀, lastWrite a c.acts = some t₀
  own : ∀ i, ¬ Node.IsPeer (c.nodes i).id (c.nodes i)
  verdicts : Always (Exact ttl) c.acts

variable {keys : KeyLayout} {ttl : Nat} {epoch : Int} {c c' : Cluster ι}

theorem Fresh.sound (h : Fresh keys ttl epoch c) : Sound keys ttl epoch c where
  toShared := h.toShared
  past := by simp [h.acts]
  ordered := by simp [h.acts]
  written e he under := absurd under (by simp [h.records e he])
  inForce := by simp [h.acts]
  known i a peer := absurd peer (by simp [Node.IsPeer, h.peers i])
  own i := by simp [Node.IsPeer, h.peers i]
  verdicts := by simp [h.acts]

theorem startsWith_nodeKey (keys : KeyLayout) (a : NodeId) :
    Store.startsWith (keys.nodeKey a) keys.nodeStart = true :=
  Store.startsWith_append ..

/-! ## Time passes -/

theorem Sound.wait (h : Sound keys ttl epoch c) {t : Nat} (later : c.now ≤ t)
    (time : IsTime (epoch + t)) : Sound keys ttl epoch (c.wait epoch t) where
  member i := { h.member i with clock := rfl }
  time := time
  keyed := h.keyed
  past x hx := Nat.le_trans (h.past x hx) later
  ordered := h.ordered
  written e he under live := h.written e he under (Store.isLive_later later live)
  inForce a t₀ last young := h.inForce a t₀ last (Nat.lt_of_le_of_lt later young)
  known := h.known
  own := h.own
  verdicts := h.verdicts

/-! ## Things aside -/

theorem Member.unmoved {n n' : Node} {wall : Int} (h : Member keys ttl wall n)
    (unmoved : Node.Unmoved n n') : Member keys ttl wall n' where
  layout := unmoved.keys.trans h.layout
  lifetime := unmoved.ttl.trans h.lifetime
  clock := unmoved.wall.trans h.clock
  startedAt := unmoved.startedAt ▸ h.startedAt
  present := unmoved.destroyed.trans h.present
  departed := unmoved.departed.trans h.departed

/-- What the nodes have in common they keep in common when they change in nothing that matters. -/
theorem Shared.unmoved (h : Shared keys ttl epoch c)
    (unmoved : ∀ i, Node.Unmoved (c.nodes i) (c'.nodes i)) (now : c'.now = c.now)
    (keyed : c'.store.Keyed) : Shared keys ttl epoch c' where
  member i := now ▸ (h.member i).unmoved (unmoved i)
  time := now ▸ h.time
  keyed := keyed

theorem isPeer_unmoved {n n' : Node} (unmoved : Node.Unmoved n n') (a : NodeId) :
    Node.IsPeer a n' ↔ Node.IsPeer a n := by
  rw [Node.IsPeer, Node.IsPeer, unmoved.peers]

theorem ordered_snoc {x : Act ι} (h : Sound keys ttl epoch c) (now : x.time = c.now) :
    (c.acts ++ [x]).Pairwise (·.time ≤ ·.time) := by
  refine List.pairwise_append.mpr ⟨h.ordered, List.pairwise_singleton .., fun y hy z hz => ?_⟩
  rw [List.mem_singleton.mp hz, now]
  exact h.past y hy

theorem past_snoc {x : Act ι} (h : Sound keys ttl epoch c) (now : x.time = c.now) :
    ∀ y ∈ c.acts ++ [x], y.time ≤ c.now := by
  intro y hy
  cases List.mem_append.mp hy with
  | inl hy => exact h.past y hy
  | inr hy => exact Nat.le_of_eq (by rw [List.mem_singleton.mp hy, now])

theorem Sound.aside (h : Sound keys ttl epoch c) (change : Aside keys c c') :
    Sound keys ttl epoch c' where
  toShared := h.toShared.unmoved change.nodes change.now change.keyed
  past := by
    rw [change.acts, change.now]
    exact h.past
  ordered := by
    rw [change.acts]
    exact h.ordered
  written e he under live := by
    rw [change.now] at live
    rw [change.acts]
    exact h.written e ((change.records e under live).mp he) under live
  inForce a t₀ last young := by
    rw [change.acts] at last
    rw [change.now] at young
    obtain ⟨start, there⟩ := h.inForce a t₀ last young
    exact ⟨start, (change.records _ (startsWith_nodeKey keys a) (decide_eq_true young)).mpr there⟩
  known i a peer := by
    rw [change.acts]
    exact h.known i a ((isPeer_unmoved (change.nodes i) a).mp peer)
  own i peer := h.own i ((isPeer_unmoved (change.nodes i) _).mp ((change.nodes i).id ▸ peer))
  verdicts := by
    rw [change.acts]
    exact h.verdicts

theorem exists_nodeKey {key : String} (under : Store.startsWith key keys.nodeStart = true) :
    ∃ a, keys.nodeKey a = key := by
  obtain ⟨rest, split⟩ := List.isPrefixOf_iff_prefix.mp under
  refine ⟨⟨String.ofList rest⟩, String.toList_inj.mp ?_⟩
  rw [KeyLayout.nodeKey, String.toList_append, String.toList_ofList, split]

/-- Calls that write no record and delete none are things aside. -/
theorem Shared.aside_perform (h : Shared keys ttl epoch c) {call : StoreCall}
    (other : ∀ a, ¬ call.Concerns (keys.nodeKey a)) :
    Aside keys c { c with store := (c.store.perform c.now call).2 } where
  nodes i := .refl _
  now := rfl
  acts := rfl
  keyed := h.keyed.perform c.now call
  records e under live := by
    obtain ⟨a, key⟩ := exists_nodeKey under
    have apart := other a
    rw [key] at apart
    cases call with
    | set k value ttl =>
      have ne : e.1 ≠ k := fun same => apart same.symm
      have new : e ≠ (k, { value, expiresAt := c.now + ttl }) := fun same => ne (congrArg Prod.fst same)
      simp [Store.perform, Store.insert, ne, new]
    | get k =>
      dsimp only [Store.perform]
      split
      · rfl
      · simp [Store.prune, live]
    | delete k =>
      have ne : e.1 ≠ k := fun same => apart same.symm
      simp [Store.perform, Store.erase, ne]
    | scan start => simp [Store.perform, Store.pruneAll, live]
    | publish channel payload => rfl
    | subscribe pattern => rfl

/-! ## A sweep's census -/

/-- What a sweep reads in a record that a node wrote. -/
theorem reads_record {n : Node} (departed : n.membership.departed = []) {a : NodeId} {t₀ : Nat}
    {startedAt : Int} (beat : IsTime (epoch + t₀)) (started : IsTime startedAt) :
    n.reads ((record keys ttl epoch a t₀ startedAt).1, (record keys ttl epoch a t₀ startedAt).2.value)
      = if a = n.id then none
        else some (keys.nodeKey a, { node := a, lastBeat := epoch + t₀, startedAt }) := by
  have read := Beacon.decode_encode (b := { node := a, lastBeat := epoch + t₀, startedAt }) beat started
  simp only [record, Node.reads, read, departed]
  simp

theorem Member.departed_pruned {n : Node} {wall : Int} (h : Member keys ttl wall n) :
    (n.pruneDeparted n.wall).membership.departed = [] := by
  show n.membership.departed.filter _ = []
  rw [h.departed]
  rfl

/-- What a sweep finds are records in force, of other nodes. -/
theorem Sound.mem_survey (h : Sound keys ttl epoch c) (j : ι) {r : String × Beacon}
    (found : r ∈ Node.survey c.now (c.nodes j) c.store) :
    ∃ t₀, lastWrite r.2.node c.acts = some t₀ ∧ c.now < t₀ + ttl ∧ r.2.node ≠ (c.nodes j).id ∧
      r.2.lastBeat = epoch + t₀ := by
  obtain ⟨pair, there, read⟩ := List.mem_filterMap.mp found
  obtain ⟨e, he, live, under, rfl⟩ := Store.mem_pairs.mp there
  rw [(h.member j).layout] at under
  obtain ⟨a, t₀, start, last, beat, started, rfl⟩ := h.written e he under live
  rw [reads_record (h.member j).departed_pruned beat started] at read
  split at read
  · exact nomatch read
  · rename_i other
    obtain rfl := Option.some.inj read
    exact ⟨t₀, last, of_decide_eq_true live, other, rfl⟩

/-- And it finds all of them. -/
theorem Sound.exists_survey (h : Sound keys ttl epoch c) (j : ι) {a : NodeId}
    (alive : Alive ttl a c.now c.acts) (other : a ≠ (c.nodes j).id) :
    ∃ r ∈ Node.survey c.now (c.nodes j) c.store, r.2.node = a := by
  obtain ⟨t₀, last, young⟩ := alive
  obtain ⟨start, there⟩ := h.inForce a t₀ last young
  have under := startsWith_nodeKey keys a
  have live : (record keys ttl epoch a t₀ start).2.isLive c.now = true := decide_eq_true young
  obtain ⟨b, t₁, start', _, beat, started, same⟩ := h.written _ there under live
  obtain rfl : a = b := KeyLayout.nodeKey_inj (congrArg Prod.fst same)
  refine ⟨(keys.nodeKey a, { node := a, lastBeat := epoch + t₁, startedAt := start' }),
    List.mem_filterMap.mpr ⟨_, Store.mem_pairs.mpr ⟨_, there, live, ?_, rfl⟩, ?_⟩, rfl⟩
  · rw [(h.member j).layout]
    exact under
  · rw [same, reads_record (h.member j).departed_pruned beat started]
    exact if_neg other

/-- **No record that a sweep finds is too old**: the store's clock comes first. -/
theorem Sound.not_expired (h : Sound keys ttl epoch c) (j : ι) {r : String × Beacon}
    (found : r ∈ Node.survey c.now (c.nodes j) c.store) :
    r.2.isExpiredAt (c.nodes j).wall ttl = false := by
  obtain ⟨t₀, _, young, _, beat⟩ := h.mem_survey j found
  refine decide_eq_false ?_
  rw [Beacon.ageAt, beat, (h.member j).clock]
  omega

theorem Sound.stale_survey (h : Sound keys ttl epoch c) (j : ι) :
    Node.stale (c.nodes j).wall (c.nodes j).membership.ttl (Node.survey c.now (c.nodes j) c.store)
      = [] := by
  refine List.filter_eq_nil_iff.mpr fun r found => ?_
  rw [(h.member j).lifetime, h.not_expired j found]
  exact Bool.false_ne_true

/-- **Whom a sweep sees**: the other nodes whose record is in force. -/
theorem Sound.mem_fresh_survey (h : Sound keys ttl epoch c) (j : ι) (a : NodeId) :
    a ∈ Node.names (Node.fresh (c.nodes j).wall (c.nodes j).membership.ttl
        (Node.survey c.now (c.nodes j) c.store)) ↔ a ≠ (c.nodes j).id ∧ Alive ttl a c.now c.acts := by
  rw [Node.names, List.mem_map]
  constructor
  · rintro ⟨r, kept, rfl⟩
    obtain ⟨t₀, last, young, other, _⟩ := h.mem_survey j (List.mem_filter.mp kept).1
    exact ⟨other, t₀, last, young⟩
  · rintro ⟨other, alive⟩
    obtain ⟨r, found, rfl⟩ := h.exists_survey j alive other
    refine ⟨r, List.mem_filter.mpr ⟨found, ?_⟩, rfl⟩
    rw [(h.member j).lifetime, h.not_expired j found]
    rfl

/-- Who is no longer alive has written its record, a lifetime back or more. -/
theorem Sound.not_alive_iff (h : Sound keys ttl epoch c) {j : ι} {a : NodeId}
    (peer : Node.IsPeer a (c.nodes j)) :
    ¬ Alive ttl a c.now c.acts ↔ ∃ t₀, lastWrite a c.acts = some t₀ ∧ t₀ + ttl ≤ c.now := by
  obtain ⟨t₀, last⟩ := h.known j a peer
  simp [Alive, last]

/-- **Whom a sweep holds for dead**: the peers whose last write lies a lifetime back or more. -/
theorem Sound.mem_dead (h : Sound keys ttl epoch c) (j : ι) (a : NodeId) :
    a ∈ (Node.sweep.run (Node.attending c.now) (c.nodes j) c.store).1 ↔
      Node.IsPeer a (c.nodes j) ∧ ∃ t₀, lastWrite a c.acts = some t₀ ∧ t₀ + ttl ≤ c.now := by
  have surveyed := Node.sweep_run c.now (c.nodes j) c.store
  rw [surveyed.verdict, h.stale_survey, h.mem_fresh_survey]
  constructor
  · rintro (none | ⟨peer, unseen⟩)
    · exact nomatch none
    · have other : a ≠ (c.nodes j).id := fun same => h.own j (same ▸ peer)
      exact ⟨peer, (h.not_alive_iff peer).mp fun alive => unseen ⟨other, alive⟩⟩
  · rintro ⟨peer, old⟩
    exact .inr ⟨peer, fun seen => (h.not_alive_iff peer).mpr old seen.2⟩

/-- Who goes on writing in time is held for dead by nobody. -/
theorem Sound.not_mem_dead (h : Sound keys ttl epoch c) {a : NodeId}
    (inTime : Always (InTime ttl a) c.acts) {pre post : List (Act ι)} {j : ι} {t : Nat}
    {known dead : List NodeId} (split : c.acts = pre ++ .swept j t known dead :: post)
    (goesOn : (∃ t', .wrote a t' ∈ post) ∨ Alive ttl a c.now c.acts) : a ∉ dead := by
  intro held
  obtain ⟨_, t₀, last, lapsed⟩ := (h.verdicts pre _ post split j t known dead rfl a).mp held
  have now : t ≤ c.now := h.past (.swept j t known dead) (by simp [split])
  have later : ∀ x ∈ .swept j t known dead :: post, t ≤ x.time := by
    have ordered := (List.pairwise_append.mp (split ▸ h.ordered)).2.1
    rintro x (_ | ⟨_, hx⟩)
    · exact Nat.le_refl t
    · exact List.rel_of_pairwise_cons ordered hx
  have silent := silent_of_inTime (split ▸ inTime) last lapsed later
  rcases goesOn with ⟨t', again⟩ | ⟨t₁, latest, young⟩
  · exact silent t' (List.mem_cons_of_mem _ again)
  · rw [split, lastWrite_append_of_silent silent, last] at latest
    obtain rfl := Option.some.inj latest
    omega

/-! ## Nodes join and beat -/

variable [DecidableEq ι]

theorem update_unmoved {i : ι} {n : Node} (unmoved : Node.Unmoved (c.nodes i) n) (j : ι) :
    Node.Unmoved (c.nodes j) (Function.update c.nodes i n j) := by
  rcases eq_or_ne j i with rfl | other
  · rw [Function.update_self]
    exact unmoved
  · rw [Function.update_of_ne other]
    exact .refl _

theorem lastWrite_write (c : Cluster ι) (i : ι) (d : Duty) (a : NodeId) :
    lastWrite a (c.write i d).acts
      = if (c.nodes i).id = a then some c.now else lastWrite a c.acts := by
  show lastWrite a (c.acts ++ [_]) = _
  rw [lastWrite_snoc, Act.write?]
  split <;> simp

section Write

variable (h : Sound keys ttl epoch c) (i : ι) {d : Duty} (keeper : Node.Keeper d)
include h keeper

/-- What a node that joins or beats writes. -/
theorem Sound.entries_write : (c.write i d).store.entries
    = c.store.entries.filter (·.1 != keys.nodeKey (c.nodes i).id) ++
      [record keys ttl epoch (c.nodes i).id c.now (c.nodes i).membership.startedAt] := by
  obtain ⟨_, entries⟩ := Node.keeper_run (t := c.now) (s := c.store) keeper (h.member i).present
  refine entries.trans ?_
  rw [Node.recorded, Store.insert, Node.recordKey, (h.member i).layout, Node.beacon,
    (h.member i).clock, (h.member i).lifetime]
  rfl

theorem Sound.keyed_write : (c.write i d).store.Keyed := by
  have inserted := Store.keyed_insert h.keyed c.now (keys.nodeKey (c.nodes i).id)
    (record keys ttl epoch (c.nodes i).id c.now (c.nodes i).membership.startedAt).2.value ttl
  rw [Store.Keyed, h.entries_write i keeper]
  exact inserted

theorem Sound.unmoved_write (j : ι) : Node.Unmoved (c.nodes j) ((c.write i d).nodes j) := by
  obtain ⟨unmoved, _⟩ := Node.keeper_run (t := c.now) (s := c.store) keeper (h.member i).present
  exact update_unmoved unmoved j

/-- The records are then those of the others, and the one that was written. -/
theorem Sound.written_write {e : String × Entry} (he : e ∈ (c.write i d).store.entries)
    (under : Store.startsWith e.1 keys.nodeStart = true) (live : e.2.isLive c.now = true) :
    ∃ a t₀ startedAt, lastWrite a (c.write i d).acts = some t₀ ∧ IsTime (epoch + t₀) ∧
      IsTime startedAt ∧ e = record keys ttl epoch a t₀ startedAt := by
  rw [h.entries_write i keeper] at he
  rcases List.mem_append.mp he with old | new
  · obtain ⟨he, other⟩ := List.mem_filter.mp old
    obtain ⟨a, t₀, start, before, beat, started, rfl⟩ := h.written e he under live
    have apart : (c.nodes i).id ≠ a := by
      rintro rfl
      simp [record] at other
    exact ⟨a, t₀, start, by rw [lastWrite_write, if_neg apart, before], beat, started, rfl⟩
  · have now := (lastWrite_write c i d (c.nodes i).id).trans (if_pos rfl)
    exact ⟨_, _, _, now, h.time, (h.member i).startedAt, List.mem_singleton.mp new⟩

theorem Sound.inForce_write {a : NodeId} {t₀ : Nat} (last : lastWrite a (c.write i d).acts = some t₀)
    (young : c.now < t₀ + ttl) :
    ∃ startedAt, record keys ttl epoch a t₀ startedAt ∈ (c.write i d).store.entries := by
  rw [lastWrite_write] at last
  rw [h.entries_write i keeper]
  by_cases own : (c.nodes i).id = a
  · rw [if_pos own] at last
    obtain rfl := Option.some.inj last
    subst own
    exact ⟨_, List.mem_append_right _ (List.mem_singleton_self _)⟩
  · rw [if_neg own] at last
    obtain ⟨start, there⟩ := h.inForce a t₀ last young
    have apart : keys.nodeKey a ≠ keys.nodeKey (c.nodes i).id := fun same =>
      own (KeyLayout.nodeKey_inj same).symm
    exact ⟨start, List.mem_append_left _ (List.mem_filter.mpr ⟨there, by simpa [record] using apart⟩)⟩

/-- **Writes keep it.** -/
theorem Sound.write : Sound keys ttl epoch (c.write i d) where
  toShared := h.toShared.unmoved (h.unmoved_write i keeper) rfl (h.keyed_write i keeper)
  past := past_snoc h rfl
  ordered := ordered_snoc h rfl
  written _ he under live := h.written_write i keeper he under live
  inForce _ _ last young := h.inForce_write i keeper last young
  known j a peer := by
    obtain ⟨t₀, before⟩ := h.known j a ((isPeer_unmoved (h.unmoved_write i keeper j) a).mp peer)
    rw [lastWrite_write]
    split
    · exact ⟨_, rfl⟩
    · exact ⟨t₀, before⟩
  own j peer := by
    have unmoved := h.unmoved_write i keeper j
    exact h.own j ((isPeer_unmoved unmoved _).mp (unmoved.id ▸ peer))
  verdicts := always_snoc.mpr ⟨h.verdicts, nofun⟩

end Write

/-! ## Nodes sweep -/

/-- **Whom a node knows when it has swept**: the other nodes whose record is in force. -/
theorem Sound.isPeer_sweep (h : Sound keys ttl epoch c) (j : ι) (a : NodeId) :
    Node.IsPeer a ((c.sweep j).nodes j) ↔ a ≠ (c.nodes j).id ∧ Alive ttl a c.now c.acts := by
  have surveyed := Node.sweep_run c.now (c.nodes j) c.store
  have node : (c.sweep j).nodes j = (Node.sweep.run (Node.attending c.now) (c.nodes j) c.store).2.1 :=
    Function.update_self ..
  rw [node, surveyed.peers, h.mem_dead, h.mem_fresh_survey]
  constructor
  · rintro ⟨peer | seen, survived⟩
    · refine ⟨fun same => h.own j (same ▸ peer), ?_⟩
      by_contra lapsed
      exact survived ⟨peer, (h.not_alive_iff peer).mp lapsed⟩
    · exact seen
  · rintro ⟨other, alive⟩
    exact ⟨.inr ⟨other, alive⟩, fun dead => (h.not_alive_iff dead.1).mpr dead.2 alive⟩

theorem Member.swept {n n' : Node} {wall : Int} (h : Member keys ttl wall n) {t : Nat}
    {s s' : Store} {dead : List NodeId} (surveyed : Node.Surveyed t n s dead n' s') :
    Member keys ttl wall n' where
  layout := surveyed.keys.trans h.layout
  lifetime := surveyed.ttl.trans h.lifetime
  clock := surveyed.wall.trans h.clock
  startedAt := surveyed.startedAt ▸ h.startedAt
  present := surveyed.destroyed.trans h.present
  departed := surveyed.departed.trans h.departed_pruned

/-- **Sweeps keep it.** -/
theorem Sound.sweep (h : Sound keys ttl epoch c) (j : ι) : Sound keys ttl epoch (c.sweep j) := by
  have surveyed := Node.sweep_run c.now (c.nodes j) c.store
  have last : ∀ a, lastWrite a (c.sweep j).acts = lastWrite a c.acts := fun a =>
    lastWrite_snoc a c.acts _
  have name : ((c.sweep j).nodes j).id = (c.nodes j).id := by
    show (Function.update c.nodes j _ j).id = _
    rw [Function.update_self, surveyed.id]
  have aside : ∀ i, i ≠ j → (c.sweep j).nodes i = c.nodes i := fun i other =>
    Function.update_of_ne other ..
  exact {
    member := (Function.forall_update_iff _ fun _ n => Member keys ttl (epoch + c.now) n).mpr
      ⟨(h.member j).swept surveyed, fun i _ => h.member i⟩
    time := h.time
    keyed := surveyed.keyed h.keyed
    past := past_snoc h rfl
    ordered := ordered_snoc h rfl
    written := fun e he under live => by
      simp only [last]
      exact h.written e ((surveyed.entries e).mp he).1 under live
    inForce := fun a t₀ latest young => by
      rw [last] at latest
      obtain ⟨start, there⟩ := h.inForce a t₀ latest young
      refine ⟨start, (surveyed.entries _).mpr ⟨there, decide_eq_true young, ?_⟩⟩
      rw [h.stale_survey]
      exact List.not_mem_nil
    known := fun i a peer => by
      rw [last]
      rcases eq_or_ne i j with rfl | other
      · obtain ⟨_, t₀, latest, _⟩ := (h.isPeer_sweep i a).mp peer
        exact ⟨t₀, latest⟩
      · exact h.known i a (aside i other ▸ peer)
    own := fun i peer => by
      rcases eq_or_ne i j with rfl | other
      · exact ((h.isPeer_sweep i _).mp peer).1 name
      · rw [aside i other] at peer
        exact h.own i peer
    verdicts := always_snoc.mpr ⟨h.verdicts, fun j' t known dead same a => by
      obtain ⟨rfl, rfl, rfl, rfl⟩ := Act.swept.inj same
      exact h.mem_dead j a⟩ }

/-- **One step keeps it.** -/
theorem Sound.step (h : Sound keys ttl epoch c) (step : Step keys epoch c c') :
    Sound keys ttl epoch c' := by
  cases step with
  | wait later time => exact h.wait later time
  | write i keeper => exact h.write i keeper
  | sweep j => exact h.sweep j
  | aside change => exact h.aside change

/-- A run of a cluster. -/
def Reaches (keys : KeyLayout) (epoch : Int) : Cluster ι → Cluster ι → Prop :=
  Relation.ReflTransGen (Step keys epoch)

/-- **A run keeps it.** -/
theorem Reaches.sound (run : Reaches keys epoch c c') (h : Sound keys ttl epoch c) :
    Sound keys ttl epoch c' := by
  induction run with
  | refl => exact h
  | tail _ step ih => exact ih.step step

/-! ## What comes of a silence -/

/-- What a node has made of a silence, by what it did since: nothing as long as it has not swept late
enough; and when it has, it has forgotten who fell silent, after one verdict. -/
def Settles (j : ι) (a : NodeId) (late : Nat) (since : List (Act ι)) (n : Node) : Prop :=
  (Node.IsPeer a n ∧ since.any (Act.SweepsFrom j late) = false ∧ since.countP (Act.Declares j a) = 0) ∨
    (¬ Node.IsPeer a n ∧ since.any (Act.SweepsFrom j late) = true ∧
      since.countP (Act.Declares j a) = 1)

/-- Where a node does not sweep, nothing is settled. -/
theorem Settles.idle {j : ι} {a : NodeId} {late : Nat} {since more : List (Act ι)} {n n' : Node}
    (h : Settles j a late since n) (same : Node.IsPeer a n' ↔ Node.IsPeer a n)
    (idle : ∀ x ∈ more, x.SweepsFrom j late = false ∧ x.Declares j a = false) :
    Settles j a late (since ++ more) n' := by
  have sweeps : more.any (Act.SweepsFrom j late) = false :=
    List.any_eq_false.mpr fun x hx => by simp [(idle x hx).1]
  have declares : more.countP (Act.Declares j a) = 0 :=
    List.countP_eq_zero.mpr fun x hx => by simp [(idle x hx).2]
  rwa [Settles, List.any_append, List.countP_append, sweeps, declares, Bool.or_false, Nat.add_zero,
    same]

/-- **A sweep settles a silence that has lasted a lifetime**, and no other. -/
theorem Settles.sweep (h : Sound keys ttl epoch c) {j : ι} {a : NodeId} {t₀ : Nat}
    (last : lastWrite a c.acts = some t₀) {since : List (Act ι)} (past : since ⊆ c.acts)
    (settles : Settles j a (t₀ + ttl) since (c.nodes j)) :
    Settles j a (t₀ + ttl) (since ++ [.swept j c.now ((c.nodes j).membership.peers.map (·.1))
      (Node.sweep.run (Node.attending c.now) (c.nodes j) c.store).1]) ((c.sweep j).nodes j) := by
  have held := h.mem_dead j a
  have knows := h.isPeer_sweep j a
  simp only [Alive, last, Option.some.injEq, exists_eq_left'] at held knows
  rw [Settles, List.any_append, List.countP_append, knows]
  by_cases lapsed : t₀ + ttl ≤ c.now
  · refine .inr ⟨fun both => absurd both.2 (by omega), by simp [Act.SweepsFrom, lapsed], ?_⟩
    rcases settles with ⟨peer, _, count⟩ | ⟨stranger, _, count⟩
    · simp [Act.Declares, held, peer, lapsed, count]
    · simp [Act.Declares, held, stranger, count]
  · rcases settles with ⟨peer, early, count⟩ | ⟨_, late, _⟩
    · have other : a ≠ (c.nodes j).id := fun same => h.own j (same ▸ peer)
      refine .inl ⟨⟨other, by omega⟩, ?_, ?_⟩
      · simp [early, Act.SweepsFrom, lapsed]
      · simp [count, Act.Declares, held, lapsed]
    · obtain ⟨x, hx, swept⟩ := List.any_eq_true.mp late
      have before := h.past x (past hx)
      cases x with
      | wrote => exact nomatch swept
      | swept i t known dead =>
        have late : t₀ + ttl ≤ t := (of_decide_eq_true swept).2
        exact absurd (Nat.le_trans late before) lapsed

/-- **One step settles a silence or leaves it as it is.** -/
theorem Settles.step (h : Sound keys ttl epoch c) (step : Step keys epoch c c') {j : ι} {a : NodeId}
    {t₀ : Nat} (last : lastWrite a c.acts = some t₀) {since : List (Act ι)} (past : since ⊆ c.acts)
    (settles : Settles j a (t₀ + ttl) since (c.nodes j)) :
    ∃ more, c'.acts = c.acts ++ more ∧ Settles j a (t₀ + ttl) (since ++ more) (c'.nodes j) := by
  cases step with
  | wait later time => exact ⟨[], (List.append_nil _).symm, settles.idle .rfl nofun⟩
  | aside change =>
    exact ⟨[], by rw [change.acts, List.append_nil],
      settles.idle (isPeer_unmoved (change.nodes j) a) nofun⟩
  | write i keeper =>
    refine ⟨_, rfl, settles.idle (isPeer_unmoved (h.unmoved_write i keeper j) a) fun x hx => ?_⟩
    rw [List.mem_singleton.mp hx]
    exact ⟨rfl, rfl⟩
  | sweep i =>
    refine ⟨_, rfl, ?_⟩
    rcases eq_or_ne i j with rfl | other
    · exact settles.sweep h last past
    · have aside : (c.sweep i).nodes j = c.nodes j := Function.update_of_ne other.symm ..
      refine settles.idle (by rw [aside]) fun x hx => ?_
      rw [List.mem_singleton.mp hx]
      simp [Act.SweepsFrom, Act.Declares, other]

/-- What happened stays what happened. -/
theorem Step.acts (step : Step keys epoch c c') : ∃ more, c'.acts = c.acts ++ more := by
  cases step with
  | wait => exact ⟨[], (List.append_nil _).symm⟩
  | aside change => exact ⟨[], by rw [change.acts, List.append_nil]⟩
  | write => exact ⟨_, rfl⟩
  | sweep => exact ⟨_, rfl⟩

/-- **A run settles a silence**, as long as it lasts. -/
theorem Reaches.settles (run : Reaches keys epoch c c') (h : Sound keys ttl epoch c) {j : ι}
    {a : NodeId} {t₀ : Nat} (last : lastWrite a c.acts = some t₀) (peer : Node.IsPeer a (c.nodes j)) :
    ∃ more, c'.acts = c.acts ++ more ∧
      ((∀ t, .wrote a t ∉ more) → Settles j a (t₀ + ttl) more (c'.nodes j)) := by
  induction run with
  | refl => exact ⟨[], (List.append_nil _).symm, fun _ => .inl ⟨peer, rfl, rfl⟩⟩
  | tail run step ih =>
    obtain ⟨more, acts, settles⟩ := ih
    obtain ⟨new, grown⟩ := step.acts
    refine ⟨more ++ new, by rw [grown, acts, List.append_assoc], fun silent => ?_⟩
    have before : ∀ t, .wrote a t ∉ more := fun t wrote => silent t (List.mem_append_left _ wrote)
    have still := (congrArg (lastWrite a) acts).trans (lastWrite_append_of_silent before)
    obtain ⟨new', grown', settled⟩ := Settles.step (Reaches.sound run h) step (still.trans last)
      (acts ▸ List.subset_append_right ..) (settles before)
    obtain rfl := List.append_cancel_left (grown.symm.trans grown')
    exact settled

/-- **Failure detection is exact.** In every run of nodes that join, beat and sweep over a store that
answers at once, and of which none leaves, a sweep holds for dead the peers whose last write lies a
lifetime back or more, and nobody else. Whoever writes again in time, or whose record is in force to
the end, is held for dead by nobody. And if a node falls silent, then whoever knows it holds it for dead
once if it ever sweeps after the lifetime is over, and otherwise not at all. -/
theorem detection_exact {c₀ : Cluster ι} (fresh : Fresh keys ttl epoch c₀)
    (run : Reaches keys epoch c₀ c) :
    (∀ pre j t known dead post, c.acts = pre ++ .swept j t known dead :: post → ∀ a,
      a ∈ dead ↔ a ∈ known ∧ ∃ t₀, lastWrite a pre = some t₀ ∧ t₀ + ttl ≤ t) ∧
    (∀ a, Always (InTime ttl a) c.acts → ∀ pre j t known dead post,
      c.acts = pre ++ .swept j t known dead :: post →
      (∃ t', .wrote a t' ∈ post) ∨ Alive ttl a c.now c.acts → a ∉ dead) ∧
    (∀ j a t₀ c' more, Node.IsPeer a (c.nodes j) → lastWrite a c.acts = some t₀ →
      Reaches keys epoch c c' → c'.acts = c.acts ++ more → (∀ t, .wrote a t ∉ more) →
      more.countP (Act.Declares j a) = if more.any (Act.SweepsFrom j (t₀ + ttl)) then 1 else 0) := by
  have h := run.sound fresh.sound
  refine ⟨?_, ?_, ?_⟩
  · exact fun pre j t known dead post split => h.verdicts pre _ post split j t known dead rfl
  · exact fun a inTime pre j t known dead post split => h.not_mem_dead inTime split
  · intro j a t₀ c' more peer last onward acts silent
    obtain ⟨more', acts', settles⟩ := onward.settles h last peer
    obtain rfl := List.append_cancel_left (acts.symm.trans acts')
    rcases settles silent with ⟨_, early, count⟩ | ⟨_, late, count⟩
    · rw [early, count]
      rfl
    · rw [late, count]
      rfl

/-! ## A node that falls silent -/

/-- Two nodes that have not joined yet. -/
def outset : Cluster Bool where
  nodes i := { Node.lone with id := if i then ⟨"b"⟩ else ⟨"a"⟩ }

/-- One of them joins, the other one sweeps, and the first one beats. -/
def beating : Cluster Bool :=
  (((outset.write true .join).sweep false).wait 1000 500).write true .heartbeat

/-- The other one sweeps again. -/
def watched : Cluster Bool := beating.sweep false

/-- It sweeps twice more when a lifetime has gone by without a beat. -/
def fallen : Cluster Bool := ((watched.wait 1000 1500).sweep false).sweep false

theorem fresh_outset : Fresh Node.lone.membership.keys 1000 1000 outset where
  member _ := ⟨rfl, rfl, rfl, show IsTime 0 from ⟨by decide, by decide⟩, rfl, rfl⟩
  time := ⟨by decide, by decide⟩
  keyed := List.nodup_nil
  peers _ := rfl
  records := nofun
  acts := rfl

theorem beating_reached : Reaches Node.lone.membership.keys 1000 outset beating :=
  (((Relation.ReflTransGen.refl.tail (.write true (d := .join) trivial)).tail (.sweep false)).tail
    (.wait (by decide) ⟨by decide, by decide⟩)).tail (.write true (d := .heartbeat) trivial)

theorem fallen_reached : Reaches Node.lone.membership.keys 1000 watched fallen :=
  ((Relation.ReflTransGen.refl.tail (.wait (by decide) ⟨by decide, by decide⟩)).tail
    (.sweep false)).tail (.sweep false)

theorem isPeer_watched : Node.IsPeer ⟨"b"⟩ (watched.nodes false) := by
  have sound := beating_reached.sound fresh_outset.sound
  refine (sound.isPeer_sweep false ⟨"b"⟩).mpr ⟨by decide, 500, rfl, by decide⟩

theorem acts_sweep (c : Cluster ι) (j : ι) :
    ∃ known dead, (c.sweep j).acts = c.acts ++ [.swept j c.now known dead] := ⟨_, _, rfl⟩

theorem acts_watched : ∃ known dead known' dead', watched.acts = [.wrote ⟨"b"⟩ 0,
    .swept false 0 known dead, .wrote ⟨"b"⟩ 500, .swept false 500 known' dead'] :=
  ⟨_, _, _, _, rfl⟩

theorem acts_fallen : ∃ known dead known' dead', fallen.acts = watched.acts ++
    [.swept false 1500 known dead, .swept false 1500 known' dead'] := by
  obtain ⟨known, dead, first⟩ := acts_sweep (watched.wait 1000 1500) false
  obtain ⟨known', dead', second⟩ := acts_sweep ((watched.wait 1000 1500).sweep false) false
  refine ⟨known, dead, known', dead', ?_⟩
  rw [fallen, second, first, List.append_assoc]
  rfl

/-- Of its sweeps in time none holds the other node for dead, and of the two that come late one does. -/
theorem fallen_detected :
    Fresh Node.lone.membership.keys 1000 1000 outset ∧
      Reaches Node.lone.membership.keys 1000 outset watched ∧
      Reaches Node.lone.membership.keys 1000 watched fallen ∧
      (∃ known dead known' dead', watched.acts = [.wrote ⟨"b"⟩ 0, .swept false 0 known dead,
        .wrote ⟨"b"⟩ 500, .swept false 500 known' dead'] ∧ ⟨"b"⟩ ∉ dead ∧ ⟨"b"⟩ ∉ dead') ∧
      ∃ more, fallen.acts = watched.acts ++ more ∧ more.countP (Act.SweepsFrom false 1500) = 2 ∧
        more.countP (Act.Declares false ⟨"b"⟩) = 1 := by
  have run := beating_reached.tail (.sweep false)
  obtain ⟨_, steady, silent⟩ := detection_exact fresh_outset run
  obtain ⟨known, dead, known', dead', acts⟩ := acts_watched
  obtain ⟨known₁, dead₁, known₂, dead₂, onward⟩ := acts_fallen
  have inTime : Always (InTime 1000 ⟨"b"⟩) watched.acts := by
    have first : InTime 1000 ⟨"b"⟩ [] (.wrote ⟨"b"⟩ 0 : Act Bool) := nofun
    have second : InTime 1000 ⟨"b"⟩ [.wrote ⟨"b"⟩ 0, .swept false 0 known dead] (.wrote ⟨"b"⟩ 500) := by
      intro t now t₀ last
      obtain rfl : 500 = t := (Act.wrote.inj now).2
      obtain rfl : 0 = t₀ := Option.some.inj last
      decide
    rw [acts]
    show Always _ (((([] ++ [_]) ++ [_]) ++ [_]) ++ [_])
    simp only [always_snoc]
    exact ⟨⟨⟨⟨always_nil _, first⟩, nofun⟩, second⟩, nofun⟩
  refine ⟨fresh_outset, run, fallen_reached, ⟨known, dead, known', dead', acts, ?_, ?_⟩, _, onward,
    by simp [Act.SweepsFrom], ?_⟩
  · exact steady ⟨"b"⟩ inTime [_] false 0 known dead _ acts (.inl ⟨500, by simp⟩)
  · exact steady ⟨"b"⟩ inTime [_, _, _] false 500 known' dead' [] acts (.inr ⟨500, rfl, by decide⟩)
  · refine (silent false ⟨"b"⟩ 500 fallen _ isPeer_watched rfl fallen_reached onward (by simp)).trans ?_
    simp [Act.SweepsFrom]

end Cluster

end SessionHub
